import GuestHost.Proofs.Calls
import GuestHost.Proofs.Protocol
import GuestHost.Proofs.Session.Course
import GuestHost.Proofs.Session.Told

/-! A session makes the calls of its protocol. Each operation obeys it, as long as the guest does
not fault, and so does every run of them. -/
namespace GuestHost

namespace Session

def protocol (s : Session) : Protocol where
  running := s.lifecycle = .running
  saved := s.snapshot.isSome
  input := s.input

/-- Whether the image has room where the guest wants it once it is initialized. -/
def imageFits (s : Session) : Bool :=
  match (Vm.init >>= fun _ => Vm.romAddress) s.vm with
  | ⟨.ok ptr, vm, _⟩ => ptr.toNat + s.romLength ≤ vm.memory.size
  | _ => false

/-- What the guest has to say to a request before its outcome is known. -/
def fits (s : Session) : Request → Bool
  | .start => s.imageFits
  | .save => s.vm.stateFits
  | _ => false

/-- The requests of a run, each with what the guest has to say to it at its turn. -/
def answered : List Operation → Session → List (Request × Bool)
  | [], _ => []
  | op :: rest, s =>
    let request := op.request s.config.hotkeys
    (request, s.fits request) :: answered rest (op.act s).state

/-- The action makes the calls of the request and moves on as the protocol does, unless it ends in
a fault. -/
def Obeys (s : Session) (x : Act Error Session Unit) (request : Request) : Prop :=
  (x s).state.vm.faulted = false →
    calls (x s).trace = (s.protocol.script (s.fits request) request).filter s.vm.entry.offers ∧
      (x s).state.protocol = s.protocol.after (s.fits request) request

variable {s s' : Session} {request : Request} {x y : Act Error Session Unit}

namespace Obeys

theorem of_makes {r : Except Error Unit} {cs : List Call} (h : x.Makes s cs r s')
    (hcs : cs = (s.protocol.script (s.fits request) request).filter s.vm.entry.offers)
    (hp : s'.protocol = s.protocol.after (s.fits request) request) : Obeys s x request := by
  obtain ⟨t, ht, rfl⟩ := h
  intro _
  rw [ht]
  exact ⟨hcs, hp⟩

theorem congr (h : x s = y s) (hy : Obeys s y request) : Obeys s x request := by
  unfold Obeys
  rw [h]
  exact hy

/-- The host may say something first. -/
theorem after {t : List Output} (h : x s = ⟨.ok (), s', t⟩) (ht : calls t = [])
    (hvm : s'.vm = s.vm) (hp : s'.protocol = s.protocol) (hfits : s'.fits request = s.fits request)
    (hy : Obeys s' y request) : Obeys s (x >>= fun _ => y) request := by
  intro hf
  rw [Act.bind_of_ok h] at hf ⊢
  obtain ⟨hcalls, hprotocol⟩ := hy hf
  rw [hp, hfits] at hcalls hprotocol
  rw [calls_append, ht, hcalls, hvm]
  exact ⟨rfl, hprotocol⟩

theorem afterNote (n : Notice) (hx : Obeys s x request) :
    Obeys s (Act.note n >>= fun _ => x) request :=
  .after rfl rfl rfl rfl rfl hx

end Obeys

section Boot

end Boot

end Session

end GuestHost

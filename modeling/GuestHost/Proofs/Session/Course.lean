import GuestHost.Proofs.Session.Created
import GuestHost.Proofs.Session.Rules

/-! Every operation on a session is a course of dealings with its guest. -/
namespace GuestHost

namespace Session

/-- What an operation does to the guest is a course. -/
def Leads (g : Guest.Entrypoints) (s : Session) (t : List Output) (r : Except Error Unit)
    (s' : Session) : Prop :=
  Vm.Leads g s.vm t r s'.vm

namespace Leads

variable {g : Guest.Entrypoints} {s s' : Session} {t : List Output} {r : Except Error Unit}

theorem flow : Act.Flow (Leads g) :=
  Vm.Leads.flow.comap Session.vm

/-- The rest of a session is nothing to its guest. -/
theorem said (ht : ∀ o ∈ t, o.fromHost = true) (h : s'.vm = s.vm) : Leads g s t (.ok ()) s' := by
  intro hg
  rw [h]
  induction t with
  | nil => exact ⟨[], .done s.vm⟩
  | cons o t ih =>
    obtain ⟨ho, ht⟩ := List.forall_mem_cons.mp ht
    obtain ⟨vs, hvs⟩ := ih ht
    exact ⟨vs, .said ho hvs⟩

/-- What the host has to say in the end does not depend on how it ended. -/
theorem trail (h : Leads g s t r s') (n : Notice) : Leads g s (t ++ [.note n]) r s' := by
  intro hg
  obtain ⟨vs, hvs⟩ := h hg
  exact ⟨vs, hvs.trail rfl⟩

theorem onVm {α : Type} {P : Error → Prop} {x : Act Error Vm α}
    (hx : ∀ g, Act.Follows (Vm.LeadsBy P g) x) : Act.Follows (Leads g) (onVm x) :=
  .on (hx g) Vm.LeadsBy.leads

theorem rules : Rules (Leads g) where
  toFlow := flow
  aside hvm _ ht := said ht hvm
  guard s := by
    by_cases h : s.lifecycle = .running
    · rw [requireRunning_of_running h]
      exact flow.refl s
    · rw [requireRunning_of_not_running h]
      exact fun _ => ⟨[], .refused .notRunning nofun⟩
  guest hx := onVm fun _ => hx (Vm.LeadsBy.uses Error.Integration.dealing)

theorem restore : Act.Follows (Leads g) restore :=
  rules.restore fun snapshot =>
    onVm fun _ => .restore Error.Integration.dealing (.inr rfl) snapshot

theorem boot : Act.Follows (Leads g) boot := by
  intro s
  have hnote := (rules (g := g)).note
  have hb := follows_bringUp flow hnote onVm { s with lifecycle := .booting }
  rcases hr : Session.bringUp { s with lifecycle := .booting } with ⟨e | _, s', t⟩ <;> rw [hr] at hb
  · rw [boot_of_error hr]
    exact flow.trans (hnote .booting s) (trail hb _)
  · rw [boot_of_ok hr]
    exact flow.trans (hnote .booting s) (trail hb _)

theorem reset : Act.Follows (Leads g) reset :=
  .bind flow (rules.note _) fun _ => boot

end Leads

end Session

/-- What the caller of an operation hears: of an event's errors only those that are fatal. -/
def Operation.heard : Operation → Except Error Unit → Except Error Unit
  | .dispatch e, r => (Session.settled e r).map fun _ => ()
  | _, r => r

theorem Operation.heard_of_fatal {e : Error} (h : e.isFatal = true) (op : Operation) :
    op.heard (.error e) = .error e := by
  cases op with
  | dispatch event => simp only [heard, Session.settled, h, if_true, Except.map]
  | _ => rfl

theorem Operation.error_of_heard {op : Operation} {r : Except Error Unit} {e : Error}
    (h : op.heard r = .error e) : r = .error e := by
  cases op with
  | dispatch event =>
    rcases r with e' | _
    · simp only [heard, Session.settled] at h
      split at h <;> cases h
      rfl
    · cases h
  | _ => exact h

namespace Session

/-- The operation is a course that makes these visits and ends with `r`. -/
structure Undergoes (s : Session) (op : Operation) (vs : List Visit) (r : Except Error Unit) :
    Prop where
  course : Vm.Course s.vm vs (op.act s).trace r (op.act s).state.vm
  heard : (op.act s).result = op.heard r

theorem exists_undergoes (s : Session) (op : Operation) : ∃ vs r, Undergoes s op vs r := by
  have hrules := Leads.rules (g := s.vm.entry)
  have hplain : ∀ {op : Operation}, (∀ r, op.heard r = r) →
      Act.Follows (Leads s.vm.entry) op.act → ∃ vs r, Undergoes s op vs r := by
    intro op hop hact
    obtain ⟨vs, hvs⟩ := hact s rfl
    rw [Act.map_unit] at hvs
    exact ⟨vs, _, hvs, (hop _).symm⟩
  cases op with
  | boot => exact hplain (fun _ => rfl) .boot
  | reset => exact hplain (fun _ => rfl) .reset
  | update pads => exact hplain (fun _ => rfl) (hrules.update pads)
  | pointer e b => exact hplain (fun _ => rfl) (hrules.pointer e b)
  | wheel delta => exact hplain (fun _ => rfl) (hrules.wheel delta)
  | key e =>
    obtain ⟨vs, hvs⟩ := hrules.keyboard (e := e) (fun _ => .reset) (fun _ => .restore) rfl
    exact ⟨vs, _, hvs, rfl⟩
  | connect index standard =>
    exact hplain (fun _ => rfl)
      (.bind Leads.flow (hrules.connect index standard) fun _ => .pure Leads.flow ())
  | disconnect index => exact hplain (fun _ => rfl) (hrules.disconnect index)
  | save => exact hplain (fun _ => rfl) hrules.save
  | restore => exact hplain (fun _ => rfl) .restore
  | pull chunk => exact hplain (fun _ => rfl) (hrules.pull chunk)
  | dispatch e =>
    -- What is dropped is only noted: the course is that of the event itself.
    obtain ⟨vs, hvs⟩ := hrules.perform (e := e) (fun _ => .reset) (fun _ => .restore) rfl
    obtain ⟨hstate, htrace⟩ := dispatch_same e s
    refine ⟨vs, (perform e s).result, ?_, ?_⟩ <;> rw [act_dispatch]
    · rw [hstate]
      rcases htrace with ht | ⟨err, ht⟩ <;> rw [ht]
      · exact hvs
      · exact hvs.trail rfl
    · rw [result_dispatch]
      rfl
  | poke addr bytes =>
    exact hplain (fun _ => rfl)
      (Leads.onVm fun _ => .write Error.Integration.dealing addr bytes)

/-- A session to which anything has been done since it was created. -/
def Reachable (s : Session) : Prop :=
  ∃ s₀ : Session, ∃ ops, s₀.Created ∧ s = (performAll ops s₀).state

theorem Created.reachable {s : Session} (h : s.Created) : s.Reachable :=
  ⟨s, [], h, rfl⟩

theorem Created.reachable_act {s : Session} (h : s.Created) (op : Operation) :
    (op.act s).state.Reachable :=
  ⟨s, [op], h, rfl⟩

/-- What holds of a guest at the end of every course holds of it however long it is used. -/
theorem vm_performAll {P : Vm → Prop}
    (hP : ∀ {vm vs t r vm'}, Vm.Course vm vs t r vm' → P vm → P vm') (ops : List Operation)
    {s : Session} (h : P s.vm) : P (performAll ops s).state.vm := by
  induction ops generalizing s with
  | nil => exact h
  | cons op rest ih =>
    obtain ⟨vs, r, hundergoes⟩ := exists_undergoes s op
    rw [performAll_cons]
    exact ih (hP hundergoes.course h)

theorem hosts_performAll {exports : Guest.Exports} {s : Session} (ops : List Operation)
    (h : s.vm.Hosts exports) : (performAll ops s).state.vm.Hosts exports :=
  vm_performAll (fun hcourse h => h.course hcourse) ops h

theorem Reachable.hosts {s : Session} (h : s.Reachable) : ∃ exports, s.vm.Hosts exports := by
  obtain ⟨s₀, ops, hc, rfl⟩ := h
  obtain ⟨exports, hhosts⟩ := hc.made.hosts
  exact ⟨exports, hosts_performAll ops hhosts⟩

end Session

end GuestHost

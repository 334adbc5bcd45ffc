import GuestHost.Guest.Entrypoints
import GuestHost.Proofs.Guest.Run

/-! Visits to a guest: the routine behind each call, one run of it, and the calls in a trace. -/
namespace GuestHost

namespace Code

variable {α β : Type}

/-- By induction on the code: the first steps are those of `x`. -/
theorem run_bind (caller : Caller) (x : Code α) (f : α → Code β) (m : Machine) :
    (x.bind f).run caller m = (x.run caller >>= fun a => (f a).run caller) m := by
  change (x.bind f).run caller m = Act.bind (x.run caller) (fun a => (f a).run caller) m
  induction x generalizing m with
  | ret a => rfl
  | trap t => rfl
  | pages next ih => exact ih _ m
  | grow delta next ih =>
    cases hm : m.memory.grow? delta.toNat <;> simp only [Code.bind, run, Act.bind, hm, ih]
  | load addr len next ih =>
    cases hm : m.memory.load? addr len <;> simp only [Code.bind, run, Act.bind, hm, ih]
  | store addr bytes next ih =>
    cases hm : m.memory.store? addr bytes <;> simp only [Code.bind, run, Act.bind, hm, ih]
  | fill addr byte len next ih =>
    cases hm : m.memory.fill? addr byte len <;> simp only [Code.bind, run, Act.bind, hm, ih]
  | global i next ih => exact ih _ m
  | setGlobal i v next ih => exact ih _
  | host c next ih =>
    rcases hm : Machine.answer caller c m with ⟨e | _, m', t⟩
    · simp only [Code.bind, run, Act.bind, hm]
    · rcases hx : next.run caller m' with ⟨e | a, m'', t'⟩ <;>
        simp only [Code.bind, run, Act.bind, hm, hx, ih, List.append_assoc]

/-- The same code, with no regard to what it ends in. -/
def discard (x : Code α) : Code Unit :=
  x.bind fun _ => .ret ()

theorem discard_unit (x : Code Unit) : x.discard = x := by
  induction x with
  | ret a => rfl
  | trap t => rfl
  | pages next ih => exact congrArg Code.pages (funext ih)
  | grow delta next ih => exact congrArg (Code.grow delta) (funext ih)
  | load addr len next ih => exact congrArg (Code.load addr len) (funext ih)
  | store addr bytes next ih => exact congrArg (Code.store addr bytes) ih
  | fill addr byte len next ih => exact congrArg (Code.fill addr byte len) ih
  | global i next ih => exact congrArg (Code.global i) (funext ih)
  | setGlobal i v next ih => exact congrArg (Code.setGlobal i v) ih
  | host c next ih => exact congrArg (Code.host c) ih

end Code

namespace Routine

variable {α : Type}

/-- The same routine, with no regard to what it ends in. -/
def discard (r : Routine α) : Routine Unit :=
  ⟨r.caller, r.code.discard⟩

theorem discard_unit (r : Routine Unit) : r.discard = r :=
  congrArg (Routine.mk r.caller) r.code.discard_unit

theorem run_discard (r : Routine α) (m : Machine) :
    r.discard.run m = ⟨(r.run m).result.map fun _ => (), (r.run m).state, (r.run m).trace⟩ := by
  change (r.code.bind _).run r.caller m = _
  rw [Code.run_bind]
  exact Act.bind_pure_apply r.run (fun _ => ()) m

end Routine

namespace Guest

/-- A wheel is turned by whole numbers or not at all. -/
def Wheel.routine? : Wheel → Call → Option (Routine Unit)
  | .float f, .wheelFloat delta => some (f delta)
  | .int f, .wheelInt delta => some (f delta)
  | _, _ => none

/-- What a guest has for a call. -/
def Entrypoints.routine? (g : Entrypoints) : Call → Option (Routine Unit)
  | .init => some g.init
  | .runMain => g.runMain
  | .update => some g.onUpdate
  | .pointer x y buttons => g.onPointer.map fun f => f x y buttons
  | .wheelFloat delta => g.onWheel.bind (·.routine? (.wheelFloat delta))
  | .wheelInt delta => g.onWheel.bind (·.routine? (.wheelInt delta))
  | .keyboard mask charCode => g.onKeyboard.map fun f => f mask charCode
  | .romPtr => some g.romPtr.discard
  | .statePtr => g.statePtr.map .discard
  | .stateSize => g.stateSize.map .discard
  | .audioSamples => g.audioSamples.map .discard

/-- Whether the guest can be called like this. -/
def Entrypoints.offers (g : Entrypoints) (c : Call) : Bool :=
  (g.routine? c).isSome

end Guest

/-- The routine behind a call, run on the machine as the call finds it. -/
structure Visit where
  call : Call
  routine : Routine Unit
  machine : Machine

namespace Visit

def outcome (v : Visit) : Outcome Stop Machine Unit :=
  v.routine.run v.machine

def Failed (v : Visit) : Prop :=
  ∃ stop, v.outcome.result = .error stop

variable {c : Call} {routine : Routine Unit} {m m' : Machine} {t : List Output}

theorem failed_of_run {stop : Stop} (h : routine.run m = ⟨.error stop, m', t⟩) :
    Failed ⟨c, routine, m⟩ :=
  ⟨stop, by rw [outcome, h]⟩

theorem not_failed_of_run (h : routine.run m = ⟨.ok (), m', t⟩) : ¬Failed ⟨c, routine, m⟩ := by
  rintro ⟨stop, hstop⟩
  rw [outcome, h] at hstop
  cases hstop

end Visit

def Output.call? : Output → Option Call
  | .call c => some c
  | _ => none

/-- The calls in a trace, in their order. -/
def calls (t : List Output) : List Call :=
  t.filterMap Output.call?

variable {t t' : List Output}

@[simp] theorem calls_nil : calls [] = [] := rfl

@[simp] theorem calls_append (t t' : List Output) : calls (t ++ t') = calls t ++ calls t' :=
  List.filterMap_append

@[simp] theorem calls_call (c : Call) (t : List Output) : calls (.call c :: t) = c :: calls t := rfl

@[simp] theorem calls_note (n : Notice) (t : List Output) : calls (.note n :: t) = calls t := rfl

theorem calls_of_fromHost (h : ∀ o ∈ t, o.fromHost = true) : calls t = [] := by
  refine List.filterMap_eq_nil_iff.mpr fun o ho => ?_
  have hhost := h o ho
  cases o with
  | call c => cases hhost
  | _ => rfl

theorem calls_of_fromGuest (h : ∀ o ∈ t, o.fromGuest = true) : calls t = [] := by
  refine List.filterMap_eq_nil_iff.mpr fun o ho => ?_
  have hguest := h o ho
  cases o with
  | call c => cases hguest
  | _ => rfl

/-- What the guest runs makes no calls of its own. -/
theorem calls_of_run {α : Type} {routine : Routine α} {m m' : Machine} {r : Except Stop α}
    (h : routine.run m = ⟨r, m', t⟩) : calls t = [] :=
  calls_of_fromGuest (Routine.held_of_run h).shown

namespace Act

variable {ε σ τ α β : Type}

/-- The action ends like this, and these are the calls on the way. -/
def Makes (x : Act ε σ α) (s : σ) (cs : List Call) (r : Except ε α) (s' : σ) : Prop :=
  ∃ t, x s = ⟨r, s', t⟩ ∧ calls t = cs

namespace Makes

variable {x : Act ε σ α} {f : α → Act ε σ β} {s s' s'' : σ} {cs cs' : List Call}

theorem of_eq {r : Except ε α} {t : List Output} (h : x s = ⟨r, s', t⟩) :
    x.Makes s (calls t) r s' :=
  ⟨t, h, rfl⟩

theorem congr {y : Act ε σ α} {r : Except ε α} (h : y s = x s) (hx : x.Makes s cs r s') :
    y.Makes s cs r s' := by
  obtain ⟨t, ht, hcs⟩ := hx
  exact ⟨t, h.trans ht, hcs⟩

theorem bind {a : α} {r : Except ε β} (hx : x.Makes s cs (.ok a) s')
    (hf : (f a).Makes s' cs' r s'') : (x >>= f).Makes s (cs ++ cs') r s'' := by
  obtain ⟨t, ht, rfl⟩ := hx
  obtain ⟨t', ht', rfl⟩ := hf
  exact ⟨t ++ t', by rw [bind_of_ok ht, ht'], calls_append t t'⟩

/-- What makes no calls leaves them to the rest. -/
theorem after {a : α} {r : Except ε β} (hx : x.Makes s [] (.ok a) s')
    (hf : (f a).Makes s' cs r s'') : (x >>= f).Makes s cs r s'' :=
  hx.bind hf

theorem bind_pure {a : α} (g : α → β) (hx : x.Makes s cs (.ok a) s') :
    (x >>= fun a => Pure.pure (g a)).Makes s cs (.ok (g a)) s' := by
  obtain ⟨t, ht, hcs⟩ := hx
  refine ⟨t, ?_, hcs⟩
  rw [bind_pure_apply, ht]
  rfl

theorem bind_error {e : ε} (hx : x.Makes s cs (.error e) s') :
    (x >>= f).Makes s cs (.error e) s' := by
  obtain ⟨t, ht, hcs⟩ := hx
  exact ⟨t, bind_of_error ht, hcs⟩

/-- A note at the end changes nothing of this. -/
theorem note {x : Act ε σ Unit} {r : Except ε Unit} (hx : x.Makes s cs r s') (n : Notice) :
    (x >>= fun _ => Act.note n).Makes s cs r s' := by
  cases r with
  | error e => exact hx.bind_error
  | ok _ =>
    rw [← List.append_nil cs]
    exact hx.bind ⟨_, rfl, rfl⟩

theorem on {part : τ → σ} {put : σ → τ → τ} {s : τ} {s' : σ} {r : Except ε α}
    (hx : x.Makes (part s) cs r s') : (Act.on part put x).Makes s cs r (put s' s) := by
  obtain ⟨t, ht, hcs⟩ := hx
  exact ⟨t, by simp only [Act.on, ht], hcs⟩

end Makes

end Act

end GuestHost

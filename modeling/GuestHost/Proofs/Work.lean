import GuestHost.Proofs.Dealing
import GuestHost.Proofs.Guest.Touch

/-! What a guest does to its own machine, call by call. Where it is only called and its memory only
read, that is all that happens to the machine. -/
namespace GuestHost

namespace Guest.Entrypoints

variable (g : Entrypoints)

/-- What a call leaves of a machine, however it ends. -/
def work (c : Call) (m : Machine) : Machine :=
  (g.routine? c).elim m fun r => (r.run m).state

/-- What is left after one call after another. -/
def works (cs : List Call) (m : Machine) : Machine :=
  cs.foldl (fun m c => g.work c m) m

/-- The changes of memory on the way. -/
def touches : List Call → Machine → List Touch
  | [], _ => []
  | c :: cs, m => (g.routine? c).elim [] (·.touches m) ++ touches cs (g.work c m)

variable {g} {α : Type} {m : Machine} {c : Call} {cs : List Call}

theorem work_of_routine {r : Routine α} (h : g.routine? c = some r.discard) (m : Machine) :
    g.work c m = (r.run m).state := by
  rw [work, h, Option.elim_some, Routine.run_discard]

theorem works_append (cs cs' : List Call) (m : Machine) :
    g.works (cs ++ cs') m = g.works cs' (g.works cs m) :=
  List.foldl_append

/-- By induction on the calls, each of which goes on from the machine that the last one has left. -/
theorem replay?_touches (cs : List Call) (m : Machine) :
    Touch.replay? m.memory (g.touches cs m) = some (g.works cs m).memory := by
  induction cs generalizing m with
  | nil => rfl
  | cons c cs ih =>
    have hfirst : Touch.replay? m.memory ((g.routine? c).elim [] (·.touches m)) =
        some (g.work c m).memory := by
      unfold work
      cases g.routine? c with
      | none => rfl
      | some r => exact Code.replay?_touches r.code m
    rw [touches, Touch.replay?_append _ hfirst]
    exact ih (g.work c m)

/-- Each change is made behind one of the calls, on the machine that the calls before it have
left. -/
theorem exists_routine_of_mem_touches {touch : Touch} (h : touch ∈ g.touches cs m) :
    ∃ before c later r, cs = before ++ c :: later ∧ g.routine? c = some r ∧
      touch ∈ r.touches (g.works before m) := by
  induction cs generalizing m with
  | nil => cases h
  | cons c cs ih =>
    rcases List.mem_append.mp h with hfirst | hrest
    · cases hr : g.routine? c with
      | none =>
        rw [hr] at hfirst
        cases hfirst
      | some r =>
        rw [hr] at hfirst
        exact ⟨[], c, cs, r, rfl, hr, hfirst⟩
    · obtain ⟨before, c', later, r, rfl, hr, htouch⟩ := ih hrest
      exact ⟨c :: before, c', later, r, rfl, hr, htouch⟩

end Guest.Entrypoints

namespace Vm

/-- Nothing but what stands behind the calls has changed the machine. -/
def OwnWork (g : Guest.Entrypoints) (vm : Vm) (t : List Output) (vm' : Vm) : Prop :=
  vm.entry = g → vm'.entry = g ∧ vm'.machine = g.works (calls t) vm.machine

namespace OwnWork

variable {g : Guest.Entrypoints} {α : Type}

theorem law : Act.Law (OwnWork g) where
  refl vm hg := ⟨hg, rfl⟩
  trans h h' hg := by
    obtain ⟨hg', hfirst⟩ := h hg
    obtain ⟨hg'', hrest⟩ := h' hg'
    refine ⟨hg'', ?_⟩
    rw [hrest, hfirst, calls_append, Guest.Entrypoints.works_append]

/-- What makes no calls leaves the machine alone. -/
theorem aside {vm vm' : Vm} {t : List Output} (ht : ∀ o ∈ t, o.fromHost = true) (h : vm' = vm) :
    OwnWork g vm t vm' := by
  intro hg
  rw [h, calls_of_fromHost ht]
  exact ⟨hg, rfl⟩

theorem invoke {vm : Vm} {c : Call} {r : Routine α} (hc : g.routine? c = some r.discard) :
    OwnWork g vm (invoke c r vm).trace (invoke c r vm).state := by
  intro hg
  have hwork := Guest.Entrypoints.work_of_routine hc vm.machine
  rcases hrun : r.run vm.machine with ⟨stop | a, m, t⟩ <;> rw [hrun] at hwork
  · rw [invoke_of_error hrun, List.cons_append, calls_call, calls_append, calls_of_run hrun]
    exact ⟨hg, hwork.symm⟩
  · rw [invoke_of_ok hrun, calls_call, calls_of_run hrun]
    exact ⟨hg, hwork.symm⟩

theorem uses {P : Error → Prop} (hP : ∀ {e : Error}, e.Integration → P e) :
    Uses P g fun vm t _ vm' => OwnWork g vm t vm' where
  refl := law.refl
  trans := law.trans
  integration := hP
  looked h vm hg := h vm hg vm hg
  note _ _ := aside (List.forall_mem_singleton.mpr rfl) rfl
  refused _ _ := law.refl _
  visited hc _ := invoke hc

end OwnWork

end Vm

end GuestHost

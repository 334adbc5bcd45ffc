import GuestHost.Proofs.Guest.Visit
import GuestHost.Proofs.Vm

/-! The second half of a boot: the image is written where the guest wants it, the guest runs on it,
and the line that it has left open is closed. -/
namespace GuestHost

namespace Console

/-- The line that is still open, if it holds anything. -/
def leftover (c : Console) : List String :=
  if c.pending.isEmpty then [] else [c.pending]

theorem flush_eq (c : Console) : c.flush = ({}, c.leftover) := by
  unfold flush leftover
  split
  case isTrue h =>
    obtain ⟨pending⟩ := c
    have hnone : pending = "" := String.isEmpty_iff.mp h
    rw [hnone]
  case isFalse => rfl

end Console

def Output.cut? : Output → Option (Nat × Nat)
  | .note (.romTruncated size capacity) => some (size, capacity)
  | _ => none

/-- The warnings that an image is too long, each with its length and with what there is room for. -/
def cuts (t : List Output) : List (Nat × Nat) :=
  t.filterMap Output.cut?

section Cuts

variable {t t' : List Output}

@[simp] theorem cuts_append (t t' : List Output) : cuts (t ++ t') = cuts t ++ cuts t' :=
  List.filterMap_append

@[simp] theorem cuts_call (c : Call) (t : List Output) : cuts (.call c :: t) = cuts t := rfl

theorem cuts_of_fromGuest (h : ∀ o ∈ t, o.fromGuest = true) : cuts t = [] := by
  refine List.filterMap_eq_nil_iff.mpr fun o ho => ?_
  have hguest := h o ho
  cases o with
  | note n => cases hguest
  | _ => rfl

/-- What the guest runs does not warn of images. -/
theorem cuts_of_run {α : Type} {routine : Routine α} {m m' : Machine} {r : Except Stop α}
    (h : routine.run m = ⟨r, m', t⟩) : cuts t = [] :=
  cuts_of_fromGuest (Routine.held_of_run h).shown

theorem fromGuest_lines (texts : List String) :
    ∀ o ∈ texts.map Output.line, o.fromGuest = true := by
  intro o ho
  obtain ⟨text, -, rfl⟩ := List.mem_map.mp ho
  rfl

end Cuts

namespace Guest.Entrypoints

/-- The main entry point on a machine; where there is none that is noted. -/
def main (g : Entrypoints) : Act Stop Machine Unit :=
  match g.runMain with
  | none => Act.note .noMain
  | some routine => fun m =>
    ⟨(routine.run m).result, (routine.run m).state, .call .runMain :: (routine.run m).trace⟩

variable {g : Entrypoints} {m m' : Machine} {r : Except Stop Unit} {t : List Output}

theorem said_of_main (h : g.main m = ⟨r, m', t⟩) : cuts t = [] ∧
    calls t = if g.runMain.isSome then [.runMain] else [] := by
  unfold main at h
  cases hmain : g.runMain with
  | none =>
    rw [hmain] at h
    cases h
    exact ⟨rfl, rfl⟩
  | some routine =>
    rcases hrun : routine.run m with ⟨r₁, m₁, t₁⟩
    rw [hmain] at h
    simp only [hrun] at h
    cases h
    rw [cuts_call, cuts_of_run hrun, calls_call, calls_of_run hrun]
    exact ⟨rfl, rfl⟩

end Guest.Entrypoints

namespace Vm

/-- The guest after a run of its code. -/
def withMachine (vm : Vm) (machine : Machine) : Vm :=
  { vm with machine }

/-- The guest after a run that has stopped. -/
def faultedWith (vm : Vm) (machine : Machine) : Vm :=
  { vm with machine, faulted := true }

/-- What is left of a boot once the image is in memory. -/
def start : Act Error Vm Unit := do
  unless ← runMain do Act.note .noMain
  flushConsole

/-- The second half of a boot: the image is written, and the guest runs on it. -/
def launch (image : ByteArray) (ptr : UInt32) : Act Error Vm Unit := do
  write ptr image
  Act.note (.romLoaded image.size ptr)
  start

theorem flushConsole_eq (vm : Vm) : flushConsole vm =
    ⟨.ok (), vm.withMachine { vm.machine with console := {} },
      vm.machine.console.leftover.map .line⟩ := by
  simp only [flushConsole, Act.on, Machine.flushConsole, Console.flush_eq]
  rfl

variable {vm : Vm} {image : ByteArray} {ptr : UInt32} {memory : Memory} {m : Machine}
  {t : List Output} {stop : Stop}

section Unfaulted

variable (hf : vm.faulted = false)
include hf

theorem init_of_ok (h : vm.entry.init.run vm.machine = ⟨.ok (), m, t⟩) :
    init vm = ⟨.ok (), vm.withMachine m, .call .init :: t⟩ :=
  (call_of_not_faulted hf).trans (invoke_of_ok h)

theorem init_of_error (h : vm.entry.init.run vm.machine = ⟨.error stop, m, t⟩) :
    init vm = ⟨.error (stop.error .init), vm.faultedWith m,
      .call .init :: t ++ [.note (.guestFaulted (stop.error .init))]⟩ :=
  (call_of_not_faulted hf).trans (invoke_of_error h)

theorem romAddress_of_ok (h : vm.entry.romPtr.run vm.machine = ⟨.ok ptr, m, t⟩) :
    romAddress vm = ⟨.ok ptr, vm.withMachine m, .call .romPtr :: t⟩ :=
  (call_of_not_faulted hf).trans (invoke_of_ok h)

theorem romAddress_of_error (h : vm.entry.romPtr.run vm.machine = ⟨.error stop, m, t⟩) :
    romAddress vm = ⟨.error (stop.error .getRomPtr), vm.faultedWith m,
      .call .romPtr :: t ++ [.note (.guestFaulted (stop.error .getRomPtr))]⟩ :=
  (call_of_not_faulted hf).trans (invoke_of_error h)

theorem runMain_of_none (h : vm.entry.runMain = none) : runMain vm = ⟨.ok false, vm, []⟩ := by
  rw [runMain, Act.get_bind, h]
  exact Act.bind_of_silent (callIf_none hf)

theorem runMain_of_ok {routine : Routine Unit} (h : vm.entry.runMain = some routine)
    (hrun : routine.run vm.machine = ⟨.ok (), m, t⟩) :
    runMain vm = ⟨.ok true, vm.withMachine m, .call .runMain :: t⟩ := by
  rw [runMain, Act.get_bind, h]
  refine (Act.bind_of_ok (callIf_of_ok hf hrun)).trans ?_
  exact congrArg (Outcome.mk _ _) (List.append_nil _)

theorem runMain_of_error {routine : Routine Unit} (h : vm.entry.runMain = some routine)
    (hrun : routine.run vm.machine = ⟨.error stop, m, t⟩) :
    runMain vm = ⟨.error (stop.error .runMain), vm.faultedWith m,
      .call .runMain :: t ++ [.note (.guestFaulted (stop.error .runMain))]⟩ := by
  rw [runMain, Act.get_bind, h]
  exact Act.bind_of_error (callIf_of_error hf hrun)

/-- Without a main entry point the guest is left alone. -/
theorem start_of_ok (h : vm.entry.main vm.machine = ⟨.ok (), m, t⟩) :
    start vm = ⟨.ok (), vm.withMachine { m with console := {} },
      t ++ m.console.leftover.map .line⟩ := by
  unfold Guest.Entrypoints.main at h
  cases hmain : vm.entry.runMain with
  | none =>
    rw [hmain] at h
    cases h
    rw [start, Act.bind_of_silent (runMain_of_none hf hmain), if_neg Bool.false_ne_true,
      Act.note_bind]
    simp only [flushConsole_eq]
    rfl
  | some routine =>
    rcases hrun : routine.run vm.machine with ⟨r, m₁, t₁⟩
    rw [hmain] at h
    simp only [hrun] at h
    cases h
    rw [start, Act.bind_of_ok (runMain_of_ok hf hmain hrun), if_pos rfl]
    simp only [flushConsole_eq]
    rfl

theorem start_of_error (h : vm.entry.main vm.machine = ⟨.error stop, m, t⟩) :
    start vm = ⟨.error (stop.error .runMain), vm.faultedWith m,
      t ++ [.note (.guestFaulted (stop.error .runMain))]⟩ := by
  unfold Guest.Entrypoints.main at h
  cases hmain : vm.entry.runMain with
  | none =>
    rw [hmain] at h
    cases h
  | some routine =>
    rcases hrun : routine.run vm.machine with ⟨r, m₁, t₁⟩
    rw [hmain] at h
    simp only [hrun] at h
    cases h
    exact Act.bind_of_error (runMain_of_error hf hmain hrun)

end Unfaulted

theorem launch_of_misfit (hover : vm.memory.size < ptr.toNat + image.size) :
    launch image ptr vm =
      ⟨.error (.outOfRange ptr.toNat image.size vm.memory.size), vm, []⟩ :=
  Act.bind_of_error (write_of_error (Memory.write_of_lt hover))

theorem launch_of_fit (hw : vm.memory.write ptr image = .ok memory) {r : Except Error Unit}
    {vm' : Vm} (h : start (vm.withMemory memory) = ⟨r, vm', t⟩) :
    launch image ptr vm = ⟨r, vm', .note (.romLoaded image.size ptr) :: t⟩ := by
  rw [launch, Act.bind_of_silent (write_of_ok hw), Act.note_bind, h]

end Vm

end GuestHost

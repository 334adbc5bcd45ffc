import GuestHost.Input.Modifier
import GuestHost.Input.Pointer
import GuestHost.Instance

/-! Guests at work. All calls pass one gate, which a failed call shuts for good. -/
namespace GuestHost

structure Vm where
  machine : Machine
  entry : Guest.Entrypoints
  faulted : Bool := false

/-- The outermost cause of a trap says where it came from; the place itself is not told. -/
def Stop.error (e : Entry) : Stop → Error
  | .trap t => .trap e.name ["error while executing", t.message]
  | .refused e => e

namespace Vm

variable {σ α : Type}

/-- A guest whose memory the host can find, with its entry points looked up. -/
def ofModule (m : Guest.Module) (display : Config.Display) (clock : Clock) : Act Error σ Vm := do
  let i ← m.instantiate display clock
  if !i.machine.exported then Act.fail .missingMemory
  let entry ← i.exports.entrypoints
  return { machine := i.machine, entry }

/-- Fails once the guest has faulted. -/
def gate : Act Error Vm Unit :=
  fun vm => ⟨if vm.faulted then .error .faulted else .ok (), vm, []⟩

/-- Behind the gate: what stops the routine shuts the gate. -/
def invoke (c : Call) (routine : Routine α) : Act Error Vm α :=
  fun vm => let o := routine.run vm.machine
    match o.result with
    | .ok a => ⟨.ok a, { vm with machine := o.state }, .call c :: o.trace⟩
    | .error stop =>
      let e := stop.error c.entry
      ⟨.error e, { vm with machine := o.state, faulted := true },
        .call c :: o.trace ++ [.note (.guestFaulted e)]⟩

def call (c : Call) (routine : Routine α) : Act Error Vm α := do
  gate
  invoke c routine

/-- The gate is passed even when there is nothing to call behind it. -/
def callIf (c : Option (Call × Routine α)) : Act Error Vm (Option α) := do
  gate
  match c with
  | none => return none
  | some (c, routine) => some <$> invoke c routine

def init : Act Error Vm Unit := do
  let vm ← Act.get
  call .init vm.entry.init

/-- Whether there is a main entry point to run. -/
def runMain : Act Error Vm Bool := do
  let vm ← Act.get
  let done ← callIf (vm.entry.runMain.map (.runMain, ·))
  return done.isSome

def update : Act Error Vm Unit := do
  let vm ← Act.get
  call .update vm.entry.onUpdate

def pointer (i : PointerInput) : Act Error Vm Unit := do
  let vm ← Act.get
  let _ ← callIf (vm.entry.onPointer.map fun f =>
    (.pointer i.x i.y i.buttons, f i.x i.y i.buttons))

/-- The turn of a wheel, as a whole number where the guest wants one. -/
def wheelCall (delta : Binary64) : Guest.Wheel → Call × Routine Unit
  | .float f => (.wheelFloat delta, f delta)
  | .int f => (.wheelInt delta.toInt32, f delta.toInt32)

def wheel (delta : Binary64) : Act Error Vm Unit := do
  let vm ← Act.get
  let _ ← callIf (vm.entry.onWheel.map (wheelCall delta))

def keyboard (i : KeyboardInput) : Act Error Vm Unit := do
  let vm ← Act.get
  let _ ← callIf (vm.entry.onKeyboard.map fun f =>
    (.keyboard i.mask i.charCode, f i.mask i.charCode))

def romAddress : Act Error Vm UInt32 := do
  let vm ← Act.get
  call .romPtr vm.entry.romPtr

/-- Where the state of the guest lies and how long it is, if the guest says both. -/
def declaredState : Act Error Vm (Option (UInt32 × UInt32)) := do
  let vm ← Act.get
  let ptr ← callIf (vm.entry.statePtr.map (.statePtr, ·))
  let size ← callIf (vm.entry.stateSize.map (.stateSize, ·))
  return match ptr, size with
    | some ptr, some size => some (ptr, size)
    | _, _ => none

def samplesAddress : Act Error Vm (Option UInt32) := do
  let vm ← Act.get
  callIf (vm.entry.audioSamples.map (.audioSamples, ·))

def memory (vm : Vm) : Memory :=
  vm.machine.memory

def withMemory (vm : Vm) (memory : Memory) : Vm :=
  { vm with machine := { vm.machine with memory } }

/-- Memory is open to the host even behind a shut gate. -/
def read (addr : UInt32) (len : Nat) : Act Error Vm ByteArray :=
  fun vm => ⟨vm.memory.read addr len, vm, []⟩

def write (addr : UInt32) (bytes : ByteArray) : Act Error Vm Unit :=
  fun vm => match vm.memory.write addr bytes with
    | .ok memory => ⟨.ok (), vm.withMemory memory, []⟩
    | .error e => ⟨.error e, vm, []⟩

def flushConsole : Act Error Vm Unit :=
  .on machine (fun m vm => { vm with machine := m }) Machine.flushConsole

end Vm

end GuestHost

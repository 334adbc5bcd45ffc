import GuestHost.Session.Basic

/-! Booting a session, ticking it, and saving and restoring the state of its guest. -/
namespace GuestHost.Session

def enterState (l : Lifecycle) : Act Error Session Unit :=
  .modify fun s => { s with lifecycle := l }

def releaseInput : Act Error Session Unit :=
  .modify fun s => { s with input := s.input.reset }

/-- The part of the image that the guest has room for. -/
def romLength (s : Session) : Nat :=
  min s.rom.size s.config.memory.romCapacity

/-- Initializes the guest, loads the image where the guest wants it, and runs it. -/
def bringUp : Act Error Session Unit := do
  releaseInput
  onVm Vm.init
  let s ← Act.get
  if s.romLength < s.rom.size then
    Act.note (.romTruncated s.rom.size s.config.memory.romCapacity)
  let ptr ← onVm Vm.romAddress
  onVm (Vm.write ptr (s.rom.extract 0 s.romLength))
  Act.note (.romLoaded s.romLength ptr)
  unless ← onVm Vm.runMain do Act.note .noMain
  onVm Vm.flushConsole

/-- Snapshot and gamepad binding survive, held input does not. -/
def boot : Act Error Session Unit := do
  Act.note .booting
  enterState .booting
  match ← Act.attempt bringUp with
  | .ok () =>
    enterState .running
    Act.note .running
  | .error e =>
    enterState .unbooted
    Act.note (.bootFailed e)
    Act.fail e

def reset : Act Error Session Unit := do
  Act.note .resetRequested
  boot

/-- Polls the gamepad, tells the guest if the mask has changed, and lets it go on. -/
def update (pads : Gamepads) : Act Error Session Unit := do
  requireRunning
  let s ← Act.get
  let (input, change) := s.input.poll pads
  Act.modify fun s => { s with input }
  match change with
  | some i => onVm (Vm.keyboard i)
  | none => pure ()
  onVm Vm.update

def save : Act Error Session Unit := do
  requireRunning
  let snapshot ← onVm Snapshot.take
  Act.note (.stateSaved snapshot.size)
  Act.modify fun s => { s with snapshot := some snapshot }

/-- Without a snapshot nothing happens. -/
def restore : Act Error Session Unit := do
  requireRunning
  let s ← Act.get
  match s.snapshot with
  | none => Act.note .nothingToRestore
  | some snapshot =>
    onVm snapshot.restore
    Act.note (.stateRestored snapshot.size)

end GuestHost.Session

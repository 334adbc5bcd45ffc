import GuestHost.Audio.Stream
import GuestHost.Input.Arbiter
import GuestHost.Snapshot

/-! Sessions: one guest, its ROM image and all that the host keeps about it. -/
namespace GuestHost

/-- A session boots only while it is being booted. -/
inductive Lifecycle where
  | unbooted
  | booting
  | running
  deriving DecidableEq

structure Session where
  config : Config
  vm : Vm
  rom : ByteArray
  lifecycle : Lifecycle := .unbooted
  input : Arbiter
  audio : Wakeup
  snapshot : Option Snapshot := none

/-- What the surroundings of a session provide. -/
structure Surroundings where
  clock : Clock
  device : Option AudioDevice := none

namespace Session

variable {σ α : Type}

/-- Checks the settings and the image before it looks at the module. -/
def create (read : Container.Assembler) (engine : Guest.Engine) (config : Config)
    (code rom : ByteArray) (surroundings : Surroundings) : Act Error σ Session := do
  match config.validate with
  | .error e => Act.fail (.config e)
  | .ok () => pure ()
  if rom.size = 0 then Act.fail .emptyRom
  let guest ← Act.ofExcept (engine.load read code)
  let vm ← Vm.ofModule guest config.display surroundings.clock
  Act.note (.instantiated config.display.width config.display.height rom.size)
  return {
    config, vm, rom
    input := { display := config.display }
    audio := .ofDevice surroundings.device }

def onVm (x : Act Error Vm α) : Act Error Session α :=
  .on vm (fun vm s => { s with vm }) x

def requireRunning : Act Error Session Unit :=
  fun s => ⟨if s.lifecycle = .running then .ok () else .error .notRunning, s, []⟩

/-- The mask that the guest sees. -/
def mask (s : Session) : UInt8 :=
  s.input.mask

def frame (s : Session) : Frame :=
  s.vm.machine.compositor.frame

def presented (s : Session) : Nat :=
  s.vm.machine.compositor.presented

def memory (s : Session) : Memory :=
  s.vm.memory

/-- The host's own writes, from outside the session. -/
def withMemory (s : Session) (memory : Memory) : Session :=
  { s with vm := s.vm.withMemory memory }

end Session

end GuestHost

import GuestHost.Container.Text
import GuestHost.Guest.Entrypoints
import GuestHost.Machine

/-! From the bytes of a module to an instance, with its memory made and its start function run. -/
namespace GuestHost

/-- A text is read first; what is binary then goes to the engine. -/
def Guest.Engine.load (engine : Guest.Engine) (read : Container.Assembler) (bytes : ByteArray) :
    Except Error Guest.Module :=
  match Container.binaryFormBy read bytes with
  | .error e => .error (.load e)
  | .ok (_, binary) => match engine binary with
    | .error causes => .error (.load (.badBinary causes))
    | .ok m => .ok m

/-- A module whose memory is made and whose start function has run. -/
structure Instance where
  machine : Machine
  exports : Guest.Exports

/-- Writes data segments in order; each must fit. -/
def writeSegments (m : Memory) : List (Nat × ByteArray) → Option Memory
  | [] => some m
  | (addr, bytes) :: rest => (m.store? addr bytes).bind (writeSegments · rest)

def Guest.Module.blankMemory (m : Guest.Module) : Memory :=
  m.memory.elim .none fun t => .blank t.pages t.maxPages

def Machine.ofModule (m : Guest.Module) (memory : Memory) (display : Config.Display)
    (clock : Clock) : Machine where
  memory
  exported := Guest.exportsMemory m.exports
  globals := m.globals
  compositor := { display }
  clock

variable {σ α : Type}

/-- Runs guest code on a machine of its own, and keeps the machine if the code ends well. -/
def runStart (code : Code Unit) (m : Machine) : Act Error σ Machine :=
  fun s => let o := code.run .guest m
    match o.result with
    | .ok () => ⟨.ok o.state, s, o.trace⟩
    | .error (.trap t) => ⟨.error (.setup [t.message]), s, o.trace⟩
    | .error (.refused e) => ⟨.error (.setup [e.message]), s, o.trace⟩

def Guest.Module.instantiate (m : Guest.Module) (display : Config.Display) (clock : Clock) :
    Act Error σ Instance := do
  if m.imports.any (· ∉ Guest.hostImports) then Act.fail (.setup ["unknown import"])
  match writeSegments m.blankMemory m.data with
  | none => Act.fail (.setup [Trap.memoryBounds.message])
  | some memory =>
    let machine ← runStart (m.start.getD (.ret ())) (Machine.ofModule m memory display clock)
    return ⟨machine, m.exports⟩

end GuestHost

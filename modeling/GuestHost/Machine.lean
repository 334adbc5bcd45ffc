import GuestHost.Act
import GuestHost.Calendar
import GuestHost.Console
import GuestHost.Display.Compositor
import GuestHost.Guest.Code

/-! A guest's memory and what of the host its calls can reach, and guest code run on them. -/
namespace GuestHost

/-- The times that successive readings give. -/
abbrev Clock := (reading : Nat) → DateTime

/-- `exported` says whether the guest exports its memory. -/
structure Machine where
  memory : Memory
  exported : Bool
  globals : Nat → UInt64
  console : Console := {}
  compositor : Compositor
  clock : Clock
  readings : Nat := 0

namespace Machine

variable {ε : Type}

/-- A memory is looked for where the call comes from. Only a guest has one, and it is found only if
it is exported. -/
def finds (m : Machine) (caller : Caller) : Bool :=
  m.exported && caller = .guest

def exportedMemory (caller : Caller) : Act Error Machine Memory :=
  fun m => ⟨if m.finds caller then .ok m.memory else .error .missingMemory, m, []⟩

def printBytes (bytes : List UInt8) : Act ε Machine Unit :=
  fun m => let (c, lines) := m.console.pushAll bytes
    ⟨.ok (), { m with console := c }, lines.map .line⟩

def flushConsole : Act ε Machine Unit :=
  fun m => let (c, lines) := m.console.flush
    ⟨.ok (), { m with console := c }, lines.map .line⟩

/-- Only the low byte counts. -/
def printChar (code : UInt32) : Act ε Machine Unit :=
  printBytes [code.toUInt8]

/-- Nothing is printed of a string without an end. -/
def printStr (caller : Caller) (ptr : UInt32) : Act Error Machine Unit := do
  let memory ← exportedMemory caller
  let text ← Act.ofExcept (terminatedText memory.bytes ptr)
  printBytes text.data.toList

def render (caller : Caller) (bg fg : UInt32) : Act Error Machine Unit := do
  let memory ← exportedMemory caller
  let m ← Act.get
  let c ← Act.ofExcept (m.compositor.render memory.bytes bg fg)
  Act.modify fun m => { m with compositor := c }
  Act.emit (.frame c.frame)

/-- The clock is read before the memory is looked for. -/
def now : Act ε Machine DateTime :=
  fun m => ⟨.ok (m.clock m.readings), { m with readings := m.readings + 1 }, []⟩

def getDateTime (caller : Caller) (out : UInt32) : Act Error Machine Unit := do
  let t ← now
  let memory ← exportedMemory caller
  let memory ← Act.ofExcept (memory.write out t.record)
  Act.modify fun m => { m with memory }

def answer (caller : Caller) : HostCall → Act Error Machine Unit
  | .printChar code => printChar code
  | .printStr ptr => printStr caller ptr
  | .render bg fg => render caller bg fg
  | .getDateTime out => getDateTime caller out

end Machine

/-- What ends a run early: the guest's own trap, or a host call that failed. -/
inductive Stop where
  | trap (t : Trap)
  | refused (e : Error)
  deriving DecidableEq

/-- The answer to a guest that asked for more pages than there can be. -/
def noPages : UInt32 := 0xffffffff

/-- All host calls of the code come from one caller. -/
def Code.run {α : Type} (caller : Caller) : Code α → Act Stop Machine α
  | .ret a => fun m => ⟨.ok a, m, []⟩
  | .trap t => fun m => ⟨.error (.trap t), m, []⟩
  | .pages next => fun m => (next m.memory.pages.toUInt32).run caller m
  | .grow delta next => fun m => match m.memory.grow? delta.toNat with
    | some memory => (next m.memory.pages.toUInt32).run caller { m with memory }
    | none => (next noPages).run caller m
  | .load addr len next => fun m => match m.memory.load? addr len with
    | some bytes => (next bytes).run caller m
    | none => ⟨.error (.trap .memoryBounds), m, []⟩
  | .store addr bytes next => fun m => match m.memory.store? addr bytes with
    | some memory => next.run caller { m with memory }
    | none => ⟨.error (.trap .memoryBounds), m, []⟩
  | .fill addr byte len next => fun m => match m.memory.fill? addr byte len with
    | some memory => next.run caller { m with memory }
    | none => ⟨.error (.trap .memoryBounds), m, []⟩
  | .global i next => fun m => (next (m.globals i)).run caller m
  | .setGlobal i v next => fun m => next.run caller
      { m with globals := fun j => if j = i then v else m.globals j }
  | .host c next => fun m => match Machine.answer caller c m with
    | ⟨.ok (), m, t⟩ => let o := next.run caller m
      ⟨o.result, o.state, t ++ o.trace⟩
    | ⟨.error e, m, t⟩ => ⟨.error (.refused e), m, t⟩

def Routine.run {α : Type} (r : Routine α) : Act Stop Machine α :=
  r.code.run r.caller

end GuestHost

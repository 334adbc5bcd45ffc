import GuestHost.Bytes

/-! Guest code as its host sees it: the steps that touch memory or the host, one after another. -/
namespace GuestHost

/-- Why the guest's own code stops. -/
inductive Trap where
  | unreachable
  | memoryBounds
  | divideByZero
  | overflow
  | badConversion
  | other (kind : String)
  deriving DecidableEq

def Trap.message : Trap → String
  | .unreachable => "wasm trap: wasm `unreachable` instruction executed"
  | .memoryBounds => "wasm trap: out of bounds memory access"
  | .divideByZero => "wasm trap: integer divide by zero"
  | .overflow => "wasm trap: integer overflow"
  | .badConversion => "wasm trap: invalid conversion to integer"
  | .other kind => "wasm trap: " ++ kind

/-- What the guest asks of its host. -/
inductive HostCall where
  | printChar (code : UInt32)
  | printStr (ptr : UInt32)
  | render (bg fg : UInt32)
  | getDateTime (out : UInt32)
  deriving DecidableEq

/-- Where host calls come from: from code of the guest, or, where a guest hands a service of its
host on as if it were its own, from the host itself. -/
inductive Caller where
  | guest
  | host
  deriving DecidableEq

/-- A run of guest code that ends in an `α`. Each step goes on with what it learns; a step that the
memory or the host refuses is the last one. Globals stand for all that a guest keeps outside its
memory. -/
inductive Code (α : Type) where
  | ret (a : α)
  | trap (t : Trap)
  | pages (next : UInt32 → Code α)
  | grow (delta : UInt32) (next : UInt32 → Code α)
  | load (addr len : Nat) (next : ByteArray → Code α)
  | store (addr : Nat) (bytes : ByteArray) (next : Code α)
  | fill (addr : Nat) (byte : UInt8) (len : Nat) (next : Code α)
  | global (i : Nat) (next : UInt64 → Code α)
  | setGlobal (i : Nat) (v : UInt64) (next : Code α)
  | host (c : HostCall) (next : Code α)

namespace Code

variable {α β : Type}

protected def bind (x : Code α) (f : α → Code β) : Code β :=
  match x with
  | .ret a => f a
  | .trap t => .trap t
  | .pages next => .pages fun v => (next v).bind f
  | .grow delta next => .grow delta fun v => (next v).bind f
  | .load addr len next => .load addr len fun b => (next b).bind f
  | .store addr bytes next => .store addr bytes (next.bind f)
  | .fill addr byte len next => .fill addr byte len (next.bind f)
  | .global i next => .global i fun v => (next v).bind f
  | .setGlobal i v next => .setGlobal i v (next.bind f)
  | .host c next => .host c (next.bind f)

instance : Monad Code where
  pure := .ret
  bind := Code.bind

end Code

/-- What there is to run behind a call. -/
structure Routine (α : Type) where
  caller : Caller
  code : Code α

namespace Routine

variable {α β : Type}

/-- The guest's own code. -/
def own (code : Code α) : Routine α :=
  ⟨.guest, code⟩

/-- The same, ending in something else. -/
def map (f : α → β) (r : Routine α) : Routine β :=
  ⟨r.caller, f <$> r.code⟩

end Routine

end GuestHost

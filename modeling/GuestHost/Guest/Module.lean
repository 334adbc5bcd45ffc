import GuestHost.Guest.Code

/-! Modules: what a guest imports, holds and exports. -/
namespace GuestHost.Guest

inductive ValType where
  | i32
  | i64
  | f32
  | f64
  deriving DecidableEq

/-- Floats are carried by their bits. -/
abbrev ValType.Carrier : ValType → Type
  | .i32 => UInt32
  | .i64 => UInt64
  | .f32 => UInt32
  | .f64 => UInt64

structure FuncType where
  params : List ValType
  results : List ValType
  deriving DecidableEq

abbrev Tuple : List ValType → Type
  | [] => Unit
  | t :: ts => t.Carrier × Tuple ts

/-- The services that a guest may import. -/
inductive Service where
  | printChar
  | printStr
  | render
  | getDateTime
  deriving DecidableEq

namespace Service

def name : Service → String
  | .printChar => "printChar"
  | .printStr => "printStr"
  | .render => "render"
  | .getDateTime => "getDateTime"

def type : Service → FuncType
  | .printChar => ⟨[.i32], []⟩
  | .printStr => ⟨[.i32], []⟩
  | .render => ⟨[.i32, .i32], []⟩
  | .getDateTime => ⟨[.i32], []⟩

/-- A single call of the service, and nothing else. -/
def code : (s : Service) → Tuple s.type.params → Code (Tuple s.type.results)
  | .printChar, (code, _) => .host (.printChar code) (.ret ())
  | .printStr, (ptr, _) => .host (.printStr ptr) (.ret ())
  | .render, (bg, fg, _) => .host (.render bg fg) (.ret ())
  | .getDateTime, (out, _) => .host (.getDateTime out) (.ret ())

end Service

/-- Guests export functions of their own, and may hand on services that they have imported. -/
inductive Func where
  | own (type : FuncType) (run : Tuple type.params → Code (Tuple type.results))
  | service (s : Service)

namespace Func

def type : Func → FuncType
  | .own type _ => type
  | .service s => s.type

/-- Nobody but the host stands behind a service that is called directly. -/
def routine : (f : Func) → Tuple f.type.params → Routine (Tuple f.type.results)
  | .own _ run, args => .own (run args)
  | .service s, args => ⟨.host, s.code args⟩

/-- The function, if it has exactly the given type. -/
def typed? (f : Func) (t : FuncType) : Option (Tuple t.params → Routine (Tuple t.results)) :=
  if h : f.type = t then some (h ▸ f.routine) else none

end Func

inductive Extern where
  | func (f : Func)
  | memory
  | global

structure Import where
  scope : String
  name : String
  type : FuncType
  deriving DecidableEq

/-- The least and, if there is one, the greatest number of pages. -/
structure MemoryType where
  pages : Nat
  maxPages : Option Nat
  deriving DecidableEq

structure Module where
  imports : List Import := []
  memory : Option MemoryType := none
  globals : Nat → UInt64 := fun _ => 0
  data : List (Nat × ByteArray) := []
  start : Option (Code Unit) := none
  exports : List (String × Extern) := []

def Service.asImport (s : Service) : Import :=
  ⟨"env", s.name, s.type⟩

/-- All that a guest may import. -/
def hostImports : List Import :=
  [.printChar, .printStr, .render, .getDateTime].map Service.asImport

/-- Reads a module in binary form, or says why it cannot. -/
abbrev Engine := ByteArray → Except (List String) Module

/-- The function exported under a name, if it has exactly the given type. -/
def func? (exports : List (String × Extern)) (name : String) (t : FuncType) :
    Option (Tuple t.params → Routine (Tuple t.results)) :=
  match exports.lookup name with
  | some (.func f) => f.typed? t
  | _ => none

/-- The name under which a guest's memory must be exported. -/
def memoryName : String := "memory"

def exportsMemory (exports : List (String × Extern)) : Bool :=
  match exports.lookup memoryName with
  | some .memory => true
  | _ => false

end GuestHost.Guest

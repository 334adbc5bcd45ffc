import GuestHost.Binary64
import GuestHost.Guest.Module

/-! Guest functions written as small programs of statements over 32-bit integers. -/
namespace GuestHost.Guest

inductive Value where
  | i32 (v : UInt32)
  | i64 (v : UInt64)
  | f32 (bits : UInt32)
  | f64 (bits : UInt64)
  deriving DecidableEq

def ValType.value : (t : ValType) → t.Carrier → Value
  | .i32, v => .i32 v
  | .i64, v => .i64 v
  | .f32, v => .f32 v
  | .f64, v => .f64 v

def Tuple.values : {ts : List ValType} → Tuple ts → List Value
  | [], _ => []
  | t :: _, (v, rest) => t.value v :: Tuple.values rest

inductive Expr where
  | const (v : UInt32)
  | param (i : Nat)
  | load (addr : Expr)
  | loadByte (addr : Expr)
  | add (a b : Expr)
  | sub (a b : Expr)
  | eq (a b : Expr)
  | div (a b : Expr)
  | trunc (param : Nat)
  | pages
  | grow (delta : Expr)
  deriving DecidableEq

inductive Stmt where
  | skip
  | seq (first second : Stmt)
  | store (addr val : Expr)
  | storeByte (addr val : Expr)
  | storeFloat (addr : Expr) (param : Nat)
  | fill (addr byte len : Expr)
  | drop (e : Expr)
  | unreachable
  | cond (test : Expr) (yes no : Stmt)
  | printChar (code : Expr)
  | printStr (ptr : Expr)
  | render (bg fg : Expr)
  | getDateTime (out : Expr)
  deriving DecidableEq

def Stmt.ofList : List Stmt → Stmt
  | [] => .skip
  | s :: rest => .seq s (.ofList rest)

/-- The parameters of the call under way. -/
abbrev Env := List Value

def Env.i32 (env : Env) (i : Nat) : UInt32 :=
  match env[i]? with
  | some (.i32 v) => v
  | _ => 0

def Env.f64 (env : Env) (i : Nat) : Binary64 :=
  match env[i]? with
  | some (.f64 v) => ⟨v⟩
  | _ => ⟨0⟩

/-- Signed division toward zero. -/
def divide (a b : UInt32) : Code UInt32 :=
  if b = 0 then .trap .divideByZero
  else if a = 0x80000000 ∧ b = 0xffffffff then .trap .overflow
  else .ret (a.toInt32 / b.toInt32).toUInt32

def truncate (x : Binary64) : Code UInt32 :=
  match x.toInt32? with
  | .ok v => .ret v.toUInt32
  | .error .notANumber => .trap .badConversion
  | .error .tooLarge => .trap .overflow

def Expr.eval (env : Env) : Expr → Code UInt32
  | .const v => .ret v
  | .param i => .ret (env.i32 i)
  | .load addr => do
    let addr ← addr.eval env
    .load addr.toNat 4 fun b => .ret (Bytes.word32 b 0)
  | .loadByte addr => do
    let addr ← addr.eval env
    .load addr.toNat 1 fun b => .ret (Bytes.byteAt b 0).toUInt32
  | .add a b => do
    let a ← a.eval env
    let b ← b.eval env
    return a + b
  | .sub a b => do
    let a ← a.eval env
    let b ← b.eval env
    return a - b
  | .eq a b => do
    let a ← a.eval env
    let b ← b.eval env
    return if a = b then 1 else 0
  | .div a b => do
    let a ← a.eval env
    let b ← b.eval env
    divide a b
  | .trunc i => truncate (env.f64 i)
  | .pages => .pages .ret
  | .grow delta => do
    let delta ← delta.eval env
    .grow delta .ret

def Stmt.exec (env : Env) : Stmt → Code Unit
  | .skip => .ret ()
  | .seq first second => do
    first.exec env
    second.exec env
  | .store addr val => do
    let addr ← addr.eval env
    let val ← val.eval env
    .store addr.toNat (Bytes.ofWord32 val) (.ret ())
  | .storeByte addr val => do
    let addr ← addr.eval env
    let val ← val.eval env
    .store addr.toNat ⟨#[val.toUInt8]⟩ (.ret ())
  | .storeFloat addr i => do
    let addr ← addr.eval env
    .store addr.toNat (Bytes.ofWord64 (env.f64 i).bits) (.ret ())
  | .fill addr byte len => do
    let addr ← addr.eval env
    let byte ← byte.eval env
    let len ← len.eval env
    .fill addr.toNat byte.toUInt8 len.toNat (.ret ())
  | .drop e => do
    let _ ← e.eval env
    return ()
  | .unreachable => .trap .unreachable
  | .cond test yes no => do
    let v ← test.eval env
    if v = 0 then no.exec env else yes.exec env
  | .printChar code => do
    let code ← code.eval env
    .host (.printChar code) (.ret ())
  | .printStr ptr => do
    let ptr ← ptr.eval env
    .host (.printStr ptr) (.ret ())
  | .render bg fg => do
    let bg ← bg.eval env
    let fg ← fg.eval env
    .host (.render bg fg) (.ret ())
  | .getDateTime out => do
    let out ← out.eval env
    .host (.getDateTime out) (.ret ())

/-- An integer result is `v`; results of other types are zero. -/
def Tuple.ofResult (v : UInt32) : (ts : List ValType) → Tuple ts
  | [] => ()
  | .i32 :: ts => (v, Tuple.ofResult v ts)
  | .i64 :: ts => ((0 : UInt64), Tuple.ofResult v ts)
  | .f32 :: ts => ((0 : UInt32), Tuple.ofResult v ts)
  | .f64 :: ts => ((0 : UInt64), Tuple.ofResult v ts)

/-- A function of one body and one result, which is worked out after the body. -/
def Func.ofProgram (type : FuncType) (body : Stmt) (result : Expr) : Func :=
  .own type fun args => do
    let env := Tuple.values args
    body.exec env
    if type.results.isEmpty then return Tuple.ofResult 0 type.results
    let v ← result.eval env
    return Tuple.ofResult v type.results

end GuestHost.Guest

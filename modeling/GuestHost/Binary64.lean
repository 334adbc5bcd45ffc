/-! Doubles by their bits, with their exact value and its integer part. -/
namespace GuestHost

/-- The bits are kept, so that every NaN passes through unchanged. -/
structure Binary64 where
  bits : UInt64
  deriving DecidableEq, Inhabited

namespace Binary64

/-- A finite value is `m * 2 ^ q`, negated if `negative`. -/
inductive Kind where
  | nan
  | infinite (negative : Bool)
  | finite (negative : Bool) (m : Nat) (q : Int)
  deriving DecidableEq

def ofFloat (x : Float) : Binary64 :=
  ⟨x.toBits⟩

def toFloat (x : Binary64) : Float :=
  Float.ofBits x.bits

def negative (x : Binary64) : Bool :=
  x.bits >>> 63 = 1

def exponentField (x : Binary64) : Nat :=
  ((x.bits >>> 52) &&& 0x7ff).toNat

def fractionField (x : Binary64) : Nat :=
  (x.bits &&& 0xfffffffffffff).toNat

def kind (x : Binary64) : Kind :=
  if x.exponentField = 0x7ff then
    if x.fractionField = 0 then .infinite x.negative else .nan
  else if x.exponentField = 0 then .finite x.negative x.fractionField (-1074)
  else .finite x.negative (x.fractionField + 0x10_0000_0000_0000) (x.exponentField - 1075)

/-- The integer part of `m * 2 ^ q`. -/
def wholePart (m : Nat) (q : Int) : Nat :=
  if 0 ≤ q then m <<< q.toNat else m >>> (-q).toNat

def signed (negative : Bool) (n : Nat) : Int :=
  if negative then -n else n

/-- The least and the greatest value of an `Int32`. -/
def least : Int := -0x8000_0000

def greatest : Int := 0x7fff_ffff

/-- Truncation that saturates at both ends; a NaN becomes zero. -/
def toInt32 (x : Binary64) : Int32 :=
  match x.kind with
  | .nan => 0
  | .infinite true => .ofInt least
  | .infinite false => .ofInt greatest
  | .finite s m q => .ofInt (max least (min greatest (signed s (wholePart m q))))

/-- Why a double has no 32-bit integer part. -/
inductive NoInteger where
  | notANumber
  | tooLarge
  deriving DecidableEq

/-- Truncation that refuses what an `Int32` cannot hold. -/
def toInt32? (x : Binary64) : Except NoInteger Int32 :=
  match x.kind with
  | .nan => .error .notANumber
  | .infinite _ => .error .tooLarge
  | .finite s m q =>
    let n := signed s (wholePart m q)
    if least ≤ n ∧ n ≤ greatest then .ok (.ofInt n) else .error .tooLarge

end Binary64

end GuestHost

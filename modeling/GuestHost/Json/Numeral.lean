import GuestHost.Json.Fault

/-! JSON numerals: the digits as written, and the number they stand for. -/
namespace GuestHost.Json

/-- Digits lie below ten. A numeral that breaks off keeps the fault. -/
structure Numeral where
  negative : Bool
  whole : List Nat
  fraction : List Nat := []
  hasFraction : Bool := false
  /-- The sign, true for a minus, and the digits. -/
  exponent : Option (Bool × List Nat) := none
  fault : Option Fault := none
  deriving DecidableEq

inductive Number where
  | integer (n : Int)
  | real (x : Binary64)
  deriving DecidableEq

def Number.found : Number → Found
  | .integer n => .integer n
  | .real x => .real x

namespace Numeral

def isDigit (c : Char) : Bool :=
  '0' ≤ c && c ≤ '9'

def digits (cs : List Char) : List Nat :=
  (cs.takeWhile isDigit).map fun c => c.toNat - '0'.toNat

def afterDigits (cs : List Char) : List Char :=
  cs.dropWhile isDigit

/-- A digit is missing here. -/
def missingDigit (rest : List Char) : Fault :=
  if rest.isEmpty then .ended else .malformed

/-- Reads behind the `e`. -/
def scanPower (n : Numeral) (cs : List Char) : Numeral × List Char :=
  let (negative, cs) := match cs with
    | '+' :: cs => (false, cs)
    | '-' :: cs => (true, cs)
    | cs => (false, cs)
  let ds := digits cs
  let rest := afterDigits cs
  if ds.isEmpty then (⟨n.negative, n.whole, n.fraction, n.hasFraction, none, missingDigit rest⟩, [])
  else (⟨n.negative, n.whole, n.fraction, n.hasFraction, some (negative, ds), none⟩, rest)

def scanExponent (n : Numeral) : List Char → Numeral × List Char
  | 'e' :: cs => scanPower n cs
  | 'E' :: cs => scanPower n cs
  | cs => (n, cs)

def scanFraction (n : Numeral) : List Char → Numeral × List Char
  | '.' :: cs =>
    let ds := digits cs
    let rest := afterDigits cs
    if ds.isEmpty then (⟨n.negative, n.whole, [], true, none, missingDigit rest⟩, [])
    else scanExponent ⟨n.negative, n.whole, ds, true, none, none⟩ rest
  | cs => scanExponent n cs

/-- Reads behind the sign. A zero stands alone before the point. -/
def scan (negative : Bool) (cs : List Char) : Numeral × List Char :=
  let ds := digits cs
  let rest := afterDigits cs
  let n : Numeral := ⟨negative, ds, [], false, none, none⟩
  match ds with
  | [] => (⟨negative, [], [], false, none, missingDigit rest⟩, [])
  | 0 :: _ :: _ => (⟨negative, ds, [], false, none, some .malformed⟩, [])
  | _ => scanFraction n rest

theorem length_afterDigits_le (cs : List Char) : (afterDigits cs).length ≤ cs.length :=
  (List.dropWhile_sublist isDigit).length_le

theorem length_scanPower_le (n : Numeral) (cs : List Char) :
    (scanPower n cs).2.length ≤ cs.length := by
  unfold scanPower
  split
  rename_i s r h
  have hr : r.length ≤ cs.length := by split at h <;> cases h <;> simp
  have := length_afterDigits_le r
  dsimp only
  split
  · exact Nat.zero_le _
  · exact Nat.le_trans this hr

theorem length_scanExponent_le (n : Numeral) (cs : List Char) :
    (scanExponent n cs).2.length ≤ cs.length := by
  unfold scanExponent
  split
  · exact Nat.le_trans (length_scanPower_le n _) (by simp)
  · exact Nat.le_trans (length_scanPower_le n _) (by simp)
  · exact Nat.le_refl _

theorem length_scanFraction_le (n : Numeral) (cs : List Char) :
    (scanFraction n cs).2.length ≤ cs.length := by
  unfold scanFraction
  split
  · rename_i cs
    dsimp only
    split
    · exact Nat.zero_le _
    · exact Nat.le_trans (length_scanExponent_le _ _)
        (Nat.le_trans (length_afterDigits_le cs) (by simp))
  · exact length_scanExponent_le n _

theorem length_scan_le (negative : Bool) (cs : List Char) :
    (scan negative cs).2.length ≤ cs.length := by
  unfold scan
  dsimp only
  split
  · exact Nat.zero_le _
  · exact Nat.zero_le _
  · exact Nat.le_trans (length_scanFraction_le _ _) (length_afterDigits_le cs)

/-- Extends `s` by digits while it stays in 64 bits, and returns those left over. -/
def accumulate (s : Nat) : List Nat → Nat × List Nat
  | [] => (s, [])
  | d :: ds =>
    if s * 10 + d < 0x1_0000_0000_0000_0000 then accumulate (s * 10 + d) ds else (s, d :: ds)

/-- The powers of ten up to `10 ^ 308` are those a double holds. -/
def powerOfTen (e : Nat) : Float :=
  .ofScientific 1 false e

/-- Divides by powers of ten, at most `10 ^ 308` at a time, until nothing is left of `f`. -/
def scaleDown (f : Float) (e : Nat) : Float :=
  if e ≤ 308 then f / powerOfTen e
  else if f == 0 then f
  else scaleDown (f / powerOfTen 308) (e - 308)
termination_by e

/-- `significand * 10 ^ e`, rounded after each step. -/
def scale (significand : Nat) (e : Int) : Except Fault Float :=
  let f := significand.toUInt64.toFloat
  if e < 0 then .ok (scaleDown f (-e).toNat)
  else if e ≤ 308 then
    let g := f * powerOfTen e.toNat
    if g.isInf then .error .malformed else .ok g
  else if f == 0 then .ok f
  else .error .malformed

def real (negative : Bool) (f : Float) : Number :=
  .real (.ofFloat (if negative then -f else f))

def natural (ds : List Nat) : Nat :=
  ds.foldl (fun n d => n * 10 + d) 0

/-- Whole numbers stay exact where 64 bits hold them; all else is rounded. A power past 31 bits
leaves zero or nothing a double holds. -/
def value (n : Numeral) : Except Fault Number :=
  match n.fault with
  | some f => .error f
  | none =>
    let (s, left) := accumulate 0 n.whole
    if !n.hasFraction && n.exponent.isNone && left.isEmpty then
      if !n.negative then .ok (.integer s)
      else if 1 ≤ s ∧ s ≤ 0x8000_0000_0000_0000 then .ok (.integer (-s))
      else .ok (real true s.toUInt64.toFloat)
    else
      let (s, unread) := accumulate s n.fraction
      let e : Int := left.length - (n.fraction.length - unread.length)
      match n.exponent with
      | none => (scale s e).map (real n.negative)
      | some (down, ds) =>
        let power := natural ds
        if 0x8000_0000 ≤ power then
          if s ≠ 0 ∧ !down then .error .malformed else .ok (real n.negative 0)
        else
          (scale s (if down then e - power else e + power)).map (real n.negative)

end Numeral

end GuestHost.Json

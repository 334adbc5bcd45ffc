import GuestHost.Binary64

/-! The shortest decimal that reads back as a given double, and its spelling. -/
namespace GuestHost.Binary64

/-- The decimal `digits * 10 ^ exponent`. -/
structure Decimal where
  digits : Nat
  exponent : Int
  deriving DecidableEq, Inhabited

/-- A positive fraction `num / den`. -/
structure Ratio where
  num : Nat
  den : Nat

def Ratio.scaled (n : Nat) (base : Nat) (e : Int) : Ratio :=
  if 0 ≤ e then ⟨n * base.pow e.toNat, 1⟩ else ⟨n, base.pow (-e).toNat⟩

def Ratio.le (a b : Ratio) : Bool :=
  a.num * b.den ≤ b.num * a.den

def Ratio.lt (a b : Ratio) : Bool :=
  a.num * b.den < b.num * a.den

/-- The reals that round to `m * 2 ^ q`. The ends belong to it when `m` is even. -/
structure Interval where
  lower : Ratio
  upper : Ratio
  closed : Bool

def Interval.contains (i : Interval) (r : Ratio) : Bool :=
  if i.closed then i.lower.le r && r.le i.upper else i.lower.lt r && r.lt i.upper

/-- Below a power of two the doubles lie twice as dense. -/
def roundingInterval (m : Nat) (q : Int) : Interval where
  lower :=
    if m = 0x10_0000_0000_0000 ∧ -1074 < q then .scaled (4 * m - 1) 2 (q - 2)
    else .scaled (2 * m - 1) 2 (q - 1)
  upper := .scaled (2 * m + 1) 2 (q - 1)
  closed := m % 2 = 0

/-- The decimal exponent of the leading digit of `r`, sought upward from `e` in `fuel` steps. -/
def leadingExponent (r : Ratio) : (fuel : Nat) → (e : Int) → Int
  | 0, e => e
  | fuel + 1, e => if r.lt (.scaled 1 10 (e + 1)) then e else leadingExponent r fuel (e + 1)

/-- The distance from `r` to `d * 10 ^ e`, over a denominator that `r` and `e` fix. -/
def distance (r : Ratio) (d : Nat) (e : Int) : Nat :=
  let p := Ratio.scaled d 10 e
  (r.num * p.den - p.num * r.den) + (p.num * r.den - r.num * p.den)

/-- The point of the grid `10 ^ e` in the interval that is nearest to `r`; a tie goes to even. -/
def nearestOnGrid? (i : Interval) (r : Ratio) (e : Int) : Option Nat :=
  let unit := Ratio.scaled 1 10 e
  let d := r.num * unit.den / (r.den * unit.num)
  let low := i.contains (.scaled d 10 e)
  let high := i.contains (.scaled (d + 1) 10 e)
  match low, high with
  | false, false => none
  | true, false => some d
  | false, true => some (d + 1)
  | true, true =>
    let a := distance r d e
    let b := distance r (d + 1) e
    if a < b then some d else if b < a then some (d + 1) else some (d + d % 2)

/-- Tries grids of one digit more each, from the coarsest on. -/
def searchGrids (i : Interval) (r : Ratio) : (fuel : Nat) → (e : Int) → Decimal
  | 0, e => ⟨r.num * (Ratio.scaled 1 10 e).den / (r.den * (Ratio.scaled 1 10 e).num), e⟩
  | fuel + 1, e =>
    match nearestOnGrid? i r e with
    | some d => ⟨d, e⟩
    | none => searchGrids i r fuel (e - 1)

/-- The fewest digits that read back as `m * 2 ^ q`, for positive `m`. -/
def shortest (m : Nat) (q : Int) : Decimal :=
  let r := Ratio.scaled m 2 q
  searchGrids (roundingInterval m q) r 17 (leadingExponent r 640 (-325))

/-- The digits without the zeros that end them. -/
def Decimal.trimmed (d : Decimal) : (fuel : Nat) → Decimal
  | 0 => d
  | fuel + 1 =>
    if d.digits % 10 = 0 ∧ d.digits ≠ 0 then
      Decimal.trimmed ⟨d.digits / 10, d.exponent + 1⟩ fuel
    else d

/-- Positional from `1e-5` up to sixteen digits before the point, else with a signed exponent. -/
def Decimal.text (d : Decimal) : String :=
  let d := d.trimmed 20
  let digits := (Nat.repr d.digits).toList
  let lead := d.exponent + digits.length - 1
  if -5 ≤ lead ∧ lead ≤ 15 then
    if 0 ≤ d.exponent then
      .ofList (digits ++ List.replicate d.exponent.toNat '0' ++ ['.', '0'])
    else if 0 ≤ lead then
      .ofList (digits.take (lead.toNat + 1) ++ '.' :: digits.drop (lead.toNat + 1))
    else
      .ofList ('0' :: '.' :: List.replicate (-lead - 1).toNat '0' ++ digits)
  else
    let fraction := if digits.length = 1 then [] else '.' :: digits.drop 1
    .ofList (digits.take 1 ++ fraction ++ ['e', if lead < 0 then '-' else '+'] ++
      (Nat.repr lead.natAbs).toList)

def text (x : Binary64) : String :=
  match x.kind with
  | .nan => "NaN"
  | .infinite s => if s then "-inf" else "inf"
  | .finite s m q =>
    let body := if m = 0 then "0.0" else (shortest m q).text
    if s then "-" ++ body else body

end GuestHost.Binary64

/-! The proleptic Gregorian calendar and the record of a date that guests read. -/
namespace GuestHost

/-- A civil date and time. A second that is followed by a leap second goes on for its
nanoseconds. -/
structure DateTime where
  year : Int
  month : Nat
  day : Nat
  hour : Nat
  minute : Nat
  second : Nat
  nanosecond : Nat
  deriving DecidableEq, Inhabited

namespace DateTime

def isLeap (year : Int) : Bool :=
  year % 4 = 0 && (year % 100 ≠ 0 || year % 400 = 0)

def daysInMonth (year : Int) (month : Nat) : Nat :=
  match month with
  | 2 => if isLeap year then 29 else 28
  | 4 | 6 | 9 | 11 => 30
  | _ => 31

def firstYear : Int := -262143

def lastYear : Int := 262142

structure Valid (t : DateTime) : Prop where
  year : firstYear ≤ t.year ∧ t.year ≤ lastYear
  month : 1 ≤ t.month ∧ t.month ≤ 12
  day : 1 ≤ t.day ∧ t.day ≤ daysInMonth t.year t.month
  hour : t.hour < 24
  minute : t.minute < 60
  second : t.second < 60
  nanosecond : t.nanosecond < 2_000_000_000

instance (t : DateTime) : Decidable t.Valid :=
  decidable_of_iff
    ((firstYear ≤ t.year ∧ t.year ≤ lastYear) ∧ (1 ≤ t.month ∧ t.month ≤ 12) ∧
      (1 ≤ t.day ∧ t.day ≤ daysInMonth t.year t.month) ∧ t.hour < 24 ∧ t.minute < 60 ∧
      t.second < 60 ∧ t.nanosecond < 2_000_000_000)
    ⟨fun ⟨a, b, c, d, e, f, g⟩ => ⟨a, b, c, d, e, f, g⟩,
      fun ⟨a, b, c, d, e, f, g⟩ => ⟨a, b, c, d, e, f, g⟩⟩

/-- The days of a year before a month. -/
def daysBeforeMonth (year : Int) : (month : Nat) → Nat
  | 0 => 0
  | 1 => 0
  | m + 2 => daysBeforeMonth year (m + 1) + daysInMonth year (m + 1)

/-- The days from the first day of year 1, which is day 1. -/
def dayNumber (year : Int) (month day : Nat) : Int :=
  let y := year - 1
  365 * y + y / 4 - y / 100 + y / 400 + daysBeforeMonth year month + day

/-- Counted from Sunday. Day 1 of year 1 was a Monday. -/
def weekday (t : DateTime) : Nat :=
  (dayNumber t.year t.month t.day % 7).toNat

/-- The year of the record stays within 16 bits. -/
def clampedYear (t : DateTime) : Nat :=
  (max 0 (min 65535 t.year)).toNat

/-- Year, month from zero, weekday, time and again the weekday; what else the layout has is zero. -/
def record (t : DateTime) : ByteArray :=
  ⟨#[(t.clampedYear / 256).toUInt8, t.clampedYear.toUInt8, (t.month - 1).toUInt8,
    t.weekday.toUInt8, t.hour.toUInt8, t.minute.toUInt8, t.second.toUInt8, t.weekday.toUInt8,
    0, 0, 0, 0, 0, 0, 0, 0]⟩

end DateTime

end GuestHost

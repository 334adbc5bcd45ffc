/-! Sizes are natural numbers; sums and products that 64 bits cannot hold are refused. -/
namespace GuestHost.Word

/-- Sizes lie below this bound. -/
def bound : Nat := 0x1_0000_0000_0000_0000

def add? (a b : Nat) : Option Nat :=
  if a + b < bound then some (a + b) else none

def mul? (a b : Nat) : Option Nat :=
  if a * b < bound then some (a * b) else none

theorem mul?_eq_some_iff {a b c : Nat} : mul? a b = some c ↔ a * b = c ∧ c < bound := by
  unfold mul?
  split <;> grind

end GuestHost.Word

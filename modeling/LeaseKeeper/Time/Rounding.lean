/-
# Rounding quotients of natural numbers

Two rules are needed wherever a length of time passes through binary floating point: round a
quotient to the nearest whole number, and round a quotient to a number of significant binary
digits.  In both a value half way between two candidates goes to the even one.

Binary numbers are measured in units of `2 ^ (-128)`, so that every value met here is a natural
number and no rounding needs an exponent: a double between a nanosecond and `2 ^ 64` seconds has
all of its 53 digits above that unit.
-/

namespace LeaseKeeper
namespace Rounding

/-- The whole number nearest to `num / den`; a half goes to the even neighbour. -/
def nearest (num den : Nat) : Nat :=
  let q := num / den
  let r := num % den
  if 2 * r < den ∨ (2 * r = den ∧ q % 2 = 0) then q else q + 1

/-- The number with at most `digits` significant binary digits that is nearest to `num / den`;
a half goes to the candidate whose last digit is zero. -/
def significant (digits num den : Nat) : Nat :=
  let spare := Nat.log2 (num / den) + 1 - digits
  nearest num (den <<< spare) <<< spare

/-- How many units make one. -/
def unit : Nat := 1 <<< 128

/-- The double nearest to `num / den`, in units. -/
def double (num den : Nat) : Nat := significant 53 (num * unit) den

/-- The double nearest to the sum of two doubles. -/
def addDouble (a b : Nat) : Nat := significant 53 (a + b) 1

/-- The double nearest to the product of two doubles. -/
def mulDouble (a b : Nat) : Nat := significant 53 (a * b) unit

theorem nearest_le (num den : Nat) : nearest num den ≤ num / den + 1 := by
  unfold nearest
  dsimp only
  split <;> omega

example : nearest 7 2 = 4 ∧ nearest 5 2 = 2 ∧ nearest 8 3 = 3 := by decide

example : double 2 3 = 6004799503160661 * 2 ^ 75 := by decide +kernel

example : double 1 10 = 7205759403792794 * 2 ^ 72 := by decide +kernel

end Rounding
end LeaseKeeper

/-!
# Rounding a quotient

The nearest whole number to a quotient of natural numbers, a half going to the
even neighbour. Every decimal and binary rounding of the library is this one.
-/

namespace MelodyAutomation
namespace Numeral

/-- The whole number nearest to `numerator / denominator`, ties to even. -/
def roundHalfEven (numerator denominator : Nat) : Nat :=
  let quotient := numerator / denominator
  let twice := 2 * (numerator % denominator)
  if twice < denominator then quotient
  else if denominator < twice then quotient + 1
  else if quotient % 2 = 0 then quotient
  else quotient + 1

/-- A whole number is its own rounding. -/
@[simp] theorem roundHalfEven_one (number : Nat) :
    roundHalfEven number 1 = number := by
  simp [roundHalfEven]
  omega

/-- Rounding moves a quotient by at most one half. -/
theorem two_mul_roundHalfEven_mul_le
    {numerator denominator : Nat}
    (positive : 0 < denominator) :
    2 * (roundHalfEven numerator denominator * denominator) ≤
        2 * numerator + denominator ∧
      2 * numerator ≤
        2 * (roundHalfEven numerator denominator * denominator) +
          denominator := by
  have division := Nat.div_add_mod numerator denominator
  rw [Nat.mul_comm] at division
  have small := Nat.mod_lt numerator positive
  unfold roundHalfEven
  simp only
  split
  · omega
  · split
    · rw [Nat.add_mul]
      omega
    · split
      · omega
      · rw [Nat.add_mul]
        omega

end Numeral
end MelodyAutomation

import MelodyAutomation.Scalar.Double
import Mathlib.Algebra.Order.Field.Power
import Mathlib.Algebra.Order.Ring.Rat
import Mathlib.Tactic.Positivity

/-!
# Rounding keeps the order

The bits of the double nearest to a positive number grow with the number. As long as the
unit in the last place is the same, this is a matter of the mantissa, and rounding a
quotient to a whole number keeps the order of quotients. When the unit grows, the mantissa
may become smaller; but a mantissa is rounded to at most the number at which the next unit
takes over, and one in any but the least unit is not below half of that. The exponent field
makes up for the difference.
-/

namespace MelodyAutomation

namespace Numeral

/-- A power of two as the quotient of its two factors. -/
theorem two_zpow (exponent : Int) :
    (2 : Rat) ^ exponent = (powerUp 2 exponent : Rat) / powerDown 2 exponent := by
  obtain ⟨size, rfl | rfl⟩ := exponent.eq_nat_or_neg
  · simp [powerUp, powerDown]
  · simp [powerUp, powerDown]

/-- Halfway between two whole numbers, a quotient is rounded to the even one. -/
theorem roundHalfEven_of_half
    {numerator denominator whole : Nat}
    (positive : 0 < denominator)
    (half : 2 * numerator = (2 * whole + 1) * denominator) :
    roundHalfEven numerator denominator =
      if whole % 2 = 0 then whole else whole + 1 := by
  rw [Nat.add_mul, Nat.one_mul, Nat.mul_assoc] at half
  have quotient : numerator / denominator = whole := by
    refine Nat.div_eq_of_lt_le ?_ ?_
    · omega
    · rw [Nat.succ_mul]
      omega
  have rest : 2 * (numerator % denominator) = denominator := by
    have division := Nat.div_add_mod numerator denominator
    rw [quotient, Nat.mul_comm] at division
    omega
  simp [roundHalfEven, quotient, rest]

/-- Rounding keeps the order of quotients. It moves both by at most one half, so it could
only turn them around if they were the same, halfway between two whole numbers. -/
theorem roundHalfEven_mono
    {numerator denominator other divisor : Nat}
    (positive : 0 < denominator)
    (positiveOther : 0 < divisor)
    (ordered : (numerator : Rat) / denominator ≤ (other : Rat) / divisor) :
    roundHalfEven numerator denominator ≤ roundHalfEven other divisor := by
  have crossed : numerator * divisor ≤ other * denominator := by
    rw [div_le_div_iff₀ (by exact_mod_cast positive)
      (by exact_mod_cast positiveOther)] at ordered
    exact_mod_cast ordered
  by_contra turned
  have apart : (roundHalfEven other divisor + 1) * (denominator * divisor) ≤
      roundHalfEven numerator denominator * (denominator * divisor) :=
    Nat.mul_le_mul_right _ (not_le.1 turned)
  have own : 2 * (roundHalfEven numerator denominator * (denominator * divisor)) ≤
      2 * (numerator * divisor) + denominator * divisor := by
    have moved := Nat.mul_le_mul_right divisor
      (@two_mul_roundHalfEven_mul_le numerator denominator positive).1
    rw [Nat.add_mul] at moved
    simpa only [Nat.mul_assoc] using moved
  have next : 2 * (other * denominator) ≤
      2 * (roundHalfEven other divisor * (denominator * divisor)) +
        denominator * divisor := by
    have moved := Nat.mul_le_mul_right denominator
      (@two_mul_roundHalfEven_mul_le other divisor positiveOther).2
    rw [Nat.add_mul] at moved
    simpa only [Nat.mul_assoc, Nat.mul_comm divisor denominator] using moved
  rw [Nat.succ_mul] at apart
  have halfOwn : 2 * numerator =
      (2 * roundHalfEven other divisor + 1) * denominator := by
    refine Nat.eq_of_mul_eq_mul_right positiveOther ?_
    rw [Nat.mul_assoc, Nat.mul_assoc, Nat.add_mul, Nat.mul_assoc, Nat.one_mul]
    omega
  have halfNext : 2 * other = (2 * roundHalfEven other divisor + 1) * divisor := by
    refine Nat.eq_of_mul_eq_mul_right positive ?_
    rw [Nat.mul_assoc, Nat.mul_assoc, Nat.mul_comm divisor denominator, Nat.add_mul,
      Nat.mul_assoc, Nat.one_mul]
    omega
  have same := (roundHalfEven_of_half positive halfOwn).trans
    (roundHalfEven_of_half positiveOther halfNext).symm
  exact turned same.le

end Numeral

namespace Binary

open Numeral

theorem powerDown_pos (exponent : Int) : 0 < powerDown 2 exponent :=
  Nat.pow_pos (by decide)

theorem powerUp_pos (exponent : Int) : 0 < powerUp 2 exponent :=
  Nat.pow_pos (by decide)

/-- A positive quotient is at least the power of two that leads it, and less than the
next one. -/
theorem leadingExponent_spec
    {numerator denominator : Nat}
    (positive : 0 < numerator)
    (positiveOther : 0 < denominator) :
    (2 : Rat) ^ leadingExponent numerator denominator ≤
        (numerator : Rat) / denominator ∧
      (numerator : Rat) / denominator <
        2 ^ (leadingExponent numerator denominator + 1) := by
  have above : (0 : Rat) < denominator := by exact_mod_cast positiveOther
  have two : (2 : Rat) ≠ 0 := by decide
  have low (number : Nat) (nonzero : 0 < number) :
      (2 : Rat) ^ (number.log2 : Int) ≤ number := by
    rw [zpow_natCast]
    exact_mod_cast Nat.log2_self_le nonzero.ne'
  have high (number : Nat) : (number : Rat) < 2 ^ ((number.log2 : Int) + 1) := by
    rw [← Nat.cast_succ, zpow_natCast]
    exact_mod_cast Nat.lt_log2_self
  have least : (2 : Rat) ^ ((numerator.log2 : Int) - denominator.log2 - 1) ≤
      (numerator : Rat) / denominator := by
    rw [sub_sub, zpow_sub₀ two]
    exact div_le_div₀ (by positivity) (low numerator positive) above
      (high denominator).le
  have greatest : (numerator : Rat) / denominator <
      2 ^ ((numerator.log2 : Int) - denominator.log2 + 1) := by
    rw [sub_add_eq_add_sub, zpow_sub₀ two]
    exact div_lt_div₀ (high numerator) (low denominator positiveOther)
      (by positivity) (by positivity)
  have tested (estimate : Int) :
      denominator * powerUp 2 estimate ≤ numerator * powerDown 2 estimate ↔
        (2 : Rat) ^ estimate ≤ (numerator : Rat) / denominator := by
    have down : (0 : Rat) < powerDown 2 estimate := by
      exact_mod_cast powerDown_pos estimate
    rw [two_zpow, div_le_div_iff₀ down above, mul_comm (powerUp 2 estimate : Rat)]
    exact_mod_cast Iff.rfl
  unfold leadingExponent
  dsimp only
  split_ifs with reached
  · exact ⟨(tested _).1 reached, greatest⟩
  · rw [tested, not_le] at reached
    exact ⟨least, by rwa [sub_add_cancel]⟩

/-- The unit in the last place of the double nearest to a quotient. -/
def unitExponent (numerator denominator : Nat) : Int :=
  max leastExponent (leadingExponent numerator denominator - (mantissaBits - 1))

/-- A quotient in units of its last place, rounded. -/
def roundedMantissa (numerator denominator : Nat) (unit : Int) : Nat :=
  roundHalfEven (numerator * powerDown 2 unit) (denominator * powerUp 2 unit)

theorem nearestBits_eq (numerator denominator : Nat) :
    nearestBits numerator denominator =
      (unitExponent numerator denominator - leastExponent).toNat * storedRange +
        roundedMantissa numerator denominator
          (unitExponent numerator denominator) := rfl

section

variable {numerator denominator other divisor : Nat}

/-- Quotients are measured in a unit by a division. -/
theorem div_two_zpow (numerator denominator : Nat) (unit : Int) :
    ((numerator * powerDown 2 unit : Nat) : Rat) /
        (denominator * powerUp 2 unit : Nat) =
      (numerator : Rat) / denominator / 2 ^ unit := by
  rw [two_zpow, Nat.cast_mul, Nat.cast_mul, div_div_div_eq]

/-- In one unit, the mantissa of the greater quotient is the greater one. -/
theorem roundedMantissa_mono
    (positive : 0 < denominator)
    (positiveOther : 0 < divisor)
    (ordered : (numerator : Rat) / denominator ≤ (other : Rat) / divisor)
    (unit : Int) :
    roundedMantissa numerator denominator unit ≤
      roundedMantissa other divisor unit := by
  refine roundHalfEven_mono (Nat.mul_pos positive (powerUp_pos unit))
    (Nat.mul_pos positiveOther (powerUp_pos unit)) ?_
  rw [div_two_zpow, div_two_zpow]
  exact div_le_div_of_nonneg_right ordered (by positivity)

/-- A mantissa is rounded to at most the number at which the next unit takes over. -/
theorem roundedMantissa_le
    (positive : 0 < numerator)
    (positiveOther : 0 < denominator) :
    roundedMantissa numerator denominator (unitExponent numerator denominator) ≤
      2 * storedRange := by
  have two : (2 : Rat) ≠ 0 := by decide
  rw [← roundHalfEven_one (2 * storedRange)]
  refine roundHalfEven_mono (Nat.mul_pos positiveOther (powerUp_pos _))
    Nat.one_pos ?_
  rw [div_two_zpow, Nat.cast_one, div_one, div_le_iff₀ (by positivity)]
  have enough : leadingExponent numerator denominator + 1 ≤
      53 + unitExponent numerator denominator := by
    simp only [unitExponent, mantissaBits]
    omega
  calc (numerator : Rat) / denominator
      ≤ 2 ^ (leadingExponent numerator denominator + 1) :=
        (leadingExponent_spec positive positiveOther).2.le
    _ ≤ 2 ^ (53 + unitExponent numerator denominator) :=
        zpow_le_zpow_right₀ (by decide) enough
    _ = (2 * storedRange : Nat) * 2 ^ unitExponent numerator denominator := by
        rw [zpow_add₀ two]
        rfl

/-- A mantissa in a unit that is not the least one is not below the stored range. -/
theorem le_roundedMantissa
    (positive : 0 < numerator)
    (positiveOther : 0 < denominator)
    (normal : leastExponent < unitExponent numerator denominator) :
    storedRange ≤ roundedMantissa numerator denominator
      (unitExponent numerator denominator) := by
  have two : (2 : Rat) ≠ 0 := by decide
  rw [← roundHalfEven_one storedRange]
  refine roundHalfEven_mono Nat.one_pos
    (Nat.mul_pos positiveOther (powerUp_pos _)) ?_
  rw [div_two_zpow, Nat.cast_one, div_one, le_div_iff₀ (by positivity)]
  have leads : leadingExponent numerator denominator =
      52 + unitExponent numerator denominator := by
    simp only [unitExponent, mantissaBits] at normal ⊢
    omega
  calc (storedRange : Rat) * 2 ^ unitExponent numerator denominator
      = 2 ^ leadingExponent numerator denominator := by
        rw [leads, zpow_add₀ two]
        rfl
    _ ≤ (numerator : Rat) / denominator :=
        (leadingExponent_spec positive positiveOther).1

/-- A greater quotient is measured in a unit at least as great. -/
theorem unitExponent_mono
    (positive : 0 < numerator)
    (positiveDenominator : 0 < denominator)
    (positiveOther : 0 < other)
    (positiveDivisor : 0 < divisor)
    (ordered : (numerator : Rat) / denominator ≤ (other : Rat) / divisor) :
    unitExponent numerator denominator ≤ unitExponent other divisor := by
  have within : (2 : Rat) ^ leadingExponent numerator denominator <
      2 ^ (leadingExponent other divisor + 1) :=
    calc (2 : Rat) ^ leadingExponent numerator denominator
        ≤ (numerator : Rat) / denominator :=
          (leadingExponent_spec positive positiveDenominator).1
      _ ≤ (other : Rat) / divisor := ordered
      _ < 2 ^ (leadingExponent other divisor + 1) :=
          (leadingExponent_spec positiveOther positiveDivisor).2
  have leads := (zpow_lt_zpow_iff_right₀ (by decide : (1 : Rat) < 2)).1 within
  simp only [unitExponent]
  omega

/-- The bits of the nearest double grow with a quotient. -/
theorem nearestBits_mono
    (positive : 0 < numerator)
    (positiveDenominator : 0 < denominator)
    (positiveOther : 0 < other)
    (positiveDivisor : 0 < divisor)
    (ordered : (numerator : Rat) / denominator ≤ (other : Rat) / divisor) :
    nearestBits numerator denominator ≤ nearestBits other divisor := by
  have units := unitExponent_mono positive positiveDenominator positiveOther
    positiveDivisor ordered
  have least : leastExponent ≤ unitExponent numerator denominator :=
    le_max_left ..
  rw [nearestBits_eq, nearestBits_eq]
  rcases units.lt_or_eq with less | same
  · have own := roundedMantissa_le positive positiveDenominator
    have next := le_roundedMantissa positiveOther positiveDivisor
      (least.trans_lt less)
    have fields : (unitExponent numerator denominator - leastExponent).toNat + 1 ≤
        (unitExponent other divisor - leastExponent).toNat := by
      omega
    have carried := Nat.mul_le_mul_right storedRange fields
    rw [Nat.succ_mul] at carried
    omega
  · rw [same]
    exact Nat.add_le_add_left
      (roundedMantissa_mono positiveDenominator positiveDivisor ordered _) _

end

end Binary
end MelodyAutomation

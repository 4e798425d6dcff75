import MelodyAutomation.Proofs.Scalar.Rounding
import MelodyAutomation.Value.Arithmetic

/-!
# Numbers in the range of doubles

A number between zero and one is never beyond the greatest double: rounding keeps the
order, and the bits nearest to one are in range.
-/

namespace MelodyAutomation
namespace Binary

/-- The bits nearest to a quotient of at most one are those of a double in range. -/
theorem nearestBits_lt
    {numerator denominator : Nat}
    (positive : 0 < numerator)
    (atMost : numerator ≤ denominator) :
    nearestBits numerator denominator < (biasedRange - 1) * storedRange := by
  have above : 0 < denominator := positive.trans_le atMost
  have small : (numerator : Rat) / denominator ≤ (1 : Nat) / (1 : Nat) := by
    rw [Nat.cast_one, div_one, div_le_one (by exact_mod_cast above)]
    exact_mod_cast atMost
  calc nearestBits numerator denominator
      ≤ nearestBits 1 1 :=
        nearestBits_mono positive above Nat.one_pos Nat.one_pos small
    _ < (biasedRange - 1) * storedRange := by decide +kernel

/-- A number between zero and one has a nearest double. -/
theorem exists_nearest
    {value : Rat}
    (nonneg : 0 ≤ value)
    (atMost : value ≤ 1) :
    ∃ double, nearest? false value = some double := by
  unfold nearest?
  split
  · exact ⟨_, rfl⟩
  next nonzero =>
      have numerator : 0 < value.num.natAbs := Int.natAbs_pos.2 nonzero
      have denominator : value.num.natAbs ≤ value.den := by
        have sign := Rat.num_nonneg.2 nonneg
        have small := Rat.num_le_denom_iff.2 atMost
        omega
      rw [if_neg (Nat.not_le.2 (nearestBits_lt numerator denominator))]
      exact ⟨_, rfl⟩

end Binary

/-- A quotient of natural numbers is what is nearest to it. -/
theorem Number.divWhole_eq_ok
    {R : Type}
    [Scalar R]
    {dividend divisor : Nat}
    (positive : 0 < divisor)
    {quotient : R} :
    divWhole dividend divisor = .ok quotient ↔
      Scalar.nearest? false ((dividend : Rat) / divisor) = some quotient := by
  have sign : decide ((divisor : Int) < 0) = false := by simp
  unfold divWhole
  rw [if_neg (by omega), sign, Int.cast_natCast, Int.cast_natCast]
  cases (Scalar.nearest? false ((dividend : Rat) / divisor) : Option R) with
  | none => simp
  | some nearest => simp

/-- A quotient of whole numbers is in the range of doubles when the divisor is not the
smaller one. -/
theorem Number.exists_divWhole
    {dividend divisor : Nat}
    (positive : 0 < divisor)
    (atMost : dividend ≤ divisor) :
    ∃ quotient : Float, divWhole dividend divisor = .ok quotient := by
  have above : (0 : Rat) < divisor := by exact_mod_cast positive
  have small : (dividend : Rat) / divisor ≤ 1 := by
    rw [div_le_one above]
    exact_mod_cast atMost
  have nonneg : 0 ≤ (dividend : Rat) / divisor := by positivity
  obtain ⟨quotient, found⟩ := Binary.exists_nearest nonneg small
  exact ⟨quotient, (divWhole_eq_ok positive).2 found⟩

end MelodyAutomation

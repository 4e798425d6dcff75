import MelodyAutomation.Proofs.Scalar.Zero

/-!
# The order of doubles

A double that carries no minus sign is worth a whole number of the least units above zero,
and this number grows with its bits. The bits of a nearest double grow with what is
rounded, so rounding to doubles keeps the order of numbers that are not below zero.
-/

namespace MelodyAutomation

/-- A scalar is at most another one, as the library compares scalars. -/
def Scalar.AtMost {R : Type} [Scalar R] (left right : R) : Prop :=
  compare? left right = some .lt ∨ compare? left right = some .eq

namespace Binary

open Numeral

/-- What a double of these bits is worth, in units of the least double above zero. -/
def worth (bits : Nat) : Nat :=
  (Fields.mk false (bits / storedRange) (bits % storedRange)).mantissa *
    2 ^ (bits / storedRange - 1)

theorem worth_lt (bits : Nat) :
    worth bits < storedRange * 2 ^ (bits / storedRange) := by
  have stored : bits % storedRange < storedRange := Nat.mod_lt _ (by decide)
  unfold worth Fields.mantissa
  dsimp only
  split_ifs with subnormal
  · rw [subnormal]
    simpa using stored
  · obtain ⟨field, same⟩ := Nat.exists_eq_succ_of_ne_zero subnormal
    rw [same, Nat.succ_sub_one, Nat.pow_succ, ← Nat.mul_assoc,
      Nat.mul_right_comm]
    exact Nat.mul_lt_mul_of_pos_right (by omega) (Nat.two_pow_pos field)

theorem le_worth
    {bits : Nat}
    (normal : bits / storedRange ≠ 0) :
    storedRange * 2 ^ (bits / storedRange - 1) ≤ worth bits := by
  unfold worth Fields.mantissa
  dsimp only
  rw [if_neg normal]
  exact Nat.mul_le_mul_right _ (Nat.le_add_right ..)

/-- What doubles are worth grows with their bits. -/
theorem worth_mono : Monotone worth := by
  intro bits others ordered
  rcases (Nat.div_le_div_right ordered :
    bits / storedRange ≤ others / storedRange).lt_or_eq with less | same
  · have normal : others / storedRange ≠ 0 := ((Nat.zero_le _).trans_lt less).ne'
    calc worth bits
        ≤ storedRange * 2 ^ (bits / storedRange) := (worth_lt bits).le
      _ ≤ storedRange * 2 ^ (others / storedRange - 1) :=
          Nat.mul_le_mul_left _ (Nat.pow_le_pow_right (by decide) (by omega))
      _ ≤ worth others := le_worth normal
  · have own := Nat.div_add_mod bits storedRange
    have next := Nat.div_add_mod others storedRange
    have stored : bits % storedRange ≤ others % storedRange := by
      rw [same] at own
      omega
    unfold worth Fields.mantissa
    dsimp only
    rw [same]
    refine Nat.mul_le_mul_right _ ?_
    split_ifs
    · exact stored
    · exact Nat.add_le_add_left stored _

/-- A double stands for what it is worth in units of the least one. -/
theorem reading_ofBits
    {bits : Nat}
    (inRange : bits < (biasedRange - 1) * storedRange) :
    reading (Float.ofBits (UInt64.ofNat bits)) =
      .finite (worth bits * 2 ^ leastExponent) := by
  have two : (2 : Rat) ≠ 0 := by decide
  have small : bits / storedRange < biasedRange - 1 :=
    Nat.div_lt_of_lt_mul (Nat.mul_comm _ _ ▸ inRange)
  have parts : fields (Float.ofBits (UInt64.ofNat bits)) =
      ⟨false, bits / storedRange, bits % storedRange⟩ := by
    have positive : ¬ biasedRange * storedRange ≤ bits :=
      not_le.2 (inRange.trans_le (Nat.mul_le_mul_right _ (Nat.sub_le ..)))
    rw [fields, toBits_ofBits inRange, decide_eq_false positive,
      Nat.mod_eq_of_lt (small.trans_le (Nat.sub_le ..))]
  have exponent : (2 : Rat) ^ (leastExponent + ((bits / storedRange - 1 : Nat) : Int)) =
      2 ^ (bits / storedRange - 1) * 2 ^ leastExponent := by
    rw [add_comm, zpow_add₀ two, zpow_natCast]
  unfold reading
  dsimp only
  rw [parts]
  simp only [small.ne, if_false, Bool.false_eq_true, Fields.exponent]
  rw [Reading.finite.injEq, scaled, Rat.mkRat_eq_div, worth]
  push_cast
  rw [mul_div_assoc, ← two_zpow, exponent, mul_assoc]

/-- What is nearest to a positive number stands for what its bits are worth. -/
theorem reading_of_nearest
    {value : Rat}
    {double : Float}
    (positive : 0 < value)
    (found : nearest? false value = some double) :
    reading double =
      .finite (worth (nearestBits value.num.natAbs value.den) * 2 ^ leastExponent) := by
  have numerator := Rat.num_pos.2 positive
  simp only [nearest?, numerator.ne', if_false, numerator.not_gt] at found
  split_ifs at found with beyond
  rw [← Option.some.inj found]
  exact reading_ofBits (not_le.1 beyond)

/-- Rounding to doubles keeps the order of numbers that are not below zero. -/
theorem exists_readings
    {value other : Rat}
    {double next : Float}
    (nonneg : 0 ≤ value)
    (ordered : value ≤ other)
    (found : nearest? false value = some double)
    (foundOther : nearest? false other = some next) :
    ∃ own greater, reading double = .finite own ∧ reading next = .finite greater ∧
      own ≤ greater := by
  have quotient (number : Rat) (positive : 0 < number) :
      ((number.num.natAbs : Nat) : Rat) / number.den = number := by
    rw [Nat.cast_natAbs, abs_of_pos (Rat.num_pos.2 positive), Rat.num_div_den]
  have size (number : Rat) (positive : 0 < number) : 0 < number.num.natAbs :=
    Int.natAbs_pos.2 (Rat.num_pos.2 positive).ne'
  rcases nonneg.eq_or_lt with rfl | positive
  · obtain rfl := Option.some.inj found
    rcases ordered.eq_or_lt with rfl | positiveOther
    · obtain rfl := Option.some.inj foundOther
      exact ⟨0, 0, reading_zero, reading_zero, le_rfl⟩
    · exact ⟨0, _, reading_zero, reading_of_nearest positiveOther foundOther,
        by positivity⟩
  · have positiveOther := positive.trans_le ordered
    refine ⟨_, _, reading_of_nearest positive found,
      reading_of_nearest positiveOther foundOther,
      mul_le_mul_of_nonneg_right ?_ (by positivity)⟩
    have bits := nearestBits_mono (size value positive) value.den_pos
      (size other positiveOther) other.den_pos (by
        rwa [quotient value positive, quotient other positiveOther])
    exact_mod_cast worth_mono bits

/-- Finite doubles are compared as what they stand for. -/
theorem atMost_iff
    {double next : Float}
    {own greater : Rat}
    (read : reading double = .finite own)
    (readNext : reading next = .finite greater) :
    Scalar.AtMost double next ↔ own ≤ greater := by
  have compared : Scalar.compare? double next =
      (Reading.finite own).compare? (.finite greater) := by
    rw [← read, ← readNext]
    rfl
  rw [Scalar.AtMost, compared, Reading.compare?]
  split_ifs with less same
  · simp [less.le]
  · simp [same]
  · have more := lt_of_le_of_ne (not_lt.1 less) (Ne.symm same)
    simp [more]

/-- So the double nearest to a number is at most the one nearest to a greater number. -/
theorem atMost_of_nearest
    {value other : Rat}
    {double next : Float}
    (nonneg : 0 ≤ value)
    (ordered : value ≤ other)
    (found : nearest? false value = some double)
    (foundOther : nearest? false other = some next) :
    Scalar.AtMost double next := by
  obtain ⟨own, greater, read, readNext, kept⟩ :=
    exists_readings nonneg ordered found foundOther
  exact (atMost_iff read readNext).2 kept

end Binary
end MelodyAutomation

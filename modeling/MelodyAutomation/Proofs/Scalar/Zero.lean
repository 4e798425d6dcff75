import MelodyAutomation.Proofs.Scalar.Rounding
import MelodyAutomation.Proofs.Scalar.Sign

/-!
# Doubles that stand for zero

A double stands for zero when all its bits but the sign are clear. A negation turns over
the sign alone, and rounding a whole number other than zero leaves an exponent. So a whole
number stands for zero as a double only if it is zero.
-/

namespace MelodyAutomation
namespace Binary

/-- The bits of a double below its sign are all clear. -/
def IsClear (double : Float) : Prop :=
  (fields double).biased = 0 ∧ (fields double).stored = 0

/-- A number times a power of two is zero only if the number is. -/
theorem scaled_eq_zero {number exponent : Int} :
    scaled number exponent = 0 ↔ number = 0 := by
  have down := powerDown_pos exponent
  have up : (Numeral.powerUp 2 exponent : Int) ≠ 0 :=
    Int.natCast_ne_zero.2 (powerUp_pos exponent).ne'
  rw [scaled, Rat.mkRat_eq_zero down.ne', mul_eq_zero, or_iff_left up]

theorem reading_zero : reading 0.0 = .finite 0 := by
  decide +kernel

theorem reading_eq_zero_iff {double : Float} :
    reading double = .finite 0 ↔ IsClear double := by
  unfold reading IsClear
  simp only
  split_ifs with top whole sign
  · simp [top, biasedRange]
  · simp [top, biasedRange]
  · rw [Reading.finite.injEq, scaled_eq_zero]
    unfold Fields.mantissa
    split_ifs with subnormal
    · simp [subnormal]
    · simp [subnormal, storedRange]
      omega
  · rw [Reading.finite.injEq, scaled_eq_zero]
    unfold Fields.mantissa
    split_ifs with subnormal
    · simp [subnormal]
    · simp [subnormal, storedRange]
      omega

/-! ## Negation -/

section

open Float.Model Float.Model.UnpackedFloat

/-- What a negated number is packed into differs in the sign alone. -/
theorem unpack_pack_neg (spec : Format) (number : UnpackedFloat) :
    unpackExponent (UnpackedFloat.pack spec number.neg) =
        unpackExponent (UnpackedFloat.pack spec number) ∧
      unpackMantissa (UnpackedFloat.pack spec number.neg) =
        unpackMantissa (UnpackedFloat.pack spec number) := by
  cases number with
  | notANumber => exact ⟨rfl, rfl⟩
  | infinity sign => simp [UnpackedFloat.neg, UnpackedFloat.pack, packedInfinity]
  | zero sign => simp [UnpackedFloat.neg, UnpackedFloat.pack, packedZero]
  | finite sign mantissa exponent positive =>
      simp only [UnpackedFloat.neg, UnpackedFloat.pack, packedInfinity]
      split_ifs <;> simp

/-- A negated double has the same bits below its sign. -/
theorem isClear_neg {double : Float} : IsClear (-double) ↔ IsClear double := by
  have packed : UnpackedFloat.pack .binary64 double.toModel.unpack =
      double.toModel.toBits.toBitVec :=
    pack_unpack_of_valid double.toModel.valid
  have below := unpack_pack_neg .binary64 double.toModel.unpack
  rw [packed] at below
  have exponent : (fields (-double)).biased = (fields double).biased := by
    rw [← toNat_unpackExponent, ← toNat_unpackExponent, ← below.1]
    rfl
  have mantissa : (fields (-double)).stored = (fields double).stored := by
    rw [← toNat_unpackMantissa, ← toNat_unpackMantissa, ← below.2]
    rfl
  rw [IsClear, IsClear, exponent, mantissa]

/-- The bits of which a double in range is made are the bits that it has. -/
theorem toBits_ofBits
    {bits : Nat}
    (inRange : bits < (biasedRange - 1) * storedRange) :
    (Float.ofBits (UInt64.ofNat bits)).toBits.toNat = bits := by
  have small : (UInt64.ofNat bits).toNat = bits := by
    apply UInt64.toNat_ofNat_of_lt'
    unfold UInt64.size
    exact inRange.trans (by decide)
  have exponent : (@unpackExponent .binary64 (UInt64.ofNat bits).toBitVec).toNat =
      bits / storedRange := by
    simp [unpackExponent, Nat.shiftRight_eq_div_pow, storedRange, biasedRange] at inRange ⊢
    omega
  have number : @isNaNBits .binary64 (UInt64.ofNat bits).toBitVec = false := by
    rw [isNaNBits, decide_eq_false_iff_not]
    rintro ⟨top, -⟩
    have full : bits / storedRange = biasedRange - 1 := by
      rw [← exponent, top]
      rfl
    have below := Nat.div_lt_of_lt_mul (Nat.mul_comm _ _ ▸ inRange)
    omega
  have kept : UnpackedFloat.pack .binary64
      (UnpackedFloat.unpack .binary64 (UInt64.ofNat bits).toBitVec) =
        (UInt64.ofNat bits).toBitVec := by
    rw [pack_unpack, number]
    rfl
  change (UnpackedFloat.pack .binary64
    (UnpackedFloat.unpack .binary64 (UInt64.ofNat bits).toBitVec)).toNat = bits
  rw [kept]
  exact small

end

/-! ## Rounding -/

theorem isClear_ofBits
    {bits : Nat}
    (inRange : bits < (biasedRange - 1) * storedRange) :
    IsClear (Float.ofBits (UInt64.ofNat bits)) ↔ bits = 0 := by
  have stored : storedRange = 4503599627370496 := rfl
  have biased : biasedRange = 2048 := rfl
  rw [IsClear, fields, toBits_ofBits inRange]
  simp only [stored, biased] at inRange ⊢
  omega

/-- A whole number other than zero is rounded to bits that are not all clear. -/
theorem nearestBits_pos
    {number : Nat}
    (positive : 0 < number) :
    0 < nearestBits number 1 := by
  have atLeast : ((1 : Nat) : Rat) / (1 : Nat) ≤ (number : Rat) / (1 : Nat) := by
    rw [Nat.cast_one, div_one, div_one]
    exact_mod_cast positive
  calc 0 < nearestBits 1 1 := by decide +kernel
    _ ≤ nearestBits number 1 :=
        nearestBits_mono Nat.one_pos Nat.one_pos positive Nat.one_pos atLeast

/-- Only zero is rounded to a double that stands for it. -/
theorem eq_zero_of_nearest
    {number : Int}
    {double : Float}
    (found : nearest? false (number : Rat) = some double)
    (zero : reading double = .finite 0) :
    number = 0 := by
  by_contra other
  rw [reading_eq_zero_iff] at zero
  rw [nearest?, Rat.num_intCast, Rat.den_intCast, if_neg other] at found
  dsimp only at found
  split at found
  next => cases found
  next beyond =>
    have pattern := isClear_ofBits (not_le.1 beyond)
    have patternless := (nearestBits_pos (Int.natAbs_pos.2 other)).ne'
    obtain rfl := Option.some.inj found
    split at zero
    · rw [isClear_neg, pattern] at zero
      exact patternless zero
    · rw [pattern] at zero
      exact patternless zero

end Binary
end MelodyAutomation

import MelodyAutomation.Scalar.Double
import Mathlib

/-!
# Signs of doubles

A double that is a number carries a sign. A negation turns it over and a product has
the product of the signs of its factors, whatever is rounded on the way. So the sign
of a computation is known where its size is not: a number below zero has an
exponential that is in range.
-/

namespace MelodyAutomation
namespace Binary

open Float.Model.UnpackedFloat (Sign)

/-- An unpacked double carries a sign, unless it is no number. -/
def Carries (sign : Sign) : Float.Model.UnpackedFloat → Prop
  | .infinity own => own = sign
  | .notANumber => True
  | .zero own => own = sign
  | .finite own _ _ _ => own = sign

/-- A double carries a sign, unless it is no number. -/
def HasSign (sign : Sign) (double : Float) : Prop :=
  Carries sign double.toModel.unpack

namespace Carries

open Float.Model Float.Model.UnpackedFloat

variable {spec : Format} {sign : Sign}

theorem neg
    {number : UnpackedFloat}
    (carries : Carries sign number) :
    Carries (-sign) number.neg := by
  cases number with
  | notANumber => trivial
  | infinity own => exact congrArg _ carries
  | zero own => exact congrArg _ carries
  | finite own mantissa exponent positive => exact congrArg _ carries

theorem roundWithAccuracy
    (mantissa : Nat)
    (exponent : Int)
    (accuracy : Accuracy) :
    Carries sign
      (UnpackedFloat.roundWithAccuracy spec sign mantissa exponent accuracy) := by
  unfold UnpackedFloat.roundWithAccuracy
  simp only
  split
  · rfl
  · rfl

theorem mul
    {other : Sign}
    {left right : UnpackedFloat}
    (ofLeft : Carries sign left)
    (ofRight : Carries other right) :
    Carries (sign * other) (UnpackedFloat.mul spec left right) := by
  cases left with
  | notANumber => trivial
  | infinity own =>
      obtain rfl : own = sign := ofLeft
      cases right with
      | notANumber => trivial
      | zero next => trivial
      | infinity next => exact congrArg (own * ·) ofRight
      | finite next _ _ _ => exact congrArg (own * ·) ofRight
  | zero own =>
      obtain rfl : own = sign := ofLeft
      cases right with
      | notANumber => trivial
      | infinity next => trivial
      | zero next => exact congrArg (own * ·) ofRight
      | finite next _ _ _ => exact congrArg (own * ·) ofRight
  | finite own _ _ _ =>
      obtain rfl : own = sign := ofLeft
      cases right with
      | notANumber => trivial
      | infinity next => exact congrArg (own * ·) ofRight
      | zero next => exact congrArg (own * ·) ofRight
      | finite next _ _ _ =>
          obtain rfl : next = other := ofRight
          exact Carries.roundWithAccuracy ..

/-- Packing keeps the sign in its bit. -/
theorem sign_of_packComponents
    (exponent : BitVec spec.exponentBits)
    (mantissa : BitVec spec.mantissaBitsWithoutImplicit) :
    unpackSign (packComponents spec sign exponent mantissa) = sign.toBitVec := by
  refine BitVec.eq_of_getLsbD_eq fun index bound => ?_
  obtain rfl : index = 0 := by omega
  simp [unpackSign, packComponents, BitVec.getLsbD_append, BitVec.getElem_append]

/-- What is unpacked carries the sign of its bit. -/
theorem unpack (bits : BitVec spec.numBits) :
    Carries (.ofBitVec (unpackSign bits)) (UnpackedFloat.unpack spec bits) := by
  unfold UnpackedFloat.unpack
  simp only
  split
  · split
    · rfl
    · trivial
  · split
    · split <;> rfl
    · rfl

theorem unpack_packComponents
    (exponent : BitVec spec.exponentBits)
    (mantissa : BitVec spec.mantissaBitsWithoutImplicit) :
    Carries sign
      (UnpackedFloat.unpack spec (packComponents spec sign exponent mantissa)) := by
  have own := unpack (packComponents spec sign exponent mantissa)
  rw [sign_of_packComponents] at own
  cases sign <;> exact own

theorem pack
    {number : UnpackedFloat}
    (carries : Carries sign number) :
    HasSign sign (.ofModel (Float.Model.pack number)) := by
  change Carries sign
    (UnpackedFloat.unpack .binary64 (UnpackedFloat.pack .binary64 number))
  cases number with
  | notANumber => trivial
  | infinity own =>
      subst carries
      exact unpack_packComponents ..
  | zero own =>
      subst carries
      exact unpack_packComponents ..
  | finite own mantissa exponent positive =>
      subst carries
      unfold UnpackedFloat.pack
      simp only
      split_ifs <;> exact unpack_packComponents ..

end Carries

section

open Float.Model Float.Model.UnpackedFloat

/-- The sign of a word of bits is its highest bit. -/
theorem sign_eq (word : UInt64) :
    Sign.ofBitVec (@unpackSign .binary64 word.toBitVec) =
      if biasedRange * storedRange ≤ word.toNat then .negative else .positive := by
  have bound := word.toNat_lt
  have bit : (@unpackSign .binary64 word.toBitVec).toNat =
      word.toNat / 2 ^ 63 := by
    simp [unpackSign, Nat.shiftRight_eq_div_pow]
    omega
  have clear : @unpackSign .binary64 word.toBitVec = 0#1 ↔
      ¬ biasedRange * storedRange ≤ word.toNat := by
    rw [← BitVec.toNat_inj, bit]
    simp [biasedRange, storedRange]
  by_cases high : biasedRange * storedRange ≤ word.toNat
  · simp [Sign.ofBitVec, clear, high]
  · simp [Sign.ofBitVec, clear, high]

variable (double : Float)

theorem toNat_unpackExponent :
    (@unpackExponent .binary64 double.toModel.toBits.toBitVec).toNat =
      (fields double).biased := by
  simp [unpackExponent, fields, Float.toBits, Nat.shiftRight_eq_div_pow,
    storedRange, biasedRange]

theorem toNat_unpackMantissa :
    (@unpackMantissa .binary64 double.toModel.toBits.toBitVec).toNat =
      (fields double).stored := by
  simp [unpackMantissa, fields, Float.toBits, storedRange]

end

section

variable {double : Float}

/-- A double that carries a minus sign and has no such bit is no number. -/
theorem HasSign.undefined
    (negative : HasSign .negative double)
    (clear : (fields double).negative = false) :
    reading double = .undefined := by
  have positive : Sign.ofBitVec
      (@Float.Model.UnpackedFloat.unpackSign .binary64
        double.toModel.toBits.toBitVec) = .positive :=
    (sign_eq double.toBits).trans (if_neg (of_decide_eq_false clear))
  have exponent := toNat_unpackExponent double
  have mantissa := toNat_unpackMantissa double
  unfold HasSign Float.Model.unpack Float.Model.UnpackedFloat.unpack at negative
  simp only [positive] at negative
  split_ifs at negative with top whole bottom
  · cases negative
  · rw [top] at exponent
    rw [← BitVec.toNat_inj, mantissa] at whole
    have biased : (fields double).biased = biasedRange - 1 := exponent.symm
    have stored : (fields double).stored ≠ 0 := whole
    simp [reading, biased, stored]
  · cases negative
  · cases negative
  · cases negative

/-- A finite double that carries a minus sign does not exceed zero. -/
theorem HasSign.nonpos
    (negative : HasSign .negative double)
    {value : Rat}
    (read : reading double = .finite value) :
    value ≤ 0 := by
  cases sign : (fields double).negative with
  | false =>
      rw [negative.undefined sign] at read
      cases read
  | true =>
      unfold reading at read
      simp only [sign, if_true] at read
      split_ifs at read
      obtain rfl := Reading.finite.inj read
      refine Rat.mkRat_nonpos ?_ _
      exact mul_nonpos_of_nonpos_of_nonneg (by omega) (Int.natCast_nonneg _)

theorem HasSign.neg
    {sign : Sign}
    (has : HasSign sign double) :
    HasSign (-sign) (-double) :=
  (Carries.neg has).pack

theorem HasSign.mul
    {first second : Sign}
    {left right : Float}
    (ofLeft : HasSign first left)
    (ofRight : HasSign second right) :
    HasSign (first * second) (left * right) :=
  (Carries.mul ofLeft ofRight).pack

/-- A double made of bits below the highest one carries no minus sign. -/
theorem hasSign_ofBits
    {bits : Nat}
    (low : bits < biasedRange * storedRange) :
    HasSign .positive (Float.ofBits (UInt64.ofNat bits)) := by
  have small : (UInt64.ofNat bits).toNat = bits := by
    apply UInt64.toNat_ofNat_of_lt'
    unfold UInt64.size
    exact low.trans (by decide)
  have sign := sign_eq (UInt64.ofNat bits)
  rw [small, if_neg (not_le.2 low)] at sign
  have own : Carries _ (.unpack .binary64 (UInt64.ofNat bits).toBitVec) :=
    Carries.unpack _
  rw [sign] at own
  exact own.pack

/-- What is nearest to a number that is not below zero carries no minus sign. -/
theorem hasSign_nearest
    {value : Rat}
    (nonneg : 0 ≤ value)
    (found : nearest? false value = some double) :
    HasSign .positive double := by
  have above : ¬ value.num < 0 := not_lt.2 (Rat.num_nonneg.2 nonneg)
  have within : (biasedRange - 1) * storedRange ≤ biasedRange * storedRange :=
    Nat.mul_le_mul_right _ (Nat.sub_le _ _)
  simp only [nearest?, above, if_false, Bool.false_eq_true] at found
  split_ifs at found with zero beyond
  · rw [← Option.some.inj found]
    rfl
  · rw [← Option.some.inj found]
    exact hasSign_ofBits ((not_le.1 beyond).trans_le within)

theorem hasSign_infinity : HasSign .positive infinity :=
  hasSign_ofBits (by decide)

/-- Nor does what a decimal number without one is read as. -/
theorem hasSign_ofDecimal (coefficient : Nat) (exponent : Int) :
    HasSign .positive (ofDecimal coefficient exponent) := by
  unfold ofDecimal
  simp only
  split_ifs
  · rfl
  · exact hasSign_infinity
  · rfl
  · cases found : nearest? false
        (mkRat (coefficient * Numeral.powerUp 10 exponent)
          (Numeral.powerDown 10 exponent)) with
    | none => exact hasSign_infinity
    | some magnitude =>
        refine hasSign_nearest (Rat.mkRat_nonneg ?_ _) found
        exact_mod_cast Nat.zero_le _

theorem reading_one : reading 1.0 = .finite 1 := by
  decide +kernel

theorem exists_reading_atMostOne :
    ∃ value, reading (atMostOne double) = .finite value := by
  unfold atMostOne
  split
  next value read =>
    split_ifs
    · exact ⟨value, read⟩
    · exact ⟨1, reading_one⟩
  next => exact ⟨1, reading_one⟩

/-- The exponential of a double that carries a minus sign is in range. -/
theorem HasSign.isSome_exp
    (negative : HasSign .negative double) :
    (Scalar.bounded? Scalar.exp double).isSome = true := by
  cases read : reading double with
  | infinite sign => simp [Scalar.bounded?, Scalar.reading, read]
  | undefined => simp [Scalar.bounded?, Scalar.reading, read]
  | finite value =>
      have nonpos := negative.nonpos read
      have finite : ∃ result, reading (exp double) = .finite result := by
        unfold exp
        simp only [read]
        split_ifs with zero below
        · exact ⟨1, reading_one⟩
        · exact exists_reading_atMostOne
        · exact absurd (lt_of_le_of_ne nonpos zero) below
      obtain ⟨result, finite⟩ := finite
      simp only [Scalar.bounded?, Scalar.reading, Scalar.exp, read, finite,
        Option.isSome_some]

end

end Binary
end MelodyAutomation

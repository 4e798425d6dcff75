import MelodyAutomation.Numeral.Rounding
import MelodyAutomation.Scalar

/-!
# Double-precision numbers as rational numbers

A finite double is a whole number times a power of two. This module takes a
double apart into that form and, in the other direction, finds the double
nearest to a rational number, a tie going to the even mantissa. Both are exact
whole-number computations on the sixty-four bits.
-/

namespace MelodyAutomation
namespace Binary

/-- The least exponent of a double's unit in the last place. -/
def leastExponent : Int := -1074

/-- The number of bits of a full mantissa, leading bit included. -/
def mantissaBits : Nat := 53

/-- One more than the greatest stored mantissa. -/
def storedRange : Nat := Nat.pow 2 52

/-- One more than the greatest biased exponent. -/
def biasedRange : Nat := Nat.pow 2 11

/-- The fields of a double: sign, biased exponent, stored mantissa bits. -/
structure Fields where
  negative : Bool
  biased : Nat
  stored : Nat

/-- Take a double apart. -/
def fields (double : Float) : Fields :=
  let bits := double.toBits.toNat
  ⟨biasedRange * storedRange ≤ bits, bits / storedRange % biasedRange,
    bits % storedRange⟩

/-- The mantissa of a finite double, leading bit included. -/
def Fields.mantissa (parts : Fields) : Nat :=
  if parts.biased = 0 then parts.stored else storedRange + parts.stored

/-- The exponent of the unit in the last place of a finite double. -/
def Fields.exponent (parts : Fields) : Int :=
  leastExponent + ((parts.biased - 1 : Nat) : Int)

/-- Whether the next smaller double is only half a unit away. -/
def Fields.isNarrow (parts : Fields) : Bool :=
  parts.stored == 0 && 1 < parts.biased

/-- `number · 2 ^ exponent` as a rational number. -/
def scaled (number : Int) (exponent : Int) : Rat :=
  mkRat (number * Numeral.powerUp 2 exponent) (Numeral.powerDown 2 exponent)

/-- What a double stands for. -/
def reading (double : Float) : Reading :=
  let parts := fields double
  if parts.biased = biasedRange - 1 then
    if parts.stored = 0 then .infinite parts.negative else .undefined
  else
    let mantissa : Int := parts.mantissa
    .finite (scaled (if parts.negative then -mantissa else mantissa)
      parts.exponent)

/-- The exponent of the leading bit of a positive quotient. -/
def leadingExponent (numerator denominator : Nat) : Int :=
  let estimate : Int := (numerator.log2 : Int) - denominator.log2
  if denominator * Numeral.powerUp 2 estimate ≤
      numerator * Numeral.powerDown 2 estimate then
    estimate
  else estimate - 1

/-- The bits of the double nearest to a positive quotient. A mantissa that rounds
up to the next power of two carries into the exponent field by itself. -/
def nearestBits (numerator denominator : Nat) : Nat :=
  let unit := max leastExponent
    (leadingExponent numerator denominator - (mantissaBits - 1))
  let mantissa := Numeral.roundHalfEven
    (numerator * Numeral.powerDown 2 unit)
    (denominator * Numeral.powerUp 2 unit)
  (unit - leastExponent).toNat * storedRange + mantissa

/-- The double nearest to a rational number, unless that lies beyond the greatest
double; the flag is the sign of an exact zero. -/
def nearest? (negativeZero : Bool) (value : Rat) : Option Float :=
  if value.num = 0 then some (if negativeZero then -0.0 else 0.0)
  else
    let bits := nearestBits value.num.natAbs value.den
    if (biasedRange - 1) * storedRange ≤ bits then none
    else
      let magnitude := Float.ofBits (UInt64.ofNat bits)
      some (if value.num < 0 then -magnitude else magnitude)

/-- Positive infinity. -/
def infinity : Float :=
  Float.ofBits (UInt64.ofNat ((biasedRange - 1) * storedRange))

/-- The double that is no number. -/
def notANumber : Float :=
  Float.ofBits (UInt64.ofNat ((2 * biasedRange - 1) * (storedRange / 2)))

/-- The double nearest to `coefficient · 10 ^ exponent`. Numbers far beyond
either end of the range are decided by their number of digits. -/
def ofDecimal (coefficient : Nat) (exponent : Int) : Float :=
  if coefficient = 0 then 0.0
  else
    let digits : Int := (Numeral.digitsOf coefficient).length
    if 400 < digits + exponent then infinity
    else if digits + exponent < -400 then 0.0
    else
      let value := mkRat (coefficient * Numeral.powerUp 10 exponent)
        (Numeral.powerDown 10 exponent)
      (nearest? false value).getD infinity

/-- The shortest decimal text of a double. -/
def text (double : Float) : String :=
  let parts := fields double
  let sign := if parts.negative then ['-'] else []
  match reading double with
  | .undefined => "nan"
  | .infinite _ => String.ofList (sign ++ "inf".toList)
  | .finite _ =>
      if parts.mantissa = 0 then String.ofList (sign ++ "0.0".toList)
      else
        let decimal :=
          Numeral.shortest parts.mantissa parts.exponent parts.isNarrow
        String.ofList (sign ++ Numeral.Layout.plain.write decimal)

end Binary
end MelodyAutomation

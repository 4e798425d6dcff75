import MelodyAutomation.Numeral.Rounding
import MelodyAutomation.Numeral.Shortest

/-!
# Writing decimals

A decimal is written positionally or in exponent form. Which exponents are
positional, and how an exponent is written, is one record; reals in messages
and answers use the record `plain`. Reals with a fixed number of places are
rounded from their exact value.
-/

namespace MelodyAutomation
namespace Numeral

/-- The decisions of a decimal format. -/
structure Layout where
  /-- The least decimal exponent that is written positionally. -/
  leastPositional : Int
  /-- The first decimal exponent that is not written positionally. -/
  firstScientific : Int
  /-- The least number of digits of an exponent. -/
  exponentWidth : Nat

/-- Positional from `10 ^ -4` up to below `10 ^ 16`, with at least one digit
after the point, and otherwise an exponent of at least two digits. -/
def Layout.plain : Layout := ⟨-4, 16, 2⟩

/-- The decimal digits of a natural number. -/
def digitsOf (number : Nat) : List Char := Nat.toDigits 10 number

/-- Digits of a natural number, padded on the left with zeros. -/
def paddedDigits (width number : Nat) : List Char :=
  let digits := digitsOf number
  List.replicate (width - digits.length) '0' ++ digits

/-- Digits with the point after the first `position` of them. -/
def positional (digits : List Char) (position : Int) : List Char :=
  if position ≤ 0 then
    '0' :: '.' :: (List.replicate (-position).toNat '0' ++ digits)
  else if digits.length ≤ position.toNat then
    digits ++ List.replicate (position.toNat - digits.length) '0' ++ ['.', '0']
  else digits.take position.toNat ++ '.' :: digits.drop position.toNat

/-- One digit, the others after a point, and the exponent of ten. -/
def Layout.scientific (layout : Layout) (digits : List Char) (exponent : Int) :
    List Char :=
  let body := match digits with
    | [] => ['0']
    | [first] => [first]
    | first :: rest => first :: '.' :: rest
  let sign := if exponent < 0 then '-' else '+'
  body ++ 'e' :: sign :: paddedDigits layout.exponentWidth exponent.natAbs

/-- A positive decimal in the given layout. -/
def Layout.write (layout : Layout) (decimal : Decimal) : List Char :=
  let digits := digitsOf decimal.coefficient
  let position := digits.length + decimal.exponent
  if layout.leastPositional ≤ position - 1 ∧
      position - 1 < layout.firstScientific then
    positional digits position
  else layout.scientific digits (position - 1)

/-- A nonnegative quotient with exactly `places` digits after the point. -/
def writeFixed (places numerator denominator : Nat) : List Char :=
  let unit := Nat.pow 10 places
  let scaled := roundHalfEven (numerator * unit) denominator
  let whole := digitsOf (scaled / unit)
  if places = 0 then whole
  else whole ++ '.' :: paddedDigits places (scaled % unit)

end Numeral
end MelodyAutomation

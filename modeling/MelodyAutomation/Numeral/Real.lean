import MelodyAutomation.Numeral.Integer

/-!
# Real numerals

Reading a real number from text: digits with an optional point and an optional
exponent, or the words `inf`, `infinity` and `nan` in any case, all with an
optional sign. White space at the ends is ignored, digits of any script are
accepted, and a single underscore may stand between two digits.
-/

namespace MelodyAutomation
namespace Numeral

/-- A real number as it is written: `± coefficient · 10 ^ exponent`, or one of
the two words. -/
inductive RealLiteral
  | decimal (negative : Bool) (coefficient : Nat) (exponent : Int)
  | infinity (negative : Bool)
  | notANumber
  deriving DecidableEq, Repr

/-- Drop every underscore that stands between two digits; any other underscore
refuses the text. -/
def dropUnderscores? : Bool → List Char → Option (List Char)
  | _, [] => some []
  | afterDigit, '_' :: rest =>
      match rest with
      | next :: _ =>
          if afterDigit && next.isDigit then dropUnderscores? false rest
          else none
      | [] => none
  | _, character :: rest =>
      (dropUnderscores? character.isDigit rest).map (character :: ·)

/-- The number a run of ASCII digits stands for. -/
def numberOf (digits : List Char) : Nat :=
  digits.foldl
    (fun number digit => number * 10 + (digit.toNat - '0'.toNat)) 0

/-- An exponent mark with its exponent, or nothing at all for exponent zero. -/
def exponent? : List Char → Option Int
  | [] => some 0
  | mark :: rest =>
      if mark = 'e' ∨ mark = 'E' then
        let (negative, digits) := splitSign rest
        if digits ≠ [] ∧ digits.all Char.isDigit then
          some (if negative then -(numberOf digits : Int) else numberOf digits)
        else none
      else none

/-- The digits of a numeral on both sides of its point, and what follows. -/
def splitPoint (characters : List Char) : List Char × List Char × List Char :=
  let whole := characters.takeWhile Char.isDigit
  match characters.dropWhile Char.isDigit with
  | '.' :: rest =>
      (whole, rest.takeWhile Char.isDigit, rest.dropWhile Char.isDigit)
  | rest => (whole, [], rest)

/-- An unsigned decimal numeral without underscores. -/
def unsignedDecimal? (characters : List Char) : Option (Nat × Int) :=
  let (whole, fraction, rest) := splitPoint characters
  if whole = [] ∧ fraction = [] then none
  else
    (exponent? rest).map fun exponent =>
      (numberOf (whole ++ fraction), exponent - fraction.length)

/-- An unsigned real numeral without underscores. -/
def unsignedReal? (negative : Bool) (characters : List Char) :
    Option RealLiteral :=
  let word := characters.map Char.toLower
  if word = "inf".toList ∨ word = "infinity".toList then
    some (.infinity negative)
  else if word = "nan".toList then some .notANumber
  else
    (unsignedDecimal? characters).map fun (coefficient, exponent) =>
      .decimal negative coefficient exponent

/-- Read a real number from text. -/
def readReal? (text : String) : Option RealLiteral :=
  match dropUnderscores? false
      (asciiDigits (Text.trim Text.isNumeralSpace text.toList)) with
  | some characters =>
      let (negative, body) := splitSign characters
      unsignedReal? negative body
  | none => none

end Numeral
end MelodyAutomation

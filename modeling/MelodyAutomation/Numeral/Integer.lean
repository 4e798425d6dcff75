import MelodyAutomation.Text.Digit
import MelodyAutomation.Text.Space

/-!
# Integer numerals

Reading a whole number from text. White space at the ends is ignored, a sign
may come first, digits of any script are accepted, and a single underscore may
stand between two digits. A base other than ten also takes letters as digits
and may be announced by `0b`, `0o` or `0x`; base zero means that the
announcement decides. Unless its base is a power of two, a numeral may have only
a limited number of digits.
-/

namespace MelodyAutomation
namespace Numeral

/-- Write every digit of another script by the ASCII digit of its value. -/
def asciiDigits (characters : List Char) : List Char :=
  characters.map fun character =>
    match Text.digitValue? character with
    | some value => Nat.digitChar value
    | none => character

/-- The value of a digit or letter as a digit of a base up to 36. -/
def placeValue? (character : Char) : Option Nat :=
  if character.isDigit then some (character.toNat - '0'.toNat)
  else if character.isLower then some (character.toNat - 'a'.toNat + 10)
  else if character.isUpper then some (character.toNat - 'A'.toNat + 10)
  else none

/-- The value of a hexadecimal digit. -/
def hexValue? (character : Char) : Option Nat :=
  (placeValue? character).bind fun value =>
    if value < 16 then some value else none

/-- The number that exactly `width` hexadecimal digits stand for. -/
def hexNumber? (width : Nat) (characters : List Char) : Option Nat :=
  let digits := characters.take width
  if digits.length = width then
    (digits.mapM hexValue?).map fun values =>
      values.foldl (fun number value => number * 16 + value) 0
  else none

/-- Digits of a base, continued from the number read so far. An underscore is
skipped when a digit follows it. -/
def digitsFrom? (base : Nat) : Nat → List Char → Option Nat
  | number, [] => some number
  | number, '_' :: next :: rest =>
      match placeValue? next with
      | some value =>
          if value < base then digitsFrom? base (number * base + value) rest
          else none
      | none => none
  | number, next :: rest =>
      match placeValue? next with
      | some value =>
          if value < base then digitsFrom? base (number * base + value) rest
          else none
      | none => none

/-- A nonempty run of digits of a base that starts with a digit. -/
def digits? (base : Nat) : List Char → Option Nat
  | [] => none
  | '_' :: _ => none
  | characters => digitsFrom? base 0 characters

/-- The greatest number of digits of a numeral whose base is no power of two. -/
def digitLimit : Nat := 4300

/-- Whether a numeral of a base may have as many digits as it likes. -/
def isUnlimited (base : Nat) : Bool := [2, 4, 8, 16, 32].contains base

/-- Digits of a base, as many as are allowed. -/
def limitedDigits? (base : Nat) (characters : List Char) : Option Nat :=
  if isUnlimited base || characters.countP (· != '_') ≤ digitLimit then
    digits? base characters
  else none

/-- The base announced by the first two characters, and what follows them. -/
def announced? : List Char → Option (Nat × List Char)
  | '0' :: mark :: rest =>
      let body := match rest with
        | '_' :: after => after
        | _ => rest
      if mark = 'b' ∨ mark = 'B' then some (2, body)
      else if mark = 'o' ∨ mark = 'O' then some (8, body)
      else if mark = 'x' ∨ mark = 'X' then some (16, body)
      else none
  | _ => none

/-- An unsigned numeral of a base, with its announcement if it has one. -/
def unsigned? (base : Nat) (characters : List Char) : Option Nat :=
  match announced? characters with
  | some (own, body) =>
      if base = own ∨ base = 0 then limitedDigits? own body
      else limitedDigits? base characters
  | none =>
      if base = 0 then
        match limitedDigits? 10 characters with
        | some number =>
            if characters.head? = some '0' ∧ number ≠ 0 then none
            else some number
        | none => none
      else limitedDigits? base characters

/-- Split off a leading sign; the flag says whether it is a minus. -/
def splitSign : List Char → Bool × List Char
  | '-' :: rest => (true, rest)
  | '+' :: rest => (false, rest)
  | characters => (false, characters)

@[simp] theorem splitSign_nil : splitSign [] = (false, []) := rfl

/-- Read a whole number of a base from text. -/
def readInteger? (base : Nat) (text : String) : Option Int :=
  let (negative, body) :=
    splitSign (asciiDigits (Text.trim Text.isNumeralSpace text.toList))
  (unsigned? base body).map fun number =>
    if negative then -(number : Int) else number

end Numeral
end MelodyAutomation

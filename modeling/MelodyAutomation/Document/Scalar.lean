import MelodyAutomation.Document.Octets
import MelodyAutomation.Document.Tag
import MelodyAutomation.Value.Arithmetic

/-!
# What scalars stand for

The literal that the text of a scalar stands for, given its tag. Numbers may be
grouped by underscores and written in parts of sixtieths; a sign in front of a
number is taken off first, and what is left is read as a numeral.
-/

namespace MelodyAutomation
namespace Document

variable {R : Type} [Scalar R]

/-- An attempt that fails by the fault of a document. -/
def attempt {α : Type} (result : Except Fault α) : Attempt R α :=
  match result with
  | .ok value => .ok value
  | .error fault => .error fault.failure

/-- The characters of a numeral without underscores, split from its sign; the
flag says whether it is a minus. -/
def signedNumeral (characters : List Char) : Except Fault (Bool × List Char) :=
  match characters.filter (· != '_') with
  | [] => .error .missingNumber
  | grouped => .ok (Numeral.splitSign grouped)

/-- The whole number of a base that some characters stand for. -/
def wholeNumber (base : Nat) (characters : List Char) : Except Fault Int :=
  match Numeral.readInteger? base (String.ofList characters) with
  | some number => .ok number
  | none => .error .malformedNumber

/-- Numbers joined to one, every one counting sixty times as much as the next. -/
def sixtieths (numbers : List Int) : Int :=
  numbers.foldl (fun total number => total * 60 + number) 0

/-- A whole number after its sign: binary, octal, decimal, hexadecimal, or in
parts of sixtieths. -/
def wholeMagnitude (characters : List Char) : Except Fault Int :=
  match characters with
  | [] => .error .missingNumber
  | '0' :: 'b' :: rest => wholeNumber 2 rest
  | '0' :: 'x' :: rest => wholeNumber 16 rest
  | '0' :: _ => wholeNumber 8 characters
  | _ =>
      if characters.contains ':' then do
        let numbers ← (splitColons characters).mapM (wholeNumber 10)
        .ok (sixtieths numbers)
      else wholeNumber 10 characters

/-- The whole number that a text stands for. -/
def intOf (content : String) : Except Fault Int := do
  let (negative, unsigned) ← signedNumeral content.toList
  let magnitude ← wholeMagnitude unsigned
  .ok (if negative then -magnitude else magnitude)

/-- The scalar that a numeral stands for. -/
def numeral (characters : List Char) : Attempt R R :=
  match (Numeral.readReal? (String.ofList characters)).bind
      Scalar.ofLiteral? with
  | some scalar => .ok scalar
  | none => .error Fault.malformedNumber.failure

/-- A scalar in parts of sixtieths, the last part first: each part counts sixty
times as much as the one before. -/
def sixtiethsFrom : List R → Int → R → Attempt R R
  | [], _, total => .ok total
  | part :: parts, unit, total => do
      let scaled ← Number.mul (.scalar part) (.whole unit)
      let sum ← Number.add (.scalar total) scaled
      let next ← sum.toScalar
      sixtiethsFrom parts (unit * 60) next

/-- A scalar after its sign: an infinity, no number, a numeral, or numerals in
parts of sixtieths. -/
def scalarMagnitude (characters : List Char) : Attempt R R :=
  if characters = ".inf".toList then numeral "inf".toList
  else if characters = ".nan".toList then numeral "nan".toList
  else if characters.contains ':' then do
    let parts ← (splitColons characters).mapM numeral
    sixtiethsFrom parts.reverse 1 Scalar.zero
  else numeral characters

omit [Scalar R] in
/-- Whether a text is the mark of no number, however its letters are written. -/
def isUndefinedMark (content : String) : Bool :=
  match signedNumeral (content.toList.map Char.toLower) with
  | .ok (_, unsigned) => unsigned == ".nan".toList
  | .error _ => false

/-- The scalar that a text stands for. -/
def realOf (content : String) : Attempt R R := do
  let (negative, unsigned) ←
    attempt (signedNumeral (content.toList.map Char.toLower))
  let magnitude ← scalarMagnitude unsigned
  .ok (if negative then Scalar.neg magnitude else magnitude)

/-- The truth value that a text stands for. -/
def truthOf (content : String) : Except Fault Bool :=
  let small := content.map Char.toLower
  if trueWords.contains small then .ok true
  else if falseWords.contains small then .ok false
  else .error .malformedTruthValue

omit [Scalar R] in
/-- The date or moment that a text stands for. -/
def dateOf (content : String) : Except Fault (Value R) :=
  match DateText.read? (withoutLastBreak content.toList) with
  | none => .error .noDate
  | some text =>
      match text.time with
      | none =>
          if text.date.isValid then .ok (.date text.date)
          else .error .impossibleDate
      | some time =>
          let moment := text.moment time
          if moment.isValid then .ok (.moment moment)
          else .error .impossibleDate

/-- The literal that a text stands for, for a tag that a text can have. -/
def contentValue (tag : Tag) (content : String) : Attempt R (Value R) :=
  match tag with
  | .null => .ok .null
  | .text => .ok (.text content)
  | .bool => do
      let truth ← attempt (truthOf content)
      .ok (.bool truth)
  | .int => do
      let number ← attempt (intOf content)
      .ok (.int number)
  | .float => do
      let scalar ← realOf content
      .ok (.real scalar)
  | .octets => do
      let octets ← attempt (octets content.toList)
      .ok (.bytes octets)
  | .date => attempt (dateOf content)
  | _ => .error Fault.unknownTag.failure

end Document
end MelodyAutomation

import MelodyAutomation.Document.DateText
import MelodyAutomation.Scalar

/-!
# Tags

What kind of value a node of a document is. A node may say so itself; a plain
text that does not is a number, a truth value, a null, a date, a mark for merging
or for a default value, or else a text, depending on its spelling. One line break
at the end of a text makes no difference.
-/

namespace MelodyAutomation
namespace Document

/-- The kinds of node that have a meaning. -/
inductive Tag
  | null
  | bool
  | int
  | float
  | text
  | octets
  | date
  | sequence
  | mapping
  | set
  | orderedMap
  | pairs
  | merge
  | value
  | unknown
  deriving DecidableEq, Repr

namespace Tag

/-- What the names of the known tags begin with. -/
def standardNames : String := "tag:yaml.org,2002:"

/-- The tag of a short name. -/
def ofShortName : String → Tag
  | "null" => null
  | "bool" => bool
  | "int" => int
  | "float" => float
  | "str" => text
  | "binary" => octets
  | "timestamp" => date
  | "seq" => sequence
  | "map" => mapping
  | "set" => set
  | "omap" => orderedMap
  | "pairs" => pairs
  | "merge" => merge
  | "value" => value
  | _ => unknown

/-- The tag of a full name. -/
def ofName (name : String) : Tag :=
  let length := standardNames.length
  if name.toList.take length = standardNames.toList then
    ofShortName (String.ofList (name.toList.drop length))
  else unknown

end Tag

/-- The spellings of truth. -/
def trueWords : List String := ["yes", "true", "on"]

/-- The spellings of falsehood. -/
def falseWords : List String := ["no", "false", "off"]

/-- A word with its first letter in upper case. -/
def capitalized (word : String) : String :=
  match word.toList with
  | [] => word
  | first :: rest => String.ofList (first.toUpper :: rest)

/-- The three ways to write a word: small, capitalized, and in capitals. -/
def casings (word : String) : List String :=
  [word, capitalized word, word.map Char.toUpper]

/-- Whether a text is one of some words in one of the three ways. -/
def isWord (words : List String) (text : String) : Bool :=
  (words.flatMap casings).contains text

/-- Whether a character is a digit or an underscore. -/
def isDigitOrScore (character : Char) : Bool :=
  character.isDigit || character == '_'

/-- Whether a text is a digit followed by digits and underscores. -/
def startsWithDigit : List Char → Bool
  | [] => false
  | first :: rest => first.isDigit && rest.all isDigitOrScore

/-- Whether a text is one or two digits that count sixtieths. -/
def isSixtieths : List Char → Bool
  | [digit] => digit.isDigit
  | [tens, digit] => '0' ≤ tens && tens ≤ '5' && digit.isDigit
  | _ => false

/-- The parts of a text between colons. -/
def splitColons : List Char → List (List Char)
  | [] => [[]]
  | ':' :: rest => [] :: splitColons rest
  | character :: rest =>
      match splitColons rest with
      | [] => [[character]]
      | part :: parts => (character :: part) :: parts

/-- An unsigned text in parts of sixtieths that begins with a given kind of
part. -/
def isSexagesimal (first : List Char → Bool) (characters : List Char) : Bool :=
  match splitColons characters with
  | head :: next :: parts => first head && (next :: parts).all isSixtieths
  | _ => false

/-- Whether an unsigned text is a whole number: binary, octal, decimal,
hexadecimal, or in parts of sixtieths. -/
def isUnsignedInt (characters : List Char) : Bool :=
  match characters with
  | '0' :: 'b' :: digits =>
      digits ≠ [] && digits.all fun digit =>
        digit == '0' || digit == '1' || digit == '_'
  | '0' :: 'x' :: digits =>
      digits ≠ [] && digits.all fun digit =>
        isDigitOrScore digit || ('a' ≤ digit && digit ≤ 'f') ||
          ('A' ≤ digit && digit ≤ 'F')
  | '0' :: digits =>
      digits.all fun digit => digit == '_' || ('0' ≤ digit && digit ≤ '7')
  | _ =>
      startsWithDigit characters || isSexagesimal startsWithDigit characters

/-- Whether a text is an exponent with its sign, or nothing. -/
def isExponent : List Char → Bool
  | [] => true
  | mark :: sign :: digits =>
      (mark == 'e' || mark == 'E') && (sign == '+' || sign == '-') &&
        digits ≠ [] && digits.all Char.isDigit
  | _ => false

/-- Whether an unsigned text is a real number: digits with a point after the
first of them, and an exponent only with its sign. -/
def isUnsignedFloat (characters : List Char) : Bool :=
  let whole := characters.takeWhile fun c => isDigitOrScore c || c == ':'
  match characters.dropWhile fun c => isDigitOrScore c || c == ':' with
  | '.' :: rest =>
      let exponent := rest.dropWhile isDigitOrScore
      (startsWithDigit whole && isExponent exponent) ||
        (exponent = [] && isSexagesimal startsWithDigit whole)
  | _ => false

/-- Whether a text is a fraction without digits before its point. -/
def isFraction : List Char → Bool
  | '.' :: rest =>
      startsWithDigit (rest.takeWhile isDigitOrScore) &&
        isExponent (rest.dropWhile isDigitOrScore)
  | _ => false

/-- Whether a text is a real number, an infinity or the mark of no number. -/
def isFloat (characters : List Char) : Bool :=
  let unsigned := (Numeral.splitSign characters).2
  isUnsignedFloat unsigned || isFraction characters ||
    [".inf", ".Inf", ".INF"].contains (String.ofList unsigned) ||
    [".nan", ".NaN", ".NAN"].contains (String.ofList characters)

/-- Whether a text is a date or a moment. -/
def isDate (characters : List Char) : Bool :=
  (DateText.read? characters).any DateText.isPlain

/-- A text without a line break at its end. -/
def withoutLastBreak (characters : List Char) : List Char :=
  match characters.reverse with
  | '\n' :: rest => rest.reverse
  | _ => characters

/-- Whether a text is a mark of the notation itself, which a plain text can never
be. -/
def isReservedMark (content : String) : Bool := ["!", "&", "*"].contains content

/-- The tag of a plain text. -/
def plainTag (text : String) : Tag :=
  let characters := withoutLastBreak text.toList
  let content := String.ofList characters
  if isWord (trueWords ++ falseWords) content then .bool
  else if isFloat characters then .float
  else if isUnsignedInt (Numeral.splitSign characters).2 then .int
  else if content = "<<" then .merge
  else if text = "" ∨ content = "~" ∨ isWord ["null"] content then .null
  else if isDate characters then .date
  else if content = "=" then .value
  else if isReservedMark content then .unknown
  else .text

end Document
end MelodyAutomation

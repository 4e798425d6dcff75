import MelodyAutomation.Scalar
import MelodyAutomation.Text.Quoted
import MelodyAutomation.Value.Equality

/-!
# Literals as JSON texts

A literal can be read from a JSON text and written as one. A number is whole unless
it has a point or an exponent; arrays are lists, and objects are maps in which a
later entry replaces an earlier one with the same key. In a written text every
character beyond ASCII is given by its code units.
-/

namespace MelodyAutomation
namespace Json

variable {R : Type}

/-! ## Reading -/

/-- Pass white space. -/
def skipBlanks (input : List Char) : List Char :=
  input.dropWhile fun character =>
    character == ' ' || character == '\n' || character == '\t' ||
      character == '\r'

/-- The character that a letter stands for after a backslash. -/
def escaped : Char → Char
  | 'n' => '\n'
  | 't' => '\t'
  | 'r' => '\r'
  | 'b' => '\x08'
  | 'f' => '\x0c'
  | other => other

/-- Put a code unit behind the code points read so far, the last one first. The
second half of a pair joins the first one. -/
def pushUnit (unit : Nat) : List Nat → List Nat
  | [] => [unit]
  | last :: before =>
      match Text.joined? last unit with
      | some point => point :: before
      | none => unit :: last :: before

/-- Read a string after its opening quote, behind the code points read so far. -/
def readText? (read : List Nat) : List Char → Option (String × List Char)
  | [] => none
  | '"' :: rest => some (String.ofList (Text.ofPoints read.reverse), rest)
  | '\\' :: 'u' :: a :: b :: c :: d :: rest => do
      let unit ← Numeral.hexNumber? 4 [a, b, c, d]
      readText? (pushUnit unit read) rest
  | '\\' :: character :: rest =>
      readText? ((escaped character).toNat :: read) rest
  | character :: rest => readText? (character.toNat :: read) rest

/-- Whether a character may stand in a number. -/
def isNumberCharacter (character : Char) : Bool :=
  character.isDigit || ['-', '+', '.', 'e', 'E'].contains character

variable [Scalar R]

/-- The number that a word spells. -/
def number? (word : String) : Option (Value R) :=
  match Numeral.readInteger? 10 word with
  | some number => some (.int number)
  | none =>
      ((Numeral.readReal? word).bind Scalar.ofLiteral?).map .real

mutual

/-- Read one literal, and what follows it. -/
def read? : Nat → List Char → Option (Value R × List Char)
  | 0, _ => none
  | fuel + 1, input =>
      match skipBlanks input with
      | '\x7b' :: rest => readEntries? fuel [] (skipBlanks rest)
      | '[' :: rest => readItems? fuel [] (skipBlanks rest)
      | '"' :: rest =>
          (readText? [] rest).map fun (content, after) => (.text content, after)
      | 't' :: 'r' :: 'u' :: 'e' :: rest => some (.bool true, rest)
      | 'f' :: 'a' :: 'l' :: 's' :: 'e' :: rest => some (.bool false, rest)
      | 'n' :: 'u' :: 'l' :: 'l' :: rest => some (.null, rest)
      | other =>
          let word := other.takeWhile isNumberCharacter
          (number? (String.ofList word)).map fun number =>
            (number, other.drop word.length)

/-- Read the items of an array behind the ones read so far. -/
def readItems? :
    Nat → List (Value R) → List Char → Option (Value R × List Char)
  | 0, _, _ => none
  | _ + 1, items, ']' :: rest => some (.list items.reverse, rest)
  | fuel + 1, items, ',' :: rest => readItems? fuel items (skipBlanks rest)
  | fuel + 1, items, input => do
      let (item, rest) ← read? fuel input
      readItems? fuel (item :: items) (skipBlanks rest)

/-- Read the entries of an object behind the ones read so far. -/
def readEntries? :
    Nat → Entries R → List Char → Option (Value R × List Char)
  | 0, _, _ => none
  | _ + 1, entries, '\x7d' :: rest =>
      some (.map (Keyed.ofList entries.reverse), rest)
  | fuel + 1, entries, ',' :: rest =>
      readEntries? fuel entries (skipBlanks rest)
  | fuel + 1, entries, input => do
      let (key, after) ← read? fuel input
      let (value, rest) ← read? fuel ((skipBlanks after).drop 1)
      readEntries? fuel ((key, value) :: entries) (skipBlanks rest)

end

/-- The literal that a text spells. -/
def ofText? (text : String) : Option (Value R) :=
  let input := text.toList
  (read? (2 * input.length + 2) input).map Prod.fst

/-! ## Writing -/

/-- A code unit by its number. -/
def unitEscape (unit : Nat) : List Char := '\\' :: 'u' :: Text.hexDigits 4 unit

/-- A code point of a written string. -/
def writePoint (point : Nat) : List Char :=
  let character := Char.ofNat point
  if character = '"' ∨ character = '\\' then ['\\', character]
  else if ' ' ≤ character ∧ character ≤ '~' then [character]
  else (Text.units point).flatMap unitEscape

/-- A text as a string. -/
def quoted (content : String) : String :=
  let points := Text.points content.toList
  String.ofList ('"' :: (points.flatMap writePoint ++ ['"']))

/-- Words between brackets. -/
def bracketed (left : String) (words : List String) (right : String) : String :=
  left ++ ",".intercalate words ++ right

mutual

/-- A literal as a text. What JSON has no form for becomes null. -/
def write : Value R → String
  | .bool truth => if truth then "true" else "false"
  | .int number => toString number
  | .real scalar => Scalar.text scalar
  | .text content => quoted content
  | .list items => bracketed "[" (writeItems items) "]"
  | .tuple items => bracketed "[" (writeItems items) "]"
  | .map entries => bracketed "\x7b" (writeEntries entries) "\x7d"
  | _ => "null"

/-- The items of a list as texts. -/
def writeItems : List (Value R) → List String
  | [] => []
  | item :: rest => write item :: writeItems rest

/-- The entries of a map as texts. -/
def writeEntries : Entries R → List String
  | [] => []
  | (key, value) :: rest =>
      (write key ++ ":" ++ write value) :: writeEntries rest

end

end Json
end MelodyAutomation

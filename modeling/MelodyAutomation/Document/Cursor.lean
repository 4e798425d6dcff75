/-!
# Positions in a document

A cursor is what is left of a text, with the position that was reached: the
number of characters passed, the line and the column. Lines end at a line feed,
at the next-line control, or at a line or paragraph separator. The byte order
mark takes no column.
-/

namespace MelodyAutomation
namespace Document

/-- Whether a character ends a line. -/
def isBreak (character : Char) : Bool :=
  character == '\n' || character == '\x85' || character == '\u2028' ||
    character == '\u2029'

/-- Whether a character is a space or a tab. -/
def isBlank (character : Char) : Bool := character == ' ' || character == '\t'

/-- Whether a character separates words. -/
def isGap (character : Char) : Bool := isBlank character || isBreak character

/-- Whether a character may stand in a name: an ASCII letter or digit, a hyphen
or an underscore. -/
def isNameCharacter (character : Char) : Bool :=
  character.isAlphanum || character == '-' || character == '_'

/-- Whether a character may stand in a document at all. -/
def isAllowed (character : Char) : Bool :=
  let point := character.toNat
  point == 0x09 || point == 0x0a || point == 0x0d ||
    (0x20 ≤ point && point ≤ 0x7e) || point == 0x85 ||
    (0xa0 ≤ point && point ≤ 0xfffd) || 0x10000 ≤ point

/-- What is left of a text, and the position that was reached. -/
structure Cursor where
  rest : List Char
  index : Nat
  line : Nat
  column : Nat

namespace Cursor

/-- The start of a text. -/
def start (characters : List Char) : Cursor := ⟨characters, 0, 0, 0⟩

/-- The next character. -/
def peek (cursor : Cursor) : Option Char := cursor.rest.head?

/-- Whether the next character is a given one. -/
def at? (cursor : Cursor) (character : Char) : Bool :=
  cursor.peek == some character

/-- Whether the next character satisfies a condition. -/
def nextIs (cursor : Cursor) (condition : Char → Bool) : Bool :=
  cursor.peek.any condition

/-- Whether nothing or a gap comes `distance` characters ahead. -/
def gapAhead (cursor : Cursor) (distance : Nat) : Bool :=
  (cursor.rest[distance]?).all isGap

/-- Pass one character. -/
def step (cursor : Cursor) : Cursor :=
  match cursor.rest with
  | [] => cursor
  | character :: rest =>
      if isBreak character then
        ⟨rest, cursor.index + 1, cursor.line + 1, 0⟩
      else if character = '\ufeff' then
        ⟨rest, cursor.index + 1, cursor.line, cursor.column⟩
      else ⟨rest, cursor.index + 1, cursor.line, cursor.column + 1⟩

/-- Pass a number of characters. -/
def skip (cursor : Cursor) : Nat → Cursor
  | 0 => cursor
  | count + 1 => cursor.step.skip count

@[simp] theorem skip_zero (cursor : Cursor) : cursor.skip 0 = cursor := rfl

/-- The longest run of characters that satisfy a condition, and what follows. -/
def span (cursor : Cursor) (condition : Char → Bool) : List Char × Cursor :=
  let taken := cursor.rest.takeWhile condition
  (taken, cursor.skip taken.length)

/-- Pass all characters that satisfy a condition. -/
def skipWhile (cursor : Cursor) (condition : Char → Bool) : Cursor :=
  (cursor.span condition).2

/-- The number of blanks and line breaks that come next. -/
def gapLength (cursor : Cursor) : Nat := (cursor.rest.takeWhile isGap).length

/-- Pass spaces. -/
def skipSpaces (cursor : Cursor) : Cursor := cursor.skipWhile (· == ' ')

/-- Pass spaces as long as the column is less than an indentation. -/
def skipIndent (cursor : Cursor) (indent : Nat) : Cursor :=
  let spaces := (cursor.rest.takeWhile (· == ' ')).length
  cursor.skip (min spaces (indent - cursor.column))

/-- Pass the rest of a line. -/
def skipLine (cursor : Cursor) : Cursor :=
  cursor.skipWhile fun character => !isBreak character

/-- Pass a comment. -/
def skipComment (cursor : Cursor) : Cursor :=
  if cursor.at? '#' then cursor.skipLine else cursor

/-- Take a line break. A line feed and a next-line control are the same break;
separators are kept as they are. -/
def takeBreak? (cursor : Cursor) : Option (Char × Cursor) :=
  match cursor.peek with
  | some character =>
      if isBreak character then
        some (if character = '\x85' then '\n' else character, cursor.step)
      else none
  | none => none

/-- Whether the next three characters are a separator of documents. -/
def atSeparator (cursor : Cursor) : Bool :=
  (cursor.rest.take 3 == ['-', '-', '-'] ||
      cursor.rest.take 3 == ['.', '.', '.']) && cursor.gapAhead 3

end Cursor
end Document
end MelodyAutomation

import MelodyAutomation.Document.Cursor
import MelodyAutomation.Document.Fault
import MelodyAutomation.Numeral.Integer
import MelodyAutomation.Text.Point

/-!
# Scalar texts

The text of a scalar in its four spellings. A quoted text ends at its quote; a
single line break inside it becomes a space, and between double quotes a
backslash starts an escape. A plain text ends where a line says so by its
indentation, by a comment, or by an indicator. A block text holds whole lines,
kept or folded, and its header says what becomes of the breaks at its end.

A quoted text is given by the characters that its code points are kept in, because
an escape may name any code point; the other texts are given as they are written.
-/

namespace MelodyAutomation
namespace Document

/-- What a line break and the empty lines after it leave in a folded text. -/
def foldBreaks (first : Char) (breaks : List Char) : List Char :=
  if first ≠ '\n' then first :: breaks
  else if breaks = [] then [' ']
  else breaks

/-! ## Quoted texts -/

/-- The characters that a letter stands for after a backslash. -/
def letterEscapes : List (Char × Char) :=
  [('0', '\x00'), ('a', '\x07'), ('b', '\x08'), ('t', '\t'), ('\t', '\t'),
    ('n', '\n'), ('v', '\x0b'), ('f', '\x0c'), ('r', '\r'), ('e', '\x1b'),
    (' ', ' '), ('"', '"'), ('\\', '\\'), ('/', '/'), ('N', '\x85'),
    ('_', '\xa0'), ('L', '\u2028'), ('P', '\u2029')]

/-- The number of hexadecimal digits that a letter announces. -/
def escapeWidth? : Char → Option Nat
  | 'x' => some 2
  | 'u' => some 4
  | 'U' => some 8
  | _ => none

/-- What a code point is kept in, given by its code. -/
def ofCode (code : Nat) : Except Fault (List Char) :=
  if 0x7fffffff < code then .error .codeTooLarge
  else if Text.lastPoint < code then .error .codeOutOfRange
  else .ok (Text.ofPoint code)

/-- The breaks of empty lines inside quotes. -/
def quotedBreaks : Nat → Cursor → Except Fault (List Char × Cursor)
  | 0, cursor => .ok ([], cursor)
  | fuel + 1, cursor =>
      if cursor.atSeparator then .error .separatorInsideQuotes
      else
        match (cursor.skipWhile isBlank).takeBreak? with
        | none => .ok ([], cursor.skipWhile isBlank)
        | some (first, after) => do
            let (breaks, final) ← quotedBreaks fuel after
            .ok (first :: breaks, final)

/-- An escape between double quotes, after its backslash. -/
def quotedEscape (cursor : Cursor) : Except Fault (List Char × Cursor) :=
  match cursor.peek with
  | none => .error .malformedEscape
  | some character =>
      match letterEscapes.find? fun entry => entry.1 == character with
      | some (_, meaning) => .ok ([meaning], cursor.step)
      | none =>
          match escapeWidth? character with
          | some width =>
              match Numeral.hexNumber? width cursor.step.rest with
              | some code => do
                  let meaning ← ofCode code
                  .ok (meaning, cursor.skip (width + 1))
              | none => .error .malformedEscape
          | none =>
              if isBreak character then
                quotedBreaks cursor.gapLength cursor.step
              else .error .malformedEscape

/-- White space between quotes: a run within a line is kept, one with line
breaks is folded. -/
def quotedGap (cursor : Cursor) : Except Fault (List Char × Cursor) :=
  let (blanks, after) := cursor.span isBlank
  match after.takeBreak? with
  | some (first, next) => do
      let (breaks, final) ← quotedBreaks (next.gapLength + 1) next
      .ok (foldBreaks first breaks, final)
  | none => .ok (blanks, after)

/-- The text up to the closing quote, and what follows the quote. -/
def quotedText (double : Bool) : Nat → Cursor → Except Fault (List Char × Cursor)
  | 0, _ => .error .unexpectedEnd
  | fuel + 1, cursor =>
      match cursor.rest with
      | [] => .error .unexpectedEnd
      | '\'' :: '\'' :: _ =>
          if double then do
            let (text, final) ← quotedText double fuel cursor.step
            .ok ('\'' :: text, final)
          else do
            let (text, final) ← quotedText double fuel (cursor.skip 2)
            .ok ('\'' :: text, final)
      | character :: _ =>
          if character = (if double then '"' else '\'') then
            .ok ([], cursor.step)
          else do
            let (piece, next) ←
              if isGap character then quotedGap cursor
              else if double && character == '\\' then quotedEscape cursor.step
              else .ok (Text.ofCharacters [character], cursor.step)
            let (text, final) ← quotedText double fuel next
            .ok (piece ++ text, final)

/-! ## Plain texts -/

/-- Whether a character ends a plain text inside brackets. -/
def isFlowIndicator (character : Char) : Bool :=
  character == ',' || character == '?' || character == '[' ||
    character == ']' || character == '\x7b' || character == '\x7d'

/-- Whether a colon before some characters ends a plain text. -/
def colonEnds (flow : Bool) : List Char → Bool
  | [] => true
  | next :: _ =>
      isGap next || (flow && isFlowIndicator next && next != '?')

/-- The first word of a plain text. -/
def plainWord (flow : Bool) : List Char → List Char
  | [] => []
  | character :: rest =>
      if isGap character || (character == ':' && colonEnds flow rest) ||
          (flow && isFlowIndicator character) then []
      else character :: plainWord flow rest

/-- The breaks of empty lines between plain words; none before a separator of
documents. -/
def plainBreaks : Nat → Cursor → Option (List Char) × Cursor
  | 0, cursor => (some [], cursor)
  | fuel + 1, cursor =>
      match cursor.skipSpaces.takeBreak? with
      | none => (some [], cursor.skipSpaces)
      | some (first, after) =>
          if after.atSeparator then (none, after)
          else
            let (breaks, final) := plainBreaks fuel after
            (breaks.map (first :: ·), final)

/-- White space between plain words, folded. The flag says whether it has a line
break. -/
def plainGap (cursor : Cursor) : List Char × Bool × Cursor :=
  let (spaces, after) := cursor.span (· == ' ')
  match after.takeBreak? with
  | none => (spaces, false, after)
  | some (first, next) =>
      if next.atSeparator then ([], true, next)
      else
        match plainBreaks (next.gapLength + 1) next with
        | (some breaks, final) => (foldBreaks first breaks, true, final)
        | (none, final) => ([], true, final)

/-- A plain text after the white space `gap`, which is dropped when no word
follows. The flag says whether the text ends after a line break. -/
def plainText (flow : Bool) (indent : Int) :
    Nat → List Char → Bool → Cursor → List Char × Bool × Cursor
  | 0, _, broken, cursor => ([], broken, cursor)
  | fuel + 1, gap, broken, cursor =>
      let word := plainWord flow cursor.rest
      if cursor.at? '#' || word.isEmpty then ([], broken, cursor)
      else
        let (next, breaks, after) := plainGap (cursor.skip word.length)
        if next.isEmpty || after.at? '#' ||
            (!flow && decide ((after.column : Int) < indent)) then
          (gap ++ word, breaks, after)
        else
          let (text, ended, final) :=
            plainText flow indent fuel next breaks after
          (gap ++ word ++ text, ended, final)

/-! ## Block texts -/

/-- What becomes of the line breaks at the end of a block text. -/
inductive Chomping
  | clip
  | strip
  | keep
  deriving DecidableEq, Repr

/-- The chomping that a sign announces. -/
def chomping? : Char → Option Chomping
  | '+' => some .keep
  | '-' => some .strip
  | _ => none

/-- The indentation that a digit announces. -/
def indentation? (character : Char) : Option Nat :=
  if character.isDigit then some (character.toNat - '0'.toNat) else none

/-- The signs after the indicator of a block text, in either order, and what
follows the header's line. -/
def blockHeader (cursor : Cursor) :
    Except Fault (Chomping × Option Nat × Cursor) := do
  let (early, afterSign) := match cursor.peek.bind chomping? with
    | some chomping => (some chomping, cursor.step)
    | none => (none, cursor)
  let (width, afterWidth) := match afterSign.peek.bind indentation? with
    | some width => (some width, afterSign.step)
    | none => (none, afterSign)
  if width = some 0 then .error .malformedBlockHeader
  let (late, after) := match early, afterWidth.peek.bind chomping? with
    | none, some chomping =>
        if width.isSome then (some chomping, afterWidth.step)
        else (none, afterWidth)
    | _, _ => (early, afterWidth)
  if after.nextIs fun character => character != ' ' && !isBreak character then
    .error .malformedBlockHeader
  let line := after.skipSpaces.skipComment
  match line.takeBreak? with
  | some (_, next) => .ok (late.getD .clip, width, next)
  | none =>
      if line.rest.isEmpty then .ok (late.getD .clip, width, line)
      else .error .malformedBlockHeader

/-- The breaks of leading empty lines, with the greatest column reached. -/
def blockStart : Nat → Nat → Cursor → List Char × Nat × Cursor
  | 0, greatest, cursor => ([], greatest, cursor)
  | fuel + 1, greatest, cursor =>
      match cursor.takeBreak? with
      | some (first, after) =>
          let (breaks, width, final) := blockStart fuel greatest after
          (first :: breaks, width, final)
      | none =>
          if cursor.at? ' ' then
            blockStart fuel (max greatest (cursor.column + 1)) cursor.step
          else ([], greatest, cursor)

/-- The breaks of empty lines in a block text of some indentation. -/
def blockBreaks (indent : Nat) : Nat → Cursor → List Char × Cursor
  | 0, cursor => ([], cursor)
  | fuel + 1, cursor =>
      match (cursor.skipIndent indent).takeBreak? with
      | some (first, after) =>
          let (breaks, final) := blockBreaks indent fuel after
          (first :: breaks, final)
      | none => ([], cursor.skipIndent indent)

/-- What stands between two lines of a block text. -/
def betweenLines (folded leadingBlank : Bool) (lineBreak : Option Char)
    (breaks : List Char) (next : Cursor) : List Char :=
  if folded && lineBreak == some '\n' && !leadingBlank &&
      !next.nextIs isBlank then
    if breaks.isEmpty then [' '] else []
  else lineBreak.toList

/-- The lines of a block text, after the breaks of the empty lines before them:
the text without the breaks at its end, the last break, the breaks of the
empty lines after it, and what follows. -/
def blockLines (folded : Bool) (indent : Nat) :
    Nat → List Char → Cursor → List Char × Option Char × List Char × Cursor
  | 0, breaks, cursor => ([], none, breaks, cursor)
  | fuel + 1, breaks, cursor =>
      if cursor.column = indent ∧ cursor.rest ≠ [] then
        let (line, after) := cursor.span fun character => !isBreak character
        let (lineBreak, next) := match after.takeBreak? with
          | some (character, following) => (some character, following)
          | none => (none, after)
        let (empty, reached) := blockBreaks indent (next.gapLength + 1) next
        if reached.column = indent ∧ reached.rest ≠ [] then
          let between := betweenLines folded (cursor.nextIs isBlank) lineBreak
            empty reached
          let (text, last, trailing, final) :=
            blockLines folded indent fuel empty reached
          (breaks ++ line ++ between ++ text, last, trailing, final)
        else (breaks ++ line, lineBreak, empty, reached)
      else ([], none, breaks, cursor)

/-- A block text after its indicator, in a collection of some indentation. -/
def blockText (folded : Bool) (outer : Int) (cursor : Cursor) :
    Except Fault (List Char × Cursor) := do
  let (chomping, width, after) ← blockHeader cursor
  let least := (max (outer + 1) 1).toNat
  let fuel := after.rest.length + 1
  let (indent, breaks, first) := match width with
    | some own =>
        let indent := least + own - 1
        let (breaks, first) := blockBreaks indent fuel after
        (indent, breaks, first)
    | none =>
        let (breaks, greatest, first) := blockStart fuel 0 after
        (max least greatest, breaks, first)
  let (text, last, trailing, final) :=
    blockLines folded indent fuel breaks first
  match chomping with
  | .strip => .ok (text, final)
  | .clip => .ok (text ++ last.toList, final)
  | .keep => .ok (text ++ last.toList ++ trailing, final)

end Document
end MelodyAutomation

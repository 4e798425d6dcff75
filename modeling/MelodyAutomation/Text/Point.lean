/-!
# Code points

A text is a sequence of code points, and not every code point is a character: those
from 0xd800 to 0xdfff are halves of pairs. A text is kept in characters all the
same. A code point that is a character stands for itself, except for the last
character of all, which is a mark: with another mark behind it, it stands for
itself, and with a character of a private range behind it for a half. No two texts
are kept in the same characters.
-/

namespace MelodyAutomation
namespace Text

/-- The first of the code points that are halves of pairs. -/
def firstHalf : Nat := 0xd800

/-- The code point of the private character that stands for the first half. -/
def firstPrivate : Nat := 0xe000

/-- The greatest code point. -/
def lastPoint : Nat := 0x10ffff

/-- The character in front of what would otherwise be taken for itself. -/
def mark : Char := Char.ofNat lastPoint

/-- Whether a code point is half of a pair. -/
def isHalf (point : Nat) : Bool := 0xd800 ≤ point && point ≤ 0xdfff

/-- The characters that a code point is kept in. -/
def ofPoint (point : Nat) : List Char :=
  if isHalf point then [mark, Char.ofNat (point - firstHalf + firstPrivate)]
  else if point = lastPoint then [mark, mark]
  else [Char.ofNat point]

/-- The characters that code points are kept in. -/
def ofPoints (points : List Nat) : List Char := points.flatMap ofPoint

@[simp] theorem ofPoints_nil : ofPoints [] = [] := rfl

@[simp] theorem ofPoints_cons (point : Nat) (rest : List Nat) :
    ofPoints (point :: rest) = ofPoint point ++ ofPoints rest := by
  simp [ofPoints]

/-- The code point that a character behind a mark stands for. -/
def markedPoint (character : Char) : Nat :=
  if character = mark then lastPoint
  else character.toNat - firstPrivate + firstHalf

/-- The code points that are kept in some characters. -/
def points : List Char → List Nat
  | [] => []
  | [last] => [last.toNat]
  | first :: second :: rest =>
      if first = mark then markedPoint second :: points rest
      else first.toNat :: points (second :: rest)

/-- The characters that characters are kept in. -/
def ofCharacters (characters : List Char) : List Char :=
  ofPoints (characters.map Char.toNat)

/-- The characters of a text that has no half of a pair. -/
def characters? (text : String) : Option String :=
  let numbers := points text.toList
  if numbers.any isHalf then none
  else some (String.ofList (numbers.map Char.ofNat))

/-- The code points of a text, each as a text of its own. -/
def pieces (text : String) : List String :=
  (points text.toList).map fun point => String.ofList (ofPoint point)

/-- The code point of a pair, when the two code points are its halves in order. -/
def joined? (high low : Nat) : Option Nat :=
  if 0xd800 ≤ high ∧ high < 0xdc00 ∧ 0xdc00 ≤ low ∧ low ≤ 0xdfff then
    some (0x10000 + (high - 0xd800) * 1024 + (low - 0xdc00))
  else none

/-- The code units of a code point: one, or the two halves of a pair. -/
def units (point : Nat) : List Nat :=
  if point < 0x10000 then [point]
  else [0xd800 + (point - 0x10000) / 1024, 0xdc00 + (point - 0x10000) % 1024]

end Text
end MelodyAutomation

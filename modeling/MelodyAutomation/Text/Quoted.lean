import MelodyAutomation.Text.Point
import MelodyAutomation.Text.Printable

/-!
# Quoted text

How a text value, or a string of octets, is shown inside a message. Single quotes
are used unless the text holds a single quote and no double quote. The quote in
use and the backslash are escaped, tab, line feed and carriage return have letter
escapes, and every other code point that is no printable character is written by
its number in two, four or eight hexadecimal digits, whichever is the first to
fit. Octets are shown in the same way behind a letter `b`, those beyond ASCII by
their number.
-/

namespace MelodyAutomation
namespace Text

/-- A number in exactly `width` hexadecimal digits, high digits first. -/
def hexDigits : Nat → Nat → List Char
  | 0, _ => []
  | width + 1, number =>
      hexDigits width (number / 16) ++ [Nat.digitChar (number % 16)]

@[simp] theorem length_hexDigits (width number : Nat) :
    (hexDigits width number).length = width := by
  induction width generalizing number with
  | zero => rfl
  | succ width hypothesis => simp [hexDigits, hypothesis]

/-- The written form of one code point between the given quotes. -/
def escape (quote : Char) (point : Nat) : List Char :=
  let character := Char.ofNat point
  if character = quote ∨ character = '\\' then ['\\', character]
  else if character = '\t' then ['\\', 't']
  else if character = '\n' then ['\\', 'n']
  else if character = '\r' then ['\\', 'r']
  else if !isHalf point && isPrintable character then [character]
  else if point ≤ 0xff then '\\' :: 'x' :: hexDigits 2 point
  else if point ≤ 0xffff then '\\' :: 'u' :: hexDigits 4 point
  else '\\' :: 'U' :: hexDigits 8 point

/-- The quote that a text is shown in. -/
def quoteFor (characters : List Char) : Char :=
  if '\'' ∈ characters ∧ '"' ∉ characters then '"' else '\''

/-- A text between quotes, with escapes. -/
def quoted (text : String) : String :=
  let quote := quoteFor text.toList
  let points := points text.toList
  String.ofList (quote :: (points.flatMap (escape quote) ++ [quote]))

/-- The written form of one octet between the given quotes. -/
def escapeOctet (quote : Char) (octet : UInt8) : List Char :=
  let point := octet.toNat
  if point < 0x7f then escape quote point
  else '\\' :: 'x' :: hexDigits 2 point

/-- Octets between quotes, with escapes. -/
def quotedOctets (octets : List UInt8) : String :=
  let quote := quoteFor (octets.map fun octet => Char.ofNat octet.toNat)
  String.ofList
    ('b' :: quote :: (octets.flatMap (escapeOctet quote) ++ [quote]))

end Text
end MelodyAutomation

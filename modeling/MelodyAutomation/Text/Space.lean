/-!
# White space

The characters that count as white space at the ends of a descriptor: the ASCII
blanks and the four information separators, the next-line control, and the
Unicode space, line and paragraph separators. At the ends of a number the
information separators do not count.
-/

namespace MelodyAutomation
namespace Text

/-- Whether a character is white space. -/
def isSpace (character : Char) : Bool :=
  let point := character.toNat
  (0x09 ≤ point && point ≤ 0x0d) || (0x1c ≤ point && point ≤ 0x20) ||
    point == 0x85 || point == 0xa0 || point == 0x1680 ||
    (0x2000 ≤ point && point ≤ 0x200a) || point == 0x2028 ||
    point == 0x2029 || point == 0x202f || point == 0x205f || point == 0x3000

/-- Whether a character is one of the four information separators. -/
def isInformationSeparator (character : Char) : Bool :=
  0x1c ≤ character.toNat && character.toNat ≤ 0x1f

/-- Whether a character is ignored at the ends of a number. -/
def isNumeralSpace (character : Char) : Bool :=
  isSpace character && !isInformationSeparator character

/-- Drop the characters of some kind at both ends. -/
def trim (kind : Char → Bool) (characters : List Char) : List Char :=
  ((characters.dropWhile kind).reverse.dropWhile kind).reverse

@[simp] theorem trim_nil (kind : Char → Bool) : trim kind [] = [] := rfl

/-- Drop white space at both ends. -/
def strip (characters : List Char) : List Char := trim isSpace characters

@[simp] theorem strip_nil : strip [] = [] := rfl

end Text
end MelodyAutomation

/-!
# Decimal digits

The decimal digits of Unicode (general category `Nd`, version 14.0) come in
runs of ten consecutive code points, from zero to nine. A run is stored by the
code point of its zero.
-/

namespace MelodyAutomation
namespace Text

/-- The code points of the digits zero, one for every run of ten digits. -/
def digitZeros : List Nat := [
  0x30, 0x660, 0x6f0, 0x7c0, 0x966, 0x9e6, 0xa66, 0xae6, 0xb66, 0xbe6, 0xc66,
  0xce6, 0xd66, 0xde6, 0xe50, 0xed0, 0xf20, 0x1040, 0x1090, 0x17e0, 0x1810,
  0x1946, 0x19d0, 0x1a80, 0x1a90, 0x1b50, 0x1bb0, 0x1c40, 0x1c50, 0xa620,
  0xa8d0, 0xa900, 0xa9d0, 0xa9f0, 0xaa50, 0xabf0, 0xff10, 0x104a0, 0x10d30,
  0x11066, 0x110f0, 0x11136, 0x111d0, 0x112f0, 0x11450, 0x114d0, 0x11650,
  0x116c0, 0x11730, 0x118e0, 0x11950, 0x11c50, 0x11d50, 0x11da0, 0x16a60,
  0x16ac0, 0x16b50, 0x1d7ce, 0x1d7d8, 0x1d7e2, 0x1d7ec, 0x1d7f6, 0x1e140,
  0x1e2f0, 0x1e950, 0x1fbf0]

/-- The value of a decimal digit, or nothing for any other character. -/
def digitValue? (character : Char) : Option Nat :=
  let point := character.toNat
  if point < 0x80 then
    if 0x30 ≤ point ∧ point ≤ 0x39 then some (point - 0x30) else none
  else
    (digitZeros.find? fun start => start ≤ point && point < start + 10).map
      fun start => point - start

/-- Whether a character is a decimal digit of some script. -/
def isDigit (character : Char) : Bool := (digitValue? character).isSome

/-- A digit's value is a single decimal place. -/
theorem digitValue?_lt_ten
    {character : Char}
    {value : Nat}
    (found : digitValue? character = some value) :
    value < 10 := by
  unfold digitValue? at found
  simp only at found
  split at found
  · split at found
    · simp only [Option.some.injEq] at found
      omega
    · simp at found
  · simp only [Option.map_eq_some_iff] at found
    obtain ⟨start, located, rfl⟩ := found
    have inRun := List.find?_some located
    simp only [Bool.and_eq_true, decide_eq_true_eq] at inRun
    omega

end Text
end MelodyAutomation

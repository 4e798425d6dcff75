import MelodyAutomation.Document.Fault

/-!
# Written octets

Octets are written six bits at a time: every letter, digit, plus sign and slash
is a number below sixty-four, and four of them are three octets. Equals signs
fill up the last group of four. All other characters are passed over, and so is
everything after a group that was filled up. A group that is neither complete
nor filled up is a fault.
-/

namespace MelodyAutomation
namespace Document

/-- The six bits that a character stands for. -/
def sixBits? (character : Char) : Option Nat :=
  if 'A' ≤ character ∧ character ≤ 'Z' then
    some (character.toNat - 'A'.toNat)
  else if 'a' ≤ character ∧ character ≤ 'z' then
    some (character.toNat - 'a'.toNat + 26)
  else if '0' ≤ character ∧ character ≤ '9' then
    some (character.toNat - '0'.toNat + 52)
  else if character = '+' then some 62
  else if character = '/' then some 63
  else none

/-- The octets of the characters from some place in a group of four, with the bits
held over from the characters before it and the number of equals signs that were
seen since the last of these. -/
def octetsFrom (place held filled : Nat) :
    List Char → Except Fault (List UInt8)
  | [] => if place = 0 then .ok [] else .error .malformedOctets
  | character :: rest =>
      if character = '=' then
        if place < 2 then octetsFrom place held filled rest
        else if place + filled = 2 then octetsFrom place held 1 rest
        else .ok []
      else
        match sixBits? character with
        | none => octetsFrom place held filled rest
        | some bits =>
            if place = 0 then octetsFrom 1 bits 0 rest
            else do
              let joined := held * 64 + bits
              let unit := Nat.pow 4 (3 - place)
              let others ← octetsFrom ((place + 1) % 4) (joined % unit) 0 rest
              .ok ((joined / unit).toUInt8 :: others)

/-- The octets that a text stands for, which has to be in ASCII. -/
def octets (characters : List Char) : Except Fault (List UInt8) :=
  if characters.all fun character => character.toNat < 128 then
    octetsFrom 0 0 0 characters
  else .error .malformedOctets

end Document
end MelodyAutomation

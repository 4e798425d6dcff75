import MelodyAutomation.Value.Equality

/-!
# Listing the members of a set

A set keeps its members in numbered slots and lists them from the first slot on.
Numbers choose their slots by their residue modulo a prime, so that equal numbers
choose the same slot, whether they are whole or not. A number whose slot is taken
goes to a free one near it, or else to a slot further on. A copy of a set has slots
of its own and may list the same members in another order. A set that has anything
but numbers lists its members in the order in which they were first mentioned.
-/

namespace MelodyAutomation
namespace Value

/-- The prime modulo which residues are taken. Twice the sixtieth power of two is
one more than it, so halves have residues like whole numbers. -/
def residuePrime : Nat := Nat.pow 2 61 - 1

/-- A signed residue as an unsigned word. Minus one is taken for minus two. -/
def residueWord (residue : Int) : Nat :=
  ((if residue = -1 then -2 else residue) % (Nat.pow 2 64 : Int)).toNat

/-- The residue of a rational number whose denominator is a power of two. -/
def residueOfRat? (number : Rat) : Option Nat :=
  let halvings := Nat.log2 number.den
  if Nat.pow 2 halvings = number.den then
    let size := number.num.natAbs * Nat.pow 2 (60 * halvings % 61) % residuePrime
    some (residueWord (if number.num < 0 then -size else size))
  else none

/-- The residue that stands for an infinity. -/
def infiniteResidue : Nat := 314159

/-- The residue of what a number stands for. -/
def residueOfReading? : Reading → Option Nat
  | .finite number => residueOfRat? number
  | .infinite negative =>
      let size : Int := infiniteResidue
      some (residueWord (if negative then -size else size))
  | .undefined => none

/-- The number of slots for a number of members: a power of two, and more than
twice as many as there are members, unless the members are few. -/
def slotCount (members : Nat) : Nat :=
  if members ≤ 4 then 8 else Nat.pow 2 (Nat.log2 (2 * members) + 1)

/-- How many slots are near another one. -/
def neighbours : Nat := 9

/-- The first free slot for a residue, from a slot on. -/
def freeSlot (slots : Nat) (taken : List Nat) : Nat → Nat → Nat → Nat
  | 0, slot, _ => slot
  | fuel + 1, slot, residue =>
      let near := if slot + neighbours < slots then neighbours + 1 else 1
      match (List.range' slot near).find? fun place => !taken.contains place with
      | some free => free
      | none =>
          let left := residue / 32
          freeSlot slots taken fuel ((slot * 5 + 1 + left) % slots) left

/-- Members in numbered slots, each with its slot and its residue. -/
structure Slots (α : Type) where
  count : Nat
  taken : List (Nat × Nat × α)

namespace Slots

variable {α : Type}

/-- Put a member with its residue into the slot that it chooses. -/
def insert (table : Slots α) (member : Nat × α) : Slots α :=
  let slot := freeSlot table.count (table.taken.map Prod.fst)
    (2 * table.count + 16) (member.1 % table.count) member.1
  { table with taken := (slot, member) :: table.taken }

/-- The members with their residues, from the first slot on. -/
def toList (table : Slots α) : List (Nat × α) :=
  (table.taken.mergeSort fun left right => left.1 ≤ right.1).map Prod.snd

/-- Members put one after another into a number of slots. -/
def ofList (count : Nat) (members : List (Nat × α)) : Slots α :=
  members.foldl insert ⟨count, []⟩

/-- The least number of slots there is. -/
def leastCount : Nat := 8

/-- The number of slots to which a number of members is moved when there are too
many of them: a power of two, and more than four times as many, or more than twice
as many if there are very many. -/
def roomyCount (members : Nat) : Nat :=
  let wanted := if 50000 < members then 2 * members else 4 * members
  max leastCount (Nat.pow 2 (Nat.log2 wanted + 1))

/-- Put a member into the slot that it chooses, and all members into more slots when
three fifths of them are taken. -/
def add (table : Slots α) (member : Nat × α) : Slots α :=
  let next := table.insert member
  let members := next.taken.length
  if members * 5 < (next.count - 1) * 3 then next
  else ofList (roomyCount members) next.toList

@[simp] theorem toList_ofList_nil (count : Nat) :
    (ofList count ([] : List (Nat × α))).toList = [] := by
  simp [ofList, toList]

end Slots

variable {R : Type} [Scalar R]

/-- The members of a set with their residues, if all of them are numbers. -/
def withResidues? (members : List (Value R)) :
    Option (List (Nat × Value R)) :=
  members.mapM fun member => do
    let residue ← member.reading?.bind residueOfReading?
    pure (residue, member)

/-- The members of a set in the order in which it lists them, given the order in
which they were first mentioned. Room is made for all of them at once. -/
def listed (members : List (Value R)) : List (Value R) :=
  match withResidues? members with
  | none => members
  | some numbers =>
      (Slots.ofList (slotCount members.length) numbers).toList.map Prod.snd

@[simp] theorem listed_nil : listed ([] : List (Value R)) = [] := by
  simp [listed, withResidues?]

/-- The members of a copy of a set in the order in which it lists them, given the
order in which the set does. They are added one after another. -/
def relisted (members : List (Value R)) : List (Value R) :=
  match withResidues? members with
  | none => members
  | some numbers =>
      (numbers.foldl Slots.add ⟨Slots.leastCount, []⟩).toList.map Prod.snd

mutual

/-- A copy of a value, in which every set lists its members afresh. -/
def copied : Value R → Value R
  | list items => list (copiedItems items)
  | tuple items => tuple (copiedItems items)
  | set members => set (relisted members)
  | map entries => map (copiedEntries entries)
  | record kind fields => record kind (copiedItems fields)
  | circular label collection => circular label fun _ => (collection ()).copied
  | other => other

/-- Copies of the items of a list. -/
def copiedItems : List (Value R) → List (Value R)
  | [] => []
  | item :: rest => item.copied :: copiedItems rest

/-- Copies of the entries of a map. -/
def copiedEntries : Entries R → Entries R
  | [] => []
  | (key, value) :: rest => (key.copied, value.copied) :: copiedEntries rest

end

end Value
end MelodyAutomation

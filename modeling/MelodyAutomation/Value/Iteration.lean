import MelodyAutomation.Failure

/-!
# Literals as sequences and maps

A list or tuple is the sequence of its items, a map the sequence of its keys, a
text the sequence of its code points and a string of octets the sequence of their
numbers. Anything else is no sequence. A collection that contains itself is
looked into like any other.
-/

namespace MelodyAutomation
namespace Value

variable {R : Type}

/-- The items of a literal read as a sequence. -/
def toItems (value : Value R) : Attempt R (List (Value R)) :=
  match value.exposed with
  | list items => .ok items
  | tuple items => .ok items
  | set members => .ok members
  | map entries => .ok (entries.map Prod.fst)
  | text content =>
      .ok ((Text.pieces content).map text)
  | bytes octets => .ok (octets.map fun octet => int octet.toNat)
  | _ => .error .illTyped

@[simp] theorem toItems_list (items : List (Value R)) :
    (list items).toItems = .ok items := rfl

@[simp] theorem toItems_tuple (items : List (Value R)) :
    (tuple items).toItems = .ok items := rfl

/-- The two items of a literal that must be a sequence of two. -/
def toPair (value : Value R) : Attempt R (Value R × Value R) := do
  match ← value.toItems with
  | [first, second] => .ok (first, second)
  | _ => .error .malformed

/-- The entries of a literal that is asked for them; only a map has any. -/
def toEntries (value : Value R) : Attempt R (Entries R) :=
  match value.exposed with
  | map entries => .ok entries
  | _ => .error .notUnderstood

@[simp] theorem toEntries_map (entries : Entries R) :
    (map entries).toEntries = .ok entries := rfl

/-- The entries of a literal that is spread into another map. -/
def toSpread (value : Value R) : Attempt R (Entries R) :=
  match value.exposed with
  | map entries => .ok entries
  | _ => .error .illTyped

@[simp] theorem toSpread_map (entries : Entries R) :
    (map entries).toSpread = .ok entries := rfl

end Value
end MelodyAutomation

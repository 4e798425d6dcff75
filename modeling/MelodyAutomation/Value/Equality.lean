import MelodyAutomation.Scalar
import MelodyAutomation.Value

/-!
# Equality and keys

Two values are the same when they stand for the same thing: whole numbers,
scalars and truth values are compared as numbers, lists and tuples item by
item, sets and maps without regard to order, records by kind and fields, and
moments by what they are on the zero meridian. A scalar that is no number is not
even the same as itself. Maps are searched and extended by this equality.
-/

namespace MelodyAutomation
namespace Value

variable {R : Type} [Scalar R]

/-- What a value stands for as a number, if it is one. -/
def reading? : Value R → Option Reading
  | bool truth => some (.finite (if truth then 1 else 0))
  | int number => some (.finite (number : Rat))
  | real scalar => some (Scalar.reading scalar)
  | _ => none

/-- Whether two values are numbers that compare equal. -/
def sameNumber (left right : Value R) : Bool :=
  match left.reading?, right.reading? with
  | some first, some second => first.compare? second == some .eq
  | _, _ => false

mutual

/-- Whether two values stand for the same thing. -/
def same : Value R → Value R → Bool
  | null, null => true
  | text left, text right => left == right
  | bytes left, bytes right => left == right
  | date left, date right => left == right
  | moment left, moment right => left.same right
  | list left, list right => sameItems left right
  | tuple left, tuple right => sameItems left right
  | set left, set right =>
      left.length == right.length && membersWithin left right
  | map left, map right =>
      left.length == right.length && entriesWithin left right
  | record kind left, record other right =>
      kind == other && sameItems left right
  | circular _ _, text _ => false
  | circular _ left, right => same (left ()) right.exposed
  | left, right => sameNumber left right

/-- Whether two lists have the same items in the same order. -/
def sameItems : List (Value R) → List (Value R) → Bool
  | [], [] => true
  | left :: lefts, right :: rights => same left right && sameItems lefts rights
  | _, _ => false

/-- Whether every member of the first set is one of the second. -/
def membersWithin : List (Value R) → List (Value R) → Bool
  | [], _ => true
  | member :: rest, members =>
      (members.any fun other => same member other) && membersWithin rest members

/-- Whether every entry of the first map is one of the second. -/
def entriesWithin : Entries R → Entries R → Bool
  | [], _ => true
  | (key, value) :: rest, entries =>
      (match entries.find? fun entry => same key entry.1 with
        | some entry => same value entry.2
        | none => false) && entriesWithin rest entries

end

end Value

namespace Keyed

variable {R α : Type} [Scalar R]

/-- What is stored under a key. -/
def lookup? (entries : Keyed R α) (key : Value R) : Option α :=
  (List.find? (fun entry => key.same entry.1) entries).map Prod.snd

/-- Store something under a key. A key that is there keeps its place and its
spelling; a new one goes to the end. -/
def insert : Keyed R α → Value R → α → Keyed R α
  | [], key, value => [(key, value)]
  | (own, old) :: rest, key, value =>
      if key.same own then (own, value) :: rest
      else (own, old) :: insert rest key value

@[simp] theorem insert_nil (key : Value R) (value : α) :
    insert [] key value = [(key, value)] := rfl

/-- Store all entries of the second list into the first. -/
def merge (entries additions : Keyed R α) : Keyed R α :=
  additions.foldl (fun merged entry => insert merged entry.1 entry.2) entries

@[simp] theorem merge_nil (entries : Keyed R α) : merge entries [] = entries :=
  rfl

/-- Entries in which a later one replaces an earlier one with the same key. -/
def ofList (entries : List (Value R × α)) : Keyed R α := merge [] entries

end Keyed
end MelodyAutomation

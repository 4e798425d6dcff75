import MelodyAutomation.Calendar
import MelodyAutomation.Machine

/-!
# Values

Compositions, envelopes and settings arrive as untyped literals, and much of
what the library does is to decide what a literal means. A `Value` is such a
literal: a null, a truth value, a number that is either whole or a scalar, a
text, a string of octets, a date or a moment, a list, a tuple, a set, a map with
its entries in order, or a record of one of the library's own kinds.

Whole numbers and scalars are kept apart, because arithmetic on whole numbers
is exact and stays whole. A value can be a key of a map when nothing inside it
can change.

A collection may contain itself. Such a collection is marked by a label and
unrolled on demand: wherever it occurs again inside itself, the mark bears the
same label.
-/

namespace MelodyAutomation

/-- The kinds of record that may occur inside a literal. -/
inductive RecordKind
  | note
  | count
  | counts
  | uniform
  | perElement
  | named
  | damp
  | explicit
  | settings
  | item
  | song
  deriving DecidableEq, Repr

namespace RecordKind

/-- The name under which a kind of record is shown. -/
def name : RecordKind → String
  | note => "NoteEvent"
  | count => "Count"
  | counts => "PerElementCounts"
  | uniform => "Uniform"
  | perElement => "PerElement"
  | named => "Named"
  | damp => "Damp"
  | explicit => "Explicit"
  | settings => "InstrumentConfig"
  | item => "CompositionItem"
  | song => "Song"

/-- The names of a record's fields, in order. -/
def fieldNames : RecordKind → List String
  | note => ["pitch_class", "halfstep_offset", "octave", "duration"]
  | count => ["n"]
  | counts => ["counts"]
  | uniform => ["value"]
  | perElement => ["values"]
  | named => ["name"]
  | damp => ["alpha", "beta"]
  | explicit => ["points"]
  | settings =>
      ["ms_per_beat", "octave", "osc", "filter", "noise", "envelopes", "lfos",
        "master_gain"]
  | item =>
      ["pitch_class", "octave", "halfstep_offset", "duration", "delay", "kind",
        "is_first", "is_last"]
  | song => ["play", "loop"]

/-- Whether records of a kind can be changed after they are made; such records
cannot be keys of a map. -/
def isMutable : RecordKind → Bool
  | settings => true
  | item => true
  | song => true
  | _ => false

end RecordKind

/-- An untyped literal over the scalars `R`. -/
inductive Value (R : Type)
  | null
  | bool (truth : Bool)
  | int (number : Int)
  | real (scalar : R)
  | text (content : String)
  | bytes (octets : List UInt8)
  | date (day : Date)
  | moment (reached : Moment)
  | list (items : List (Value R))
  | tuple (items : List (Value R))
  | set (members : List (Value R))
  | map (entries : List (Value R × Value R))
  | record (kind : RecordKind) (fields : List (Value R))
  /-- A collection that contains itself. -/
  | circular (label : Nat) (collection : Unit → Value R)

/-- Things stored under keys, in order. -/
abbrev Keyed (R α : Type) := List (Value R × α)

/-- The entries of a map, in order. -/
abbrev Entries (R : Type) := Keyed R (Value R)

namespace Value

variable {R : Type}

instance : Inhabited (Value R) := ⟨null⟩

/-- Whether a value is the null. -/
def isNull : Value R → Bool
  | null => true
  | _ => false

@[simp] theorem isNull_null : (null : Value R).isNull = true := rfl

mutual

/-- Turn every record inside a value into a map from its field names. -/
def flatten : Value R → Value R
  | list items => list (flattenItems items)
  | tuple items => tuple (flattenItems items)
  | map entries => map (flattenEntries entries)
  | record kind fields =>
      map ((kind.fieldNames.map text).zip (flattenItems fields))
  | circular label collection =>
      circular label fun _ => (collection ()).flatten
  | other => other

/-- `flatten` on every item of a list. -/
def flattenItems : List (Value R) → List (Value R)
  | [] => []
  | item :: rest => item.flatten :: flattenItems rest

/-- `flatten` on every key and value of a map. -/
def flattenEntries : Entries R → Entries R
  | [] => []
  | (key, value) :: rest => (key.flatten, value.flatten) :: flattenEntries rest

end

theorem flattenItems_eq_map (items : List (Value R)) :
    flattenItems items = items.map flatten := by
  induction items with
  | nil => rfl
  | cons item rest hypothesis => simp [flattenItems, hypothesis]

mutual

/-- Whether a value can be a key: nothing inside it can change. -/
def isHashable : Value R → Bool
  | list _ => false
  | set _ => false
  | map _ => false
  | tuple items => allHashable items
  | circular _ collection => (collection ()).isHashable
  | record kind fields => !kind.isMutable && allHashable fields
  | _ => true

/-- Whether every item of a list can be a key. -/
def allHashable : List (Value R) → Bool
  | [] => true
  | item :: rest => item.isHashable && allHashable rest

end

@[simp] theorem isHashable_text (content : String) :
    (text content : Value R).isHashable = true := by
  simp [isHashable]

mutual

/-- Whether a collection inside a value contains itself. -/
def isCircular : Value R → Bool
  | list items => anyCircular items
  | tuple items => anyCircular items
  | map entries => anyEntryCircular entries
  | record _ fields => anyCircular fields
  | circular _ _ => true
  | _ => false

/-- Whether an item of a list is circular. -/
def anyCircular : List (Value R) → Bool
  | [] => false
  | item :: rest => item.isCircular || anyCircular rest

/-- Whether a key or a value of an entry is circular. -/
def anyEntryCircular : Entries R → Bool
  | [] => false
  | (key, value) :: rest =>
      key.isCircular || value.isCircular || anyEntryCircular rest

end

/-- Whether collections inside collections go no deeper than a number of levels. One
that contains itself goes deeper than any number. -/
def isWithin : Nat → Value R → Bool
  | 0, list _ => false
  | 0, tuple _ => false
  | 0, map _ => false
  | 0, record _ _ => false
  | levels + 1, list items => items.all (isWithin levels)
  | levels + 1, tuple items => items.all (isWithin levels)
  | levels + 1, map entries =>
      entries.all fun entry =>
        isWithin levels entry.1 && isWithin levels entry.2
  | levels + 1, record _ fields => fields.all (isWithin levels)
  | _, circular _ _ => false
  | _, _ => true

/-- Whether a value can be followed to its end. -/
def hasEnd [Machine R] (value : Value R) : Bool :=
  value.isWithin (Machine.limits R).depth

/-- A value without the mark of a collection that contains itself. -/
def exposed : Value R → Value R
  | circular _ collection => collection ()
  | other => other

@[simp] theorem exposed_list (items : List (Value R)) :
    (list items).exposed = list items := rfl

@[simp] theorem exposed_map (entries : Entries R) :
    (map entries).exposed = map entries := rfl

/-- Whether a value is the given text. -/
def isText (value : Value R) (content : String) : Bool :=
  match value with
  | text own => own == content
  | _ => false

@[simp] theorem isText_text (own content : String) :
    (text own : Value R).isText content = (own == content) := rfl

end Value

/-- The value stored under a text. -/
def Entries.get? {R : Type} (entries : Entries R) (key : String) :
    Option (Value R) :=
  (List.find? (fun entry => entry.1.isText key) entries).map Prod.snd

end MelodyAutomation

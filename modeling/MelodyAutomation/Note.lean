import MelodyAutomation.Value.Arithmetic
import MelodyAutomation.Value.Iteration

/-!
# Notes

A note has a pitch class, an offset in halfsteps, an octave and a duration
relative to one beat. A note literal is a map that may use short keys; entries
with a null value are dropped, keys that name no field are ignored, and of two
keys for one field the later wins.
-/

namespace MelodyAutomation

/-- One pitch, or rest, with its duration. The fields hold literals: a field is
only interpreted by the operation that needs it. -/
structure Note (R : Type) where
  pitch : Value R
  offset : Value R
  octave : Value R
  duration : Value R

namespace Note

variable {R : Type}

/-- The field that a key of a note literal names: short keys stand for fields. -/
def fieldName : Value R → Value R
  | .text "note" => .text "pitch_class"
  | .text "ht" => .text "halfstep_offset"
  | .text "oct" => .text "octave"
  | key => key

/-- A note as a literal. -/
def toValue (note : Note R) : Value R :=
  .record .note [note.pitch, note.offset, note.octave, note.duration]

/-- The note a literal already is. -/
def ofRecord? : Value R → Option (Note R)
  | .record .note [pitch, offset, octave, duration] =>
      some ⟨pitch, offset, octave, duration⟩
  | _ => none

@[simp] theorem ofRecord?_toValue (note : Note R) :
    ofRecord? note.toValue = some note := rfl

section

variable [Scalar R]

/-- The fields of a note literal: short keys resolved, null values dropped. -/
def resolveFields (entries : Entries R) : Entries R :=
  Keyed.ofList
    ((entries.filter fun entry => !entry.2.isNull).map
      fun entry => (fieldName entry.1, entry.2))

/-- The duration of a note that does not give one. -/
def defaultDuration : Value R := .real Scalar.one

end

variable [Machine R]

/-- The note with a pitch class and the other fields of a literal. The pitch class is
kept as a text, so it has to be one that can be shown. -/
def ofFields (pitch : Value R) (fields : Entries R) : Attempt R (Note R) := do
  let name ← shownText pitch
  .ok
    { pitch := .text name
      offset := (fields.get? "halfstep_offset").getD (.int 0)
      octave := (fields.get? "octave").getD (.int 0)
      duration := (fields.get? "duration").getD defaultDuration }

/-- The note a literal stands for; only the pitch class is required. -/
def ofValue (literal : Value R) : Attempt R (Note R) :=
  match ofRecord? literal with
  | some note => .ok note
  | none => do
      let entries ← literal.toEntries
      let fields := resolveFields entries
      match fields.get? "pitch_class" with
      | some pitch => ofFields pitch fields
      | none => .error (.configuration (.noPitchClass (.map entries)))

@[simp] theorem ofValue_toValue (note : Note R) :
    ofValue note.toValue = .ok note := rfl

/-- The notes a sequence literal stands for. -/
def listOfValue (literal : Value R) : Attempt R (List (Note R)) := do
  let items ← literal.toItems
  items.mapM ofValue

/-- Move a note by a number of halfsteps. -/
def transpose (note : Note R) (shift : Value R) : Attempt R (Note R) := do
  let offset ← note.offset.add shift
  .ok { note with offset }

/-- Scale a note's duration by a factor. -/
def stretch (note : Note R) (factor : Value R) : Attempt R (Note R) := do
  let duration ← note.duration.mul factor
  .ok { note with duration }

end Note
end MelodyAutomation

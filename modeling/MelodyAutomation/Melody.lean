import MelodyAutomation.Logged
import MelodyAutomation.Note
import MelodyAutomation.Shape

/-!
# Melodies

A melody is a sequence of notes with an algebra of operations, each of which
makes a new melody. A misuse — a shape that does not fit, an unknown tuning — is
reported and leaves the melody as it is, unless the melody is strict; then it
is refused. Strictness is inherited by every melody derived from another one.
-/

namespace MelodyAutomation

/-- A sequence of notes, strict or lenient about misuse. -/
structure Melody (R : Type) where
  notes : List (Note R)
  /-- The literal given for strictness; the melody is strict when it counts as
  true. -/
  strict : Value R

namespace Melody

variable {R : Type}

/-- The number of notes. -/
def length (melody : Melody R) : Nat := melody.notes.length

@[simp] theorem length_mk (notes : List (Note R)) (strict : Value R) :
    (Melody.mk notes strict).length = notes.length := rfl

/-- A melody of other notes that is as strict as this one. -/
def withNotes (melody : Melody R) (notes : List (Note R)) : Melody R :=
  { melody with notes }

@[simp] theorem strict_withNotes
    (melody : Melody R)
    (notes : List (Note R)) :
    (melody.withNotes notes).strict = melody.strict := rfl

@[simp] theorem notes_withNotes
    (melody : Melody R)
    (notes : List (Note R)) :
    (melody.withNotes notes).notes = notes := rfl

/-- The one-note melodies that a melody consists of. -/
def parts (melody : Melody R) : List (Melody R) :=
  melody.notes.map fun note => melody.withNotes [note]

/-- Apply a splitter to the one-note parts and join what it returns. -/
def each
    (melody : Melody R)
    (splitter : List (Melody R) → Logged R (List (Melody R))) :
    Logged R (Melody R) := do
  let rearranged ← splitter melody.parts
  pure (melody.withNotes (rearranged.flatMap Melody.notes))

/-- Replace every note by the melody that a mapper returns for it. -/
def map
    (melody : Melody R)
    (mapper : Melody R → Logged R (Melody R)) :
    Logged R (Melody R) :=
  melody.each fun parts => parts.mapM mapper

/-- The tunings of a chord: six halfstep offsets each. -/
def tunings : List (String × List Int) :=
  [("maj", [0, 7, 12, 16, 19, 24]),
    ("min", [0, 7, 12, 15, 19, 24]),
    ("sus2", [0, 7, 12, 14, 19, 24]),
    ("sus4", [0, 7, 12, 17, 19, 24]),
    ("power", [0, 7, 12, 19, 24, 31])]

/-- The offsets of an octave bass that starts two octaves up. -/
def blueMondayOffsets : List Int := [24, 0, 12, 0]

/-- The offsets of an octave bass. -/
def funkyOffsets : List Int := [0, 12, 0, 12]

/-- The offsets of a tuning, if the name is one. -/
def tuning? : Value R → Option (List Int)
  | .text name => tunings.lookup name
  | _ => none

variable [Machine R]

/-- The melody of the notes a sequence literal stands for. -/
def ofValue (literal strict : Value R) : Attempt R (Melody R) := do
  let notes ← Note.listOfValue literal
  .ok ⟨notes, strict⟩

/-- Whether misuse is refused. -/
def isStrict (melody : Melody R) : Bool := melody.strict.isTruthy

/-- Answer a misuse: refuse it if strict, else report it and change nothing. What
cannot be reported is refused in any case. -/
def reject (melody : Melody R) (fault : Misuse R) : Logged R (Melody R) :=
  if melody.isStrict || !fault.isShown then .refuse (.misuse fault)
  else do
    Logged.report (.misused fault)
    pure melody

/-- The sum of all durations, in beats, from left to right. -/
def totalDuration (melody : Melody R) : Attempt R (Value R) :=
  melody.notes.foldlM (fun total note => total.add note.duration) (.int 0)

/-- The factor by which each of a number of copies is shortened. -/
def share (count : Nat) : Attempt R (Value R) := do
  let quotient ← Number.divWhole 1 count
  .ok (.real quotient)

/-- A note shortened to its share of a number of copies. -/
def shorten (count : Nat) (note : Note R) : Attempt R (Note R) := do
  let factor ← share count
  note.stretch factor

/-- All notes, a number of times in a row, shortened to fit if wanted. -/
def repeatWhole (notes : List (Note R)) (times : Nat) (fit : Bool) :
    Attempt R (List (Note R)) := do
  let copies ← Value.repeatItems .outOfMemory notes times
  if fit && 0 < times then copies.mapM (shorten times) else .ok copies

/-- Every note, as often as its count says and shortened to fit; a count of zero
drops the note. -/
def repeatEach : List (Note R) → List Nat → Attempt R (List (Note R))
  | note :: notes, count :: counts =>
      if count = 0 then repeatEach notes counts
      else do
        let copy ← shorten count note
        let copies ← Value.repeatItems .outOfMemory [copy] count
        let rest ← repeatEach notes counts
        .ok (copies ++ rest)
  | _, _ => .ok []

/-- The notes that a decoded repeat shape makes of a list of notes. -/
def repeatNotes (notes : List (Note R)) (fit : Value R) :
    RepeatShape → Attempt R (List (Note R))
  | .count times => repeatWhole notes times fit.isTruthy
  | .perElement counts => repeatEach notes counts

/-- Repeat the melody as a whole, or each of its notes, as a shape says. -/
def repeatBy (melody : Melody R) (shape fit : Value R) : Logged R (Melody R) :=
  match RepeatShape.ofValue shape melody.length with
  | .error fault => melody.reject fault
  | .ok decoded => do
      let notes ← repeatNotes melody.notes fit decoded
      pure (melody.withNotes notes)

/-- Repeat the whole melody without shortening it. -/
def loop (melody : Melody R) (times : Value R) : Logged R (Melody R) :=
  melody.repeatBy times (.bool false)

/-- The values a decoded transform shape gives to a number of notes. -/
def shapeValues (length : Nat) : TransformShape R → List (Value R)
  | .uniform value => List.replicate length value
  | .perElement values => values

/-- Apply a function to every note and its value; the function may return any
note literal. -/
def transformNotes
    (function : Note R → Value R → Attempt R (Value R)) :
    List (Note R) → List (Value R) → Attempt R (List (Note R))
  | note :: notes, value :: values => do
      let literal ← function note value
      let first ← Note.ofValue literal
      let rest ← transformNotes function notes values
      .ok (first :: rest)
  | _, _ => .ok []

/-- Apply a function to every note and the value that a shape gives it. -/
def transform
    (melody : Melody R)
    (shape : Value R)
    (function : Note R → Value R → Attempt R (Value R))
    (label : String) : Logged R (Melody R) :=
  match TransformShape.ofValue shape melody.length label with
  | .error fault => melody.reject fault
  | .ok decoded => do
      let notes ← transformNotes function melody.notes
        (shapeValues melody.length decoded)
      pure (melody.withNotes notes)

/-- Shift notes by halfsteps. -/
def transpose (melody : Melody R) (shape : Value R) : Logged R (Melody R) :=
  melody.transform shape
    (fun note shift => do
      let moved ← note.transpose shift
      .ok moved.toValue)
    "transpose"

/-- Multiply durations. -/
def stretch (melody : Melody R) (shape : Value R) : Logged R (Melody R) :=
  melody.transform shape
    (fun note factor => do
      let stretched ← note.stretch factor
      .ok stretched.toValue)
    "temp"

/-- Loop the melody once per offset, then transpose the looped notes one by one.
The offsets fit only when the melody has a single note. -/
def arpeggioOf (melody : Melody R) (offsets : List (Value R)) :
    Logged R (Melody R) := do
  let looped ← melody.repeatBy (.int offsets.length) (.bool true)
  looped.transpose (.list offsets)

/-- Arpeggiate through the offsets of a sequence literal. -/
def arpeggio (melody : Melody R) (offsets : Value R) :
    Logged R (Melody R) := do
  let items ← offsets.toItems
  melody.arpeggioOf items

/-- Arpeggiate through whole-number offsets. -/
def arpeggioThrough (melody : Melody R) (offsets : List Int) :
    Logged R (Melody R) :=
  melody.arpeggioOf (offsets.map .int)

/-- Arpeggiate through a named tuning. -/
def chord (melody : Melody R) (name : Value R) : Logged R (Melody R) :=
  if name.isHashable then
    match tuning? name with
    | some offsets => melody.arpeggioThrough offsets
    | none => melody.reject (.tuning name)
  else .refuse .illTyped

/-- Whether a duration is longer than a number of notes. -/
def exceeds (duration : Value R) (length : Nat) : Attempt R Bool := do
  let order ← (Value.int length).compareNumbers duration
  .ok (order == some .lt)

/-- Stretch the last note by a duration and shrink the others to compensate. -/
def prolongLast (melody : Melody R) (duration : Value R) :
    Logged R (Melody R) := do
  let length := melody.length
  let tooLong ← if length = 0 then pure true else exceeds duration length
  if tooLong then melody.reject (.prolongation duration length)
  else if length = 1 then melody.stretch (.list [duration])
  else do
    let rest ← (Value.int length).sub duration
    let factor ← rest.div (.int (length - 1))
    melody.stretch
      (.list (List.replicate (length - 1) (.real factor) ++ [duration]))

/-- An octave bass that starts two octaves up. -/
def blueMondayBass (melody : Melody R) : Logged R (Melody R) :=
  melody.arpeggioThrough blueMondayOffsets

/-- An octave bass. -/
def funkyBass (melody : Melody R) : Logged R (Melody R) :=
  melody.arpeggioThrough funkyOffsets

/-- The written form of a melody. -/
def written (melody : Melody R) : String :=
  "Melody(" ++ (Value.list (melody.notes.map Note.toValue)).written ++ ")"

/-- Whether two melodies have the same notes; strictness does not count. -/
def same (left right : Melody R) : Bool :=
  Value.sameItems (left.notes.map Note.toValue) (right.notes.map Note.toValue)

end Melody
end MelodyAutomation

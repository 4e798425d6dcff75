import MelodyAutomation.Proofs.Melody.Mapping
import MelodyAutomation.Proofs.Shape
import MelodyAutomation.Proofs.Value.Copies

/-!
# Transforms of melodies

A transform gives every note its value from a shape and puts what a function makes of
both in the place of the note. When the shape fits, this is one attempt per note. When
it is rejected, the melody is left as it is, and whether that is tolerated is decided by
the number of notes and the strictness alone, which no transform changes.
-/

namespace MelodyAutomation

variable {R : Type} [Machine R]

namespace Melody

/-! ## Note by note -/

/-- What a note becomes when a function is applied to it and a value. -/
def altered
    (function : Note R → Value R → Attempt R (Value R))
    (value : Value R)
    (note : Note R) : Attempt R (Note R) := do
  let literal ← function note value
  Note.ofValue literal

/-- Values are given to the notes in order. -/
theorem transformNotes_eq_mapM
    (function : Note R → Value R → Attempt R (Value R))
    (notes : List (Note R))
    (values : List (Value R)) :
    transformNotes function notes values =
      (notes.zip values).mapM fun entry => altered function entry.2 entry.1 := by
  induction notes generalizing values with
  | nil => rfl
  | cons note notes hypothesis =>
      cases values with
      | nil => rfl
      | cons value values =>
          rw [transformNotes, hypothesis, List.zip_cons_cons, List.mapM_cons, altered,
            bind_assoc]
          rfl

/-- An edit of notes alters a note to what it makes of it. -/
theorem altered_edit
    (edit : Note R → Value R → Attempt R (Note R))
    (value : Value R) :
    altered
        (fun note value => do
          let edited ← edit note value
          .ok edited.toValue)
        value = fun note => edit note value := by
  funext note
  simp only [altered, bind_assoc, Attempt.ok_bind, Note.ofValue_toValue]
  exact bind_pure _

/-- With the same value for every note, the notes are altered one by one. -/
theorem transformNotes_replicate
    (function : Note R → Value R → Attempt R (Value R))
    (value : Value R)
    (notes : List (Note R)) :
    transformNotes function notes (List.replicate notes.length value) =
      notes.mapM (altered function value) := by
  rw [transformNotes_eq_mapM, zip_copies, List.mapM_map]
  rfl

/-- A number is a shape for any melody: every note is altered with it. -/
theorem transform_of_number
    {value : Value R}
    (proper : isProperNumber value = true)
    (function : Note R → Value R → Attempt R (Value R))
    (label : String)
    (melody : Melody R) :
    melody.transform value function label = (do
      let notes ← (melody.notes.mapM (altered function value) : Attempt R _)
      pure (melody.withNotes notes)) := by
  rw [transform, TransformShape.ofValue_of_number proper]
  simp only [shapeValues, length, transformNotes_replicate]

/-! ## Shapes that fit -/

/-- A transform of a shape that fits alters every note with its value. -/
theorem outcome_transform_of_decoded
    {melody made : Melody R}
    {shape : Value R}
    {function : Note R → Value R → Attempt R (Value R)}
    {label : String}
    {decoded : TransformShape R}
    (decodes : TransformShape.ofValue shape melody.length label = .ok decoded) :
    (melody.transform shape function label).outcome = .ok made ↔
      ∃ notes, List.Forall₂
          (fun entry note => altered function entry.2 entry.1 = .ok note)
          (melody.notes.zip (shapeValues melody.length decoded)) notes ∧
        made = melody.withNotes notes := by
  rw [transform, decodes]
  simp only [transformNotes_eq_mapM, Logged.outcome_bind_eq_ok, Logged.outcome_liftM,
    Attempt.mapM_eq_ok, Logged.pure_def, Except.ok.injEq]
  exact exists_congr fun notes => and_congr_right fun _ => eq_comm

/-- A transform that edits notes makes of every note what the edit makes of it. -/
theorem outcome_edit_of_decoded
    {melody made : Melody R}
    {shape : Value R}
    {edit : Note R → Value R → Attempt R (Note R)}
    {label : String}
    {decoded : TransformShape R}
    (decodes : TransformShape.ofValue shape melody.length label = .ok decoded) :
    (melody.transform shape
        (fun note value => do
          let edited ← edit note value
          .ok edited.toValue)
        label).outcome = .ok made ↔
      ∃ notes, List.Forall₂ (fun entry note => edit entry.1 entry.2 = .ok note)
          (melody.notes.zip (shapeValues melody.length decoded)) notes ∧
        made = melody.withNotes notes := by
  rw [outcome_transform_of_decoded decodes]
  simp only [altered_edit]

/-! ## Shapes that are rejected -/

/-- A transform of a shape that is rejected changes nothing. -/
theorem outcome_transform_of_rejected
    {melody made : Melody R}
    {shape : Value R}
    {function : Note R → Value R → Attempt R (Value R)}
    {label : String}
    {fault : Misuse R}
    (rejects : TransformShape.ofValue shape melody.length label = .error fault) :
    (melody.transform shape function label).outcome = .ok made ↔
      (melody.isStrict || !fault.isShown) = false ∧ made = melody := by
  rw [transform, rejects]
  change (melody.reject fault).outcome = .ok made ↔ _
  unfold reject
  split
  next refused => simp [refused, Logged.refuse]
  next tolerated => simp [tolerated, Logged.report, eq_comm]

/-- So a shape that is rejected is rejected by every melody of as many notes that is as
strict. -/
theorem outcome_transform_of_alike
    {melody other made : Melody R}
    {shape : Value R}
    {function : Note R → Value R → Attempt R (Value R)}
    {label : String}
    {fault : Misuse R}
    (rejects : TransformShape.ofValue shape melody.length label = .error fault)
    (outcome : (melody.transform shape function label).outcome = .ok made)
    (asMany : other.length = melody.length)
    (asStrict : other.isStrict = melody.isStrict) :
    (other.transform shape function label).outcome = .ok other := by
  obtain ⟨tolerated, -⟩ := (outcome_transform_of_rejected rejects).1 outcome
  rw [← asMany] at rejects
  rw [← asStrict] at tolerated
  exact (outcome_transform_of_rejected rejects).2 ⟨tolerated, rfl⟩

/-! ## What transforms keep -/

/-- A transform keeps the number of notes. -/
theorem length_of_transform
    {melody made : Melody R}
    {shape : Value R}
    {function : Note R → Value R → Attempt R (Value R)}
    {label : String}
    (outcome : (melody.transform shape function label).outcome = .ok made) :
    made.length = melody.length := by
  cases decodes : TransformShape.ofValue shape melody.length label with
  | error fault =>
      obtain ⟨-, rfl⟩ := (outcome_transform_of_rejected decodes).1 outcome
      rfl
  | ok decoded =>
      obtain ⟨notes, related, rfl⟩ := (outcome_transform_of_decoded decodes).1 outcome
      have values := TransformShape.length_shapeValues decodes
      rw [length, notes_withNotes, ← related.length_eq, List.length_zip, values, length,
        Nat.min_self]

/-- A transform keeps what decides whether another shape fits and whether its misfit is
tolerated. -/
theorem isStrict_of_transform
    {melody made : Melody R}
    {shape : Value R}
    {function : Note R → Value R → Attempt R (Value R)}
    {label : String}
    (outcome : (melody.transform shape function label).outcome = .ok made) :
    made.isStrict = melody.isStrict := by
  have same := (melody.keepsStrictness_transform shape function label).eq_withNotes outcome
  rw [same]
  rfl

end Melody
end MelodyAutomation

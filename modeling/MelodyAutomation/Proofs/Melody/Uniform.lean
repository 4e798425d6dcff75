import MelodyAutomation.Proofs.Melody.Copies
import MelodyAutomation.Proofs.Melody.Transforms

/-!
# Treating all notes alike

What is done alike to all notes of a melody can be said in three ways: with a single
value, with a list that repeats it for every note, or by mapping over the notes. The
three are computed in different ways, but they have the same outcome.

For transposing and stretching, this is so down to the cause of a refusal. Splitting
the notes is looked at for its result alone: one way computes the share of a note
before it makes room for the copies, the other way after it.
-/

namespace MelodyAutomation

variable {R : Type} [Machine R]

namespace Melody

section

variable
  {value : Value R}
  (proper : isProperNumber value = true)
  (function : Note R → Value R → Attempt R (Value R))
  (label : String)
include proper

/-- A list that repeats a number for every note is the same shape as the number. -/
theorem transform_replicate (melody : Melody R) :
    melody.transform (.list (List.replicate melody.length value)) function label =
      melody.transform value function label := by
  have decodes := TransformShape.ofValue_list
    (List.replicate melody.length value) label
  rw [List.length_replicate] at decodes
  rw [transform_of_number proper function, transform, decodes]
  simp only [shapeValues, length, transformNotes_replicate]

/-- To alter the notes with a number is to map over them what alters a note. -/
theorem map_transform (melody : Melody R) :
    (melody.map fun part => part.transform value function label) =
      melody.transform value function label := by
  obtain ⟨notes, strict⟩ := melody
  induction notes with
  | nil =>
      rw [transform_of_number proper function]
      rfl
  | cons note notes hypothesis =>
      rw [map_cons, hypothesis]
      simp only [transform_of_number proper function, List.mapM_cons, List.mapM_nil]
      -- Both ways alter the first note before the other ones.
      cases altered function value note with
      | error failure => rfl
      | ok first => cases notes.mapM (altered function value) <;> rfl

end

/-- A single count in a list makes of a melody what it makes of each of its notes. -/
theorem repeatBy_singleton_eq_ok
    {melody made : Melody R}
    (some : melody.notes ≠ [])
    {literal : Value R}
    {times : Nat}
    (counts : count? literal = Option.some times)
    (fit : Value R) :
    (melody.repeatBy (.list [literal]) fit).outcome = .ok made ↔
      (melody.map fun part => part.repeatBy literal (.bool true)).outcome =
        .ok made := by
  have positive : 0 < melody.length := List.length_pos_of_ne_nil some
  have ofPart (note : Note R) (result : Melody R) :
      ((melody.withNotes [note]).repeatBy literal (.bool true)).outcome =
          .ok result ↔
        ∃ group, repeatWhole [note] times true = .ok group ∧
          result = melody.withNotes group :=
    outcome_repeatBy_eq_ok (RepeatShape.ofValue_of_count counts _)
  rw [outcome_repeatBy_eq_ok (RepeatShape.ofValue_singleton counts positive),
    outcome_map_eq_ok]
  have paired := zip_copies melody.notes times
  simp only [repeatNotes, repeatEach_eq_ok, ofPart, length, paired,
    List.forall₂_map_left_iff]
  constructor
  · rintro ⟨_, ⟨groups, rfl, related⟩, rfl⟩
    refine ⟨groups.map melody.withNotes, ?_, ?_⟩
    · rw [List.forall₂_map_right_iff]
      exact related.imp fun note group single => ⟨group, single, rfl⟩
    · simp [List.flatMap_map]
  · rintro ⟨results, related, rfl⟩
    refine ⟨_, ⟨results.map notes, rfl, ?_⟩, ?_⟩
    · rw [List.forall₂_map_right_iff]
      refine related.imp ?_
      rintro note _ ⟨group, single, rfl⟩
      exact single
    · simp [List.flatMap_def]

/-- Ways to treat all notes of a melody alike, which have the same outcome. -/
structure TreatsAlike (melody : Melody R) : Prop where
  /-- A single count in a list splits every note as the count alone does, if there are
  notes. -/
  split : melody.notes ≠ [] → ∀ (count : Value R) (times : Nat),
    count? count = some times → ∀ (fit : Value R) (made : Melody R),
    (melody.repeatBy (.list [count]) fit).outcome = .ok made ↔
      (melody.map fun part => part.repeatBy count (.bool true)).outcome = .ok made
  /-- A number transposes every note, as a list does that repeats it. -/
  transposed : ∀ value : Value R, isProperNumber value = true →
    (melody.map fun part => part.transpose value) = melody.transpose value ∧
      melody.transpose (.list (List.replicate melody.length value)) =
        melody.transpose value
  /-- A number stretches every note, as a list does that repeats it. -/
  stretched : ∀ value : Value R, isProperNumber value = true →
    (melody.map fun part => part.stretch value) = melody.stretch value ∧
      melody.stretch (.list (List.replicate melody.length value)) =
        melody.stretch value

/-- A melody can be treated alike for all notes in all of these ways. -/
theorem treats_alike (melody : Melody R) : melody.TreatsAlike where
  split some _ _ counts fit _ := repeatBy_singleton_eq_ok some counts fit
  transposed _ proper :=
    ⟨map_transform proper _ _ melody, transform_replicate proper _ _ melody⟩
  stretched _ proper :=
    ⟨map_transform proper _ _ melody, transform_replicate proper _ _ melody⟩

theorem treats_alike_of_motif :
    count? (.real 2.0 : Value Float) = some 2 ∧
      ∃ made,
        (motif.map fun part => part.repeatBy (.real 2.0) (.bool true)).outcome =
          .ok made ∧
        (motif.repeatBy (.list [.real 2.0]) (.bool true)).outcome = .ok made := by
  have counts : count? (.real 2.0 : Value Float) = some 2 := by decide +kernel
  obtain ⟨made, mapped⟩ : ∃ made,
      (motif.map fun part => part.repeatBy (.real 2.0) (.bool true)).outcome =
        .ok made :=
    Attempt.exists_of_isOk (by decide +kernel)
  have split := motif.treats_alike.split nofun _ _ counts (.bool true) made
  exact ⟨counts, made, mapped, split.2 mapped⟩

end Melody
end MelodyAutomation

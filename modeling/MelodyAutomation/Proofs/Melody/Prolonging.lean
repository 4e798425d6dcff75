import MelodyAutomation.Proofs.Melody.Time
import MelodyAutomation.Proofs.Melody.Transforms
import Mathlib.Tactic.FieldSimp
import Mathlib.Tactic.Linarith
import Mathlib.Tactic.Ring

/-!
# Prolonging the last note

When the last note of a melody is prolonged, the others are shortened to make up for it.
In the exact reading they are, to the last beat: notes that last a beat each last as long
as before, all together, and none of them is turned around. There is no room for a
duration of more beats than there are notes, and a melody declines to take one.

A whole number of too many digits can be declined, but not told.
-/

namespace MelodyAutomation
namespace Melody

/-- A melody declines to be prolonged. A lenient one stays as it is and gives one
warning; a strict one refuses, and what is met is the misuse. -/
def DeclinesToProlong [Limits] (melody : Melody Rat) (duration : Value Rat) : Prop :=
  if melody.isStrict then
    ∃ failure, melody.prolongLast duration = .refuse failure ∧
      failure.told = .misuse (.prolongation duration melody.length)
  else
    melody.prolongLast duration =
      ⟨.ok melody, [.misused (.prolongation duration melody.length)]⟩

/-- The factor by which the note at an index is stretched when the last of a number of
notes is prolonged. -/
def prolongation (length : Nat) (duration : Rat) (index : Nat) : Rat :=
  if index + 1 = length then duration else (length - duration) / (length - 1)

/-- The factors of all notes. -/
def prolongations (length : Nat) (duration : Rat) : List Rat :=
  (List.range length).map (prolongation length duration)

theorem length_prolongations (length : Nat) (duration : Rat) :
    (prolongations length duration).length = length := by
  simp [prolongations]

/-- All notes but the last have the same factor. -/
theorem prolongations_succ (length : Nat) (duration : Rat) :
    prolongations (length + 1) duration =
      List.replicate length (((length + 1 : Nat) - duration) / ((length + 1 : Nat) - 1)) ++
        [duration] := by
  rw [prolongations, List.range_succ, List.map_append]
  congr 1
  · rw [List.eq_replicate_iff]
    refine ⟨by simp, fun factor member => ?_⟩
    obtain ⟨index, below, rfl⟩ := List.mem_map.1 member
    have inside := List.mem_range.1 below
    exact if_neg (by omega)
  · simp [prolongation]

/-- The factors of two notes or more add up to the number of notes. -/
theorem sum_prolongations {length : Nat} (several : 2 ≤ length) (duration : Rat) :
    (prolongations length duration).sum = length := by
  obtain ⟨others, rfl⟩ : ∃ others, length = others + 1 := ⟨length - 1, by omega⟩
  have nonzero : (others : Rat) ≠ 0 := by
    have positive : others ≠ 0 := by omega
    exact_mod_cast positive
  rw [prolongations_succ, List.sum_append, List.sum_replicate, List.sum_singleton,
    nsmul_eq_mul]
  push_cast
  rw [add_sub_cancel_right]
  field_simp
  ring

/-- No factor is negative, if the duration is not and there is room for it. -/
theorem prolongation_nonneg
    {length : Nat}
    {duration : Rat}
    (positive : 0 ≤ duration)
    (fits : duration ≤ length)
    {index : Nat}
    (inside : index < length) :
    0 ≤ prolongation length duration index := by
  unfold prolongation
  split_ifs
  · exact positive
  · have several : (1 : Rat) ≤ length := by
      have atLeastOne : 1 ≤ length := by omega
      exact_mod_cast atLeastOne
    exact div_nonneg (by linarith) (by linarith)

/-! ## Stretching by known factors -/

/-- A number counts as often as it stands in a list. -/
theorem countsAs_replicate
    {value : Value Rat}
    {factor : Rat}
    (counts : value.CountsAs factor)
    (number : Nat) :
    List.Forall₂ Value.CountsAs (List.replicate number value)
      (List.replicate number factor) := by
  induction number with
  | zero => exact .nil
  | succ number hypothesis => exact .cons counts hypothesis

section

variable [Limits]

/-- A list with a factor for every note stretches the notes one by one, and changes
nothing but their durations. -/
theorem stretch_of_countsAs
    {melody : Melody Rat}
    {durations : List Rat}
    (lasts : List.Forall₂ (fun note duration => note.duration.CountsAs duration)
      melody.notes durations)
    {values : List (Value Rat)}
    {factors : List Rat}
    (counts : List.Forall₂ Value.CountsAs values factors)
    (fits : values.length = melody.length) :
    ∃ notes, melody.stretch (.list values) = pure (melody.withNotes notes) ∧
      List.Forall₂ (fun note made => made = { note with duration := made.duration })
        melody.notes notes ∧
      List.Forall₂ (fun note duration => note.duration.CountsAs duration)
        notes (List.zipWith (· * ·) durations factors) := by
  have decodes := TransformShape.ofValue_list values "temp"
  rw [fits] at decodes
  obtain ⟨notes, strict⟩ := melody
  simp only [stretch, transform, decodes, shapeValues, transformNotes_eq_mapM,
    altered_edit]
  simp only [length_mk] at fits
  -- The notes, their durations, the values and the factors are as many.
  suffices made : ∃ made, (notes.zip values).mapM (fun entry => entry.1.stretch entry.2) =
        .ok made ∧
      List.Forall₂ (fun note made => made = { note with duration := made.duration })
        notes made ∧
      List.Forall₂ (fun note duration => note.duration.CountsAs duration)
        made (List.zipWith (· * ·) durations factors) by
    obtain ⟨made, mapped, kept, last⟩ := made
    exact ⟨made, by rw [mapped]; rfl, kept, last⟩
  clear decodes
  simp only at lasts
  induction lasts generalizing values factors with
  | nil => exact ⟨[], rfl, .nil, .nil⟩
  | @cons note duration notes durations own _ hypothesis =>
      cases counts with
      | nil => cases fits
      | @cons value factor values factors ofValue others =>
          obtain ⟨made, mapped, kept, last⟩ :=
            hypothesis others (Nat.succ.inj fits)
          obtain ⟨product, multiplied, counted⟩ := Value.exists_mul own ofValue
          refine ⟨{ note with duration := product } :: made, ?_, .cons rfl kept,
            .cons counted last⟩
          rw [List.zip_cons_cons, List.mapM_cons, mapped, Note.stretch, multiplied]
          rfl

/-! ## Declining and prolonging -/

/-- A duration exceeds a number of notes if it counts as more. -/
theorem exceeds_of_countsAs
    {value : Value Rat}
    {duration : Rat}
    (counts : value.CountsAs duration)
    (length : Nat) :
    exceeds value length = .ok (decide ((length : Rat) < duration)) := by
  have whole : (Value.int length : Value Rat).CountsAs ((length : Int) : Rat) :=
    ⟨.whole length, rfl, rfl⟩
  rw [exceeds, Value.compareNumbers_of_countsAs whole counts, Attempt.ok_bind,
    Reading.compare?, Int.cast_natCast]
  split_ifs with less same
  · simp [less]
  · simp [less]
  · simp [less]

/-- Without notes, or without room for the duration, it is rejected. -/
theorem prolongLast_of_unfit
    {melody : Melody Rat}
    {value : Value Rat}
    {duration : Rat}
    (counts : value.CountsAs duration)
    (unfit : melody.notes = [] ∨ melody.length < duration) :
    melody.prolongLast value =
      melody.reject (.prolongation value melody.length) := by
  unfold prolongLast
  by_cases empty : melody.length = 0
  · simp [empty]
  · have long : (melody.length : Rat) < duration :=
      unfit.resolve_left fun none => empty (by rw [length, none]; rfl)
    simp [empty, exceeds_of_countsAs counts, long]

/-- A rejection that cannot be told is refused for what keeps it from being told. -/
theorem refuses_of_untold
    {melody : Melody Rat}
    {value : Value Rat}
    {duration : Rat}
    (counts : value.CountsAs duration)
    (unfit : melody.notes = [] ∨ melody.length < duration)
    {obstacle : Value.Obstacle}
    (untold : value.obstacle? = some obstacle) :
    ∃ failure, melody.prolongLast value = .refuse failure ∧
      failure.told = obstacleFailure obstacle := by
  have isShown : (Misuse.prolongation value melody.length).isShown = false := by
    rw [Misuse.isShown, Misuse.obstacle?, untold]
    rfl
  refine ⟨.misuse (.prolongation value melody.length), ?_, ?_⟩
  · rw [prolongLast_of_unfit counts unfit, reject, isShown, Bool.not_false, Bool.or_true]
    rfl
  · simp only [Failure.told, Failure.obstacle?, Misuse.obstacle?, untold]

/-- A rejection that can be told is how a melody declines to be prolonged. -/
theorem declinesToProlong_of_unfit
    {melody : Melody Rat}
    {value : Value Rat}
    {duration : Rat}
    (counts : value.CountsAs duration)
    (unfit : melody.notes = [] ∨ melody.length < duration)
    (shown : value.obstacle? = none) :
    melody.DeclinesToProlong value := by
  have isShown : (Misuse.prolongation value melody.length).isShown = true := by
    rw [Misuse.isShown, Misuse.obstacle?, shown]
    rfl
  unfold DeclinesToProlong
  rw [prolongLast_of_unfit counts unfit, reject, isShown]
  cases melody.isStrict with
  | true => exact ⟨_, rfl, Failure.told_of_no_obstacle shown⟩
  | false => rfl

/-- A melody that is prolonged without a word does not decline to be. -/
theorem not_declinesToProlong_of_made
    {melody made : Melody Rat}
    {value : Value Rat}
    (prolonged : melody.prolongLast value = pure made) :
    ¬ melody.DeclinesToProlong value := by
  intro declined
  unfold DeclinesToProlong at declined
  rw [prolonged] at declined
  split_ifs at declined
  · obtain ⟨failure, refused, -⟩ := declined
    cases refused
  · cases congrArg Logged.notices declined

/-- A melody with notes and with room for the duration is stretched, each of its notes by
its own factor. -/
theorem prolongLast_of_fit
    {melody : Melody Rat}
    {value : Value Rat}
    {duration : Rat}
    (counts : value.CountsAs duration)
    (some : melody.notes ≠ [])
    (fits : duration ≤ melody.length) :
    ∃ values, melody.prolongLast value = melody.stretch (.list values) ∧
      values.length = melody.length ∧
      List.Forall₂ Value.CountsAs values (prolongations melody.length duration) := by
  obtain ⟨others, long⟩ : ∃ others, melody.length = others + 1 :=
    ⟨melody.length - 1, by have := List.length_pos_iff.2 some; unfold length; omega⟩
  have within : exceeds value (others + 1) = .ok false := by
    rw [exceeds_of_countsAs counts, ← long, decide_eq_false (not_lt.2 fits)]
  unfold prolongLast
  simp only [long, Nat.succ_ne_zero, if_false, within, Logged.liftM_ok, pure_bind,
    Bool.false_eq_true, prolongations_succ]
  by_cases single : others = 0
  · subst single
    exact ⟨[value], rfl, rfl, .cons counts .nil⟩
  · have whole (number : Int) : (Value.int number : Value Rat).CountsAs number :=
      ⟨.whole number, rfl, rfl⟩
    have nonzero : ((others + 1 : Nat) : Int) - 1 ≠ 0 := by omega
    obtain ⟨rest, subtracted, ofRest⟩ :=
      Value.exists_sub (whole (others + 1 : Nat)) counts
    have divided := Value.div_of_countsAs ofRest (whole ((others + 1 : Nat) - 1))
      (Int.cast_ne_zero.2 nonzero)
    have several : others + 1 ≠ 1 := by omega
    simp only [several, if_false, subtracted, divided, Logged.liftM_ok, pure_bind,
      Nat.add_sub_cancel]
    refine ⟨_, rfl, by simp, List.rel_append (countsAs_replicate ?_ others)
      (.cons counts .nil)⟩
    rw [Value.countsAs_real]
    push_cast
    rfl

/-! ## Prolonging -/

omit [Limits] in
/-- Factors alone are the durations of notes of a beat each. -/
theorem zipWith_ones
    {durations factors : List Rat}
    (ones : ∀ duration ∈ durations, duration = 1)
    (long : durations.length = factors.length) :
    List.zipWith (· * ·) durations factors = factors := by
  induction durations generalizing factors with
  | nil => exact (List.length_eq_zero_iff.1 long.symm).symm
  | cons duration durations hypothesis =>
      cases factors with
      | nil => cases long
      | cons factor factors =>
          obtain ⟨rfl, rest⟩ := List.forall_mem_cons.1 ones
          rw [List.zipWith_cons_cons, one_mul, hypothesis rest (Nat.succ.inj long)]

/-- The notes of a melody of known durations, if there is room for the duration by which
the last one is prolonged. -/
theorem exists_prolonged
    {melody : Melody Rat}
    {durations : List Rat}
    (lasts : List.Forall₂ (fun note duration => note.duration.CountsAs duration)
      melody.notes durations)
    {value : Value Rat}
    {duration : Rat}
    (counts : value.CountsAs duration)
    (some : melody.notes ≠ [])
    (fits : duration ≤ melody.length) :
    ∃ notes, melody.prolongLast value = pure (melody.withNotes notes) ∧
      List.Forall₂ (fun note made => made = { note with duration := made.duration })
        melody.notes notes ∧
      List.Forall₂ (fun note duration => note.duration.CountsAs duration) notes
        (List.zipWith (· * ·) durations (prolongations melody.length duration)) := by
  obtain ⟨values, stretched, long, factors⟩ := prolongLast_of_fit counts some fits
  rw [stretched]
  exact stretch_of_countsAs lasts factors long

end

/-- No duration is negative after a prolongation, if none was before it. -/
theorem zipWith_prolongations_nonneg
    {durations : List Rat}
    (nonneg : ∀ old ∈ durations, 0 ≤ old)
    {length : Nat}
    {duration : Rat}
    (positive : 0 ≤ duration)
    (fits : duration ≤ length)
    {new : Rat}
    (member : new ∈ List.zipWith (· * ·) durations (prolongations length duration)) :
    0 ≤ new := by
  obtain ⟨index, product⟩ := List.mem_iff_getElem?.1 member
  obtain ⟨old, factor, ofOld, ofFactor, rfl⟩ := List.getElem?_zipWith_eq_some.1 product
  obtain ⟨place, below, rfl⟩ := List.mem_map.1 (List.mem_of_getElem? ofFactor)
  exact mul_nonneg (nonneg old (List.mem_of_getElem? ofOld))
    (prolongation_nonneg positive fits (List.mem_range.1 below))

/-- What becomes of a melody whose last note is prolonged, if the durations of its notes
are known. -/
structure ProlongsLast [Limits] (melody : Melody Rat) (durations : List Rat)
    (value : Value Rat) (duration : Rat) : Prop where
  /-- A duration that can be told is declined if there are no notes or there is no room
  for it, and only then. -/
  declined : value.obstacle? = none →
    (melody.DeclinesToProlong value ↔
      melody.notes = [] ∨ melody.length < duration)
  /-- A duration that cannot be told is refused for that in the same cases. -/
  untold : ∀ obstacle, value.obstacle? = some obstacle →
    melody.notes = [] ∨ melody.length < duration →
    ∃ failure, melody.prolongLast value = .refuse failure ∧
      failure.told = obstacleFailure obstacle
  /-- Otherwise the notes are stretched: the last one by the duration, and every other
  one by its part of what is left. So notes of a beat each last as long as before, and
  no note is turned around. -/
  prolonged : melody.notes ≠ [] → duration ≤ melody.length →
    ∃ notes, melody.prolongLast value = pure (melody.withNotes notes) ∧
      notes.length = melody.length ∧
      (∀ (index : Nat) (note made : Note Rat) (old : Rat),
        melody.notes[index]? = some note → notes[index]? = some made →
        durations[index]? = some old →
        made = { note with duration := made.duration } ∧
          made.duration.CountsAs (old *
            if index + 1 = melody.length then duration
            else (melody.length - duration) / (melody.length - 1))) ∧
      (2 ≤ melody.length → (∀ old ∈ durations, old = 1) →
        (melody.withNotes notes).Lasts melody.length) ∧
      ((∀ old ∈ durations, 0 ≤ old) → 0 ≤ duration →
        ∀ made ∈ notes, ∃ new, made.duration.CountsAs new ∧ 0 ≤ new)

/-- The last note of a melody is prolonged at the expense of the others. -/
theorem prolongs_last
    [Limits]
    {melody : Melody Rat}
    {durations : List Rat}
    (lasts : List.Forall₂ (fun note duration => note.duration.CountsAs duration)
      melody.notes durations)
    {value : Value Rat}
    {duration : Rat}
    (counts : value.CountsAs duration) :
    melody.ProlongsLast durations value duration := by
  refine ⟨fun shown => ⟨fun declined => ?_, fun unfit => ?_⟩,
    fun _ obstacle unfit => refuses_of_untold counts unfit obstacle,
    fun some fits => ?_⟩
  · by_contra fits
    rw [not_or, not_lt] at fits
    obtain ⟨notes, made, -⟩ := exists_prolonged lasts counts fits.1 fits.2
    exact not_declinesToProlong_of_made made declined
  · exact declinesToProlong_of_unfit counts unfit shown
  · obtain ⟨notes, made, kept, last⟩ := exists_prolonged lasts counts some fits
    refine ⟨notes, made, kept.length_eq.symm, ?_, ?_, ?_⟩
    · intro index note made old ofNote ofMade ofOld
      obtain ⟨inside, -⟩ := List.getElem?_eq_some_iff.1 ofNote
      have factor : (prolongations melody.length duration)[index]? =
          Option.some (prolongation melody.length duration index) := by
        simp [prolongations, show index < melody.length from inside]
      obtain ⟨copy, found, changed⟩ := exists_related kept ofNote
      obtain ⟨new, product, counted⟩ := exists_related last ofMade
      rw [List.getElem?_zipWith, ofOld, factor] at product
      obtain rfl := Option.some.inj (found.symm.trans ofMade)
      obtain rfl := Option.some.inj product
      exact ⟨changed, counted⟩
    · intro several ones
      have long : durations.length = (prolongations melody.length duration).length := by
        rw [length_prolongations, ← lasts.length_eq, length]
      rw [zipWith_ones ones long] at last
      exact lasts_of_notesLast ⟨_, last, sum_prolongations several duration⟩
    · intro nonneg positive made member
      obtain ⟨index, ofMade⟩ := List.mem_iff_getElem?.1 member
      obtain ⟨new, product, counted⟩ := exists_related last ofMade
      exact ⟨new, counted, zipWith_prolongations_nonneg nonneg positive fits
        (List.mem_of_getElem? product)⟩

theorem prolongs_last_of_phrase :
    List.Forall₂ (fun note duration => note.duration.CountsAs duration)
        phrase.notes [2, 3 / 4, 1] ∧
      (Value.real (5 / 2) : Value Rat).CountsAs (5 / 2) ∧
      phrase.ProlongsLast [2, 3 / 4, 1] (.real (5 / 2)) (5 / 2) := by
  have lasts : List.Forall₂ (fun note duration => note.duration.CountsAs duration)
      phrase.notes [2, 3 / 4, 1] :=
    .cons ⟨.whole 2, rfl, rfl⟩
      (.cons (Value.countsAs_real.2 rfl) (.cons ⟨.whole 1, rfl, rfl⟩ .nil))
  have counts : (Value.real (5 / 2) : Value Rat).CountsAs (5 / 2) :=
    Value.countsAs_real.2 rfl
  exact ⟨lasts, counts, prolongs_last lasts counts⟩

/-- A single beat. -/
def beat : Melody Rat :=
  ⟨[⟨.text "A", .int 0, .int 0, .int 1⟩], .bool false⟩

/-- A number of more digits than can be told. -/
def immense : Int := Int.ofNat (Nat.pow 16 3600)

/-- A single beat has no room for an immense duration, and yet does not decline it: the
warning cannot be written. -/
theorem immense_duration_is_not_declined :
    (Value.int immense : Value Rat).CountsAs immense ∧
      (beat.length : Rat) < immense ∧
      ¬ beat.DeclinesToProlong (.int immense) ∧
      ∃ failure, beat.prolongLast (.int immense) = .refuse failure ∧
        failure.told = .malformed := by
  have counts : (Value.int immense : Value Rat).CountsAs immense :=
    ⟨.whole immense, rfl, rfl⟩
  have long : (beat.length : Rat) < immense := by
    have whole : (beat.length : Int) < immense := by decide +kernel
    exact_mod_cast whole
  have untold : (Value.int immense : Value Rat).obstacle? = some .tooManyDigits := by
    decide +kernel
  obtain ⟨failure, refused, told⟩ := refuses_of_untold counts (.inr long) untold
  refine ⟨counts, long, fun declined => ?_, failure, refused, told⟩
  change beat.prolongLast (.int immense) = _ at declined
  rw [refused] at declined
  cases congrArg Logged.outcome declined

end Melody
end MelodyAutomation

import MelodyAutomation.Proofs.Schedule.Laying
import MelodyAutomation.Proofs.Value.Flattening

/-!
# Items that are scheduled alike

Items are alike when their octaves, offsets and durations are the same once records are
maps, and everything else that scheduling reads of them is equal. Scheduling cannot
tell alike items apart. A pitch is computed from numbers only; an item whose duration is
a number is laid out as it is; and one whose duration is something else is refused for
the same cause, even if its blocks could be computed.
-/

namespace MelodyAutomation

variable {R α β : Type} [Machine R]

namespace Pitch

/-- Alike octaves and offsets lead to the same distance. -/
theorem distance_alike
    {octave octave' offset offset' : Value R}
    (octaves : Value.Alike octave octave')
    (offsets : Value.Alike offset offset')
    (index : Nat) :
    distance index octave offset = distance index octave' offset' := by
  have shift : (Value.int index).add offset = (Value.int index).add offset' :=
    offsets.add_eq rfl
  rw [distance, distance, shift]
  cases shifted : (Value.int (index : Int) : Value R).add offset' with
  | error failure => rfl
  | ok sum =>
      apply Attempt.Parallel.eq
      apply (octaves.mul (.refl _)).bind
      intro first second alike
      rw [alike.add_eq (Value.number_of_add rfl shifted)]
      exact .refl _

end Pitch

namespace Envelope

/-- A window of an alike length leads to a segment if the window does. -/
theorem segment_alike
    {window : Window R}
    {duration : Value R}
    (durations : Value.Alike window.duration duration)
    (length index : Nat)
    (point : Point R) :
    Attempt.RefusedAlike (segment window length index point)
      (segment { window with duration } length index point) := by
  unfold segment
  apply (Attempt.Parallel.refl _).bind
  rintro ⟨time, level⟩ _ rfl
  apply (Value.Alike.mul (.refl time) durations).bind
  intro ramp ramp' _
  apply (Attempt.Parallel.refl _).bind
  rintro value _ rfl
  exact .ok trivial

theorem segmentsFrom_alike
    {window : Window R}
    {duration : Value R}
    (durations : Value.Alike window.duration duration)
    (length index : Nat)
    (points : List (Point R)) :
    Attempt.RefusedAlike (segmentsFrom window length index points)
      (segmentsFrom { window with duration } length index points) := by
  induction points generalizing index with
  | nil => exact .ok trivial
  | cons point rest hypothesis =>
      apply (segment_alike durations length index point).bind
      intro first second _
      apply (hypothesis (index + 1)).bind
      intro others more _
      exact .ok trivial

end Envelope

/-- Two items are alike when scheduling reads alike literals of them. -/
structure CompositionItem.Alike (left right : CompositionItem R) : Prop where
  pitch : left.pitch = right.pitch
  octave : Value.Alike left.octave right.octave
  offset : Value.Alike left.offset right.offset
  duration : Value.Alike left.duration right.duration
  isFirst : left.isFirst = right.isFirst
  isLast : left.isLast = right.isLast

omit [Machine R] in
/-- Values for every target that are refused alike one by one are refused alike. -/
theorem PerTarget.tabulateM_refusedAlike
    {left : Target → Attempt R α}
    {right : Target → Attempt R β}
    (each : ∀ target, Attempt.RefusedAlike (left target) (right target)) :
    Attempt.RefusedAlike (tabulateM left) (tabulateM right) := by
  unfold tabulateM
  apply (each _).bind
  intro _ _ _
  apply (each _).bind
  intro _ _ _
  apply (each _).bind
  intro _ _ _
  apply (each _).bind
  intro _ _ _
  exact .ok trivial

namespace Scheduler

variable {scheduler : Scheduler R} {left right : CompositionItem R}

theorem itemFrequency?_alike
    (alike : left.Alike right) :
    scheduler.itemFrequency? left = scheduler.itemFrequency? right := by
  apply Attempt.Parallel.eq
  rw [itemFrequency?, itemFrequency?, alike.pitch]
  apply (alike.octave.add (.refl _)).bind
  intro octave octave' octaves
  rw [Pitch.frequency?_congr (Pitch.distance_alike octaves alike.offset)]
  exact .refl _

theorem scale?_alike
    (alike : left.Alike right)
    (frequency : Option (Value R))
    (target : Target) :
    scheduler.scale? left frequency target =
      scheduler.scale? right frequency target := by
  simp only [scale?, restScale?, alike.isFirst]

omit [Machine R] in
/-- The windows of alike items differ in their lengths at most. -/
theorem window_alike
    (alike : left.Alike right)
    (target : Target)
    (cursor : R)
    (scale : Value R) :
    window target right cursor scale =
      { window target left cursor scale with duration := right.duration } := by
  simp [window, alike.isFirst, alike.isLast]

theorem layItem_alike
    (alike : left.Alike right)
    (cursor : R)
    (frequency : Option (Value R)) :
    Attempt.RefusedAlike (scheduler.layItem left cursor frequency)
      (scheduler.layItem right cursor frequency) := by
  apply PerTarget.tabulateM_refusedAlike
  intro target
  rw [scale?_alike alike]
  cases scheduler.scale? right frequency target with
  | none => exact .ok trivial
  | some scale =>
      simp only [lay]
      cases scheduler.envelopes.get target with
      | none => exact .ok trivial
      | some envelope =>
          simp only [window_alike alike]
          apply (Envelope.segmentsFrom_alike alike.duration _ _ _).bind
          intro _ _ _
          exact .ok trivial

/-- Alike items that are as long as a number add the same. -/
theorem layItem_eq_of_number
    (alike : left.Alike right)
    (number : left.duration.number?.isSome)
    (cursor : R)
    (frequency : Option (Value R)) :
    scheduler.layItem left cursor frequency =
      scheduler.layItem right cursor frequency := by
  have windows (target : Target) (scale : Value R) :
      window target left cursor scale = window target right cursor scale := by
    rw [window_alike alike, ← alike.duration.eq_of_number number]
    rfl
  simp only [layItem, lay, scale?_alike alike, windows]

/-- The cursor cannot move by anything but a number. -/
theorem moveCursor_of_no_number
    {duration : Value R}
    (noNumber : duration.number? = none)
    (cursor : R) :
    moveCursor cursor duration = .error .illTyped := by
  simp [moveCursor, Value.toNumber, noNumber]

/-- After an item, scheduling goes on from the same place with the same blocks as
after an alike one. -/
theorem layItem_moveCursor_alike
    (alike : left.Alike right)
    (cursor : R)
    (frequency : Option (Value R))
    (next : PerTarget (List (Block R)) → R → Logged R β) :
    (do
      let blocks ← (scheduler.layItem left cursor frequency : Logged R _)
      let moved ← (moveCursor cursor left.duration : Logged R _)
      next blocks moved) =
    (do
      let blocks ← (scheduler.layItem right cursor frequency : Logged R _)
      let moved ← (moveCursor cursor right.duration : Logged R _)
      next blocks moved) := by
  by_cases number : left.duration.number?.isSome
  · rw [layItem_eq_of_number alike number, alike.duration.eq_of_number number]
  · have noNumber : left.duration.number? = none := by simpa using number
    -- The blocks may differ here, but neither run comes to a schedule of them.
    have neither : right.duration.number? = none :=
      alike.duration.number?_eq ▸ noNumber
    simp only [moveCursor_of_no_number noNumber, moveCursor_of_no_number neither]
    have parallel : Attempt.RefusedAlike
        (scheduler.layItem left cursor frequency)
        (scheduler.layItem right cursor frequency) :=
      layItem_alike alike cursor frequency
    generalize scheduler.layItem left cursor frequency = first at parallel ⊢
    generalize scheduler.layItem right cursor frequency = second at parallel ⊢
    cases parallel <;> rfl

/-- Alike items make the same schedule. -/
theorem layItems_alike
    {lefts rights : List (CompositionItem R)}
    (alike : List.Forall₂ CompositionItem.Alike lefts rights)
    (cursor : R) :
    scheduler.layItems lefts cursor = scheduler.layItems rights cursor := by
  induction alike generalizing cursor with
  | nil => rfl
  | @cons left right lefts rights own rest hypothesis =>
      simp only [layItems, itemFrequency?_alike own, own.pitch, hypothesis,
        layItem_moveCursor_alike own]

/-! ## Flags and lists -/

omit [Machine R] in
theorem flagLast_alike
    {lefts rights : List (CompositionItem R)}
    (alike : List.Forall₂ CompositionItem.Alike lefts rights) :
    List.Forall₂ CompositionItem.Alike (flagLast lefts) (flagLast rights) := by
  induction alike with
  | nil => exact .nil
  | @cons left right lefts rights own rest hypothesis =>
      cases rest with
      | nil => exact .cons { own with isLast := rfl } .nil
      | cons => exact .cons own hypothesis

omit [Machine R] in
/-- Flagging the ends leaves alike items alike. -/
theorem flagEnds_alike
    {lefts rights : List (CompositionItem R)}
    (alike : List.Forall₂ CompositionItem.Alike lefts rights) :
    List.Forall₂ CompositionItem.Alike (flagEnds lefts) (flagEnds rights) := by
  have flagged := flagLast_alike alike
  unfold flagEnds
  generalize flagLast lefts = firsts at flagged
  generalize flagLast rights = seconds at flagged
  cases flagged with
  | nil => exact .nil
  | cons own rest => exact .cons { own with isFirst := rfl } rest

/-- Alike items are scheduled alike. -/
theorem scheduleItems_alike
    {lefts rights : List (CompositionItem R)}
    (alike : List.Forall₂ CompositionItem.Alike lefts rights) :
    scheduler.scheduleItems lefts = scheduler.scheduleItems rights := by
  rw [scheduleItems, scheduleItems, layItems_alike alike, alike.length_eq]

end Scheduler

end MelodyAutomation

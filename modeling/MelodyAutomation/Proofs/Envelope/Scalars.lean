import MelodyAutomation.Proofs.Schedule.Laying
import MelodyAutomation.Proofs.Value.Scalars

/-!
# Envelopes of scalars

A curve whose coordinates are all scalars stays one of scalars when it is laid over a
window: the times and the values of its segments are scalars. So what a schedule holds
besides scalars comes from an envelope that has other coordinates.
-/

namespace MelodyAutomation

variable {R : Type}

namespace Envelope

/-- A point is a pair of scalars. -/
def Point.IsScalar (point : Point R) : Prop :=
  ∃ time value, point = .pair (.real time) (.real value)

end Envelope

/-- All coordinates of an envelope are scalars. -/
def Envelope.IsScalar (envelope : Envelope R) : Prop :=
  ∀ point ∈ envelope.points, point.IsScalar

/-- The times and the value of a segment are scalars. -/
structure Segment.IsScalar (segment : Segment R) : Prop where
  start : ∃ scalar, segment.start = .real scalar
  ramp : ∃ scalar, segment.ramp = .real scalar
  value : ∃ scalar, segment.value = .real scalar

variable [Machine R]

namespace Envelope

/-- The segment of a point of scalars is one of scalars. -/
theorem isScalar_of_segment
    {window : Window R}
    {cursor : R}
    (started : window.start = .real cursor)
    {length index : Nat}
    {point : Point R}
    (scalar : point.IsScalar)
    {result : Segment R}
    (made : segment window length index point = .ok result) :
    result.IsScalar := by
  obtain ⟨time, level, rfl⟩ := scalar
  obtain ⟨_, _, coordinates, starts, ramped, valued⟩ := segment_eq_ok.1 made
  obtain ⟨rfl, rfl⟩ := Prod.mk.inj (Except.ok.inj coordinates)
  have silenced : ∃ own,
      endValue window length index (.real level) = .real own := by
    unfold endValue
    split_ifs <;> exact ⟨_, rfl⟩
  obtain ⟨own, ending⟩ := silenced
  rw [ending] at valued
  exact ⟨⟨cursor, starts.trans started⟩, Value.real_of_mul ramped,
    Value.real_of_mul valued⟩

/-- An envelope of scalars is laid over a window as segments of scalars. -/
theorem isScalar_of_reduce
    {envelope : Envelope R}
    (scalar : envelope.IsScalar)
    {window : Window R}
    {cursor : R}
    (started : window.start = .real cursor)
    {block : Block R}
    (reduced : envelope.reduce window = .ok block) :
    ∀ segment ∈ block, segment.IsScalar := by
  intro result member
  have related := segmentsFrom_eq_ok.1 reduced
  obtain ⟨index, bound, rfl⟩ := List.getElem_of_mem member
  have long : index < (envelope.points.zipIdx 0).length := by
    rw [related.length_eq]
    exact bound
  have made := related.get long bound
  refine isScalar_of_segment started ?_ made
  apply scalar
  simp

end Envelope

namespace Scheduler

variable {scheduler : Scheduler R}

/-- A scheduler whose envelopes are curves of scalars makes blocks of scalars. -/
theorem isScalar_of_layItems
    (scalar : ∀ target envelope,
      scheduler.envelopes.get target = some envelope → envelope.IsScalar)
    {items : List (CompositionItem R)}
    {cursor : R}
    {schedule : Schedule R}
    (ran : (scheduler.layItems items cursor).outcome = .ok schedule)
    (target : Target) :
    ∀ block ∈ schedule.blocks.get target, ∀ segment ∈ block,
      segment.IsScalar := by
  induction items generalizing cursor schedule with
  | nil =>
      obtain rfl := Except.ok.inj ran
      simp [Schedule.empty]
  | cons item rest hypothesis =>
      obtain ⟨frequency, blocks, length, remaining, -, laid, -, followed, rfl⟩ :=
        layItems_cons_eq_ok.1 ran
      intro block member
      simp only [Schedule.prepend, PerTarget.get_tabulate, List.mem_append]
        at member
      rcases member with own | later
      · rcases layItem_get laid target with
          nothing | ⟨envelope, scale, added, present, reduced, single⟩
        · rw [nothing] at own
          cases own
        · rw [single, List.mem_singleton] at own
          subst own
          exact Envelope.isScalar_of_reduce (scalar target envelope present) rfl
            reduced
      · exact hypothesis followed block later

/-- So what a schedule holds is scalars. -/
theorem isScalar_of_schedule
    (scalar : ∀ target envelope,
      scheduler.envelopes.get target = some envelope → envelope.IsScalar)
    {composition : Value R}
    {schedule : Schedule R}
    (scheduled : (scheduler.schedule composition).outcome = .ok schedule)
    (target : Target) :
    ∀ block ∈ schedule.blocks.get target, ∀ segment ∈ block,
      segment.IsScalar := by
  obtain ⟨items, -, ran⟩ := schedule_eq_ok.1 scheduled
  exact isScalar_of_layItems scalar ran target

end Scheduler
end MelodyAutomation

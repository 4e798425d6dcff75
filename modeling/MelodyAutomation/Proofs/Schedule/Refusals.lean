import MelodyAutomation.Proofs.Value.Refusals
import MelodyAutomation.Schedule

/-!
# What compositions are refused for

Scheduling a composition is a computation on literals. It is refused for what is wrong
with the literals, at whatever step, and never because something is missing under a
name.
-/

namespace MelodyAutomation

variable {R : Type}

/-- A value for every target is refused for what its parts are refused for. -/
theorem PerTarget.refusedFor_tabulateM
    {α : Type}
    {causes : Failure R → Prop}
    {function : Target → Attempt R α}
    (each : ∀ target, (function target).RefusedFor causes) :
    (PerTarget.tabulateM function).RefusedFor causes :=
  (each _).bind fun _ _ => (each _).bind fun _ _ => (each _).bind fun _ _ =>
    (each _).bind fun _ _ => trivial

theorem Envelope.refusedFor_coordinates (point : Point R) :
    point.coordinates.RefusedFor Failure.FindsNames := by
  cases point with
  | pair time value => trivial
  | unpaired literal => exact literal.yields_toPair.covered

variable [Machine R]

namespace Pitch

theorem refusedFor_powerOfTwo (exponent : R) :
    (powerOfTwo exponent).RefusedFor Failure.FindsNames := by
  unfold powerOfTwo
  split
  · trivial
  · trivial

theorem refusedFor_distance (index : Nat) (octave offset : Value R) :
    (distance index octave offset).RefusedFor Failure.FindsNames :=
  (Value.refusedFor_add _ _).bind fun _ _ =>
    (Value.refusedFor_mul _ _).bind fun _ _ => Value.refusedFor_add _ _

theorem refusedFor_frequencyAt (halfsteps base : Value R) :
    (frequencyAt halfsteps base).RefusedFor Failure.FindsNames :=
  (Value.refusedFor_div trivial _ _).bind fun _ _ =>
    (refusedFor_powerOfTwo _).bind fun _ _ => Value.refusedFor_mul _ _

theorem refusedFor_frequency (pitch octave offset base : Value R) :
    (frequency? pitch octave offset base).RefusedFor Failure.FindsNames := by
  unfold frequency?
  split_ifs
  · trivial
  · split
    · trivial
    · exact (refusedFor_distance _ _ _).bind fun _ _ =>
        (refusedFor_frequencyAt _ _).bind fun _ _ => trivial
  · trivial

end Pitch

namespace Envelope

theorem refusedFor_segment
    (window : Window R)
    (length index : Nat)
    (point : Point R) :
    (segment window length index point).RefusedFor Failure.FindsNames :=
  (refusedFor_coordinates point).bind fun _ _ =>
    (Value.refusedFor_mul _ _).bind fun _ _ =>
      (Value.refusedFor_mul _ _).bind fun _ _ => trivial

theorem refusedFor_segmentsFrom
    (window : Window R)
    (length index : Nat)
    (points : List (Point R)) :
    (segmentsFrom window length index points).RefusedFor Failure.FindsNames := by
  induction points generalizing index with
  | nil => trivial
  | cons point rest hypothesis =>
      exact (refusedFor_segment window length index point).bind fun _ _ =>
        (hypothesis (index + 1)).bind fun _ _ => trivial

end Envelope

namespace Scheduler

variable (scheduler : Scheduler R)

theorem refusedFor_itemFields (item : Value R) :
    (itemFields item).RefusedFor Failure.FindsNames := by
  unfold itemFields
  split
  · split
    · exact Value.refusedFor_toEntries _
    · trivial
  · exact (Value.refusedFor_toEntries _).bind fun _ _ => trivial

theorem refusedFor_normalizeItem (item : Value R) :
    (scheduler.normalizeItem item).RefusedFor Failure.FindsNames :=
  (refusedFor_itemFields item).bind fun _ _ =>
    (refusedFor_shownText trivial trivial _).bind fun _ _ =>
      (Value.refusedFor_mul _ _).bind fun _ _ =>
        (Value.refusedFor_mul _ _).bind fun _ _ => trivial

theorem refusedFor_normalize (composition : Value R) :
    (scheduler.normalize composition).RefusedFor Failure.FindsNames := by
  refine composition.yields_toItems.covered.bind fun items _ => ?_
  exact (Attempt.yields_mapM fun item _ =>
    scheduler.refusedFor_normalizeItem item).bind fun _ _ => trivial

theorem refusedFor_lay
    (target : Target)
    (item : CompositionItem R)
    (cursor : R)
    (scale : Value R) :
    (scheduler.lay target item cursor scale).RefusedFor Failure.FindsNames := by
  unfold lay
  split
  · trivial
  · exact (Envelope.refusedFor_segmentsFrom _ _ _ _).bind fun _ _ => trivial

theorem refusedFor_layItem
    (item : CompositionItem R)
    (cursor : R)
    (frequency : Option (Value R)) :
    (scheduler.layItem item cursor frequency).RefusedFor Failure.FindsNames := by
  refine PerTarget.refusedFor_tabulateM fun target => ?_
  split
  · exact scheduler.refusedFor_lay _ _ _ _
  · trivial

omit scheduler in
theorem refusedFor_moveCursor (cursor : R) (duration : Value R) :
    (moveCursor cursor duration).RefusedFor Failure.FindsNames :=
  Value.refusedFor_toNumber_bind _ fun number =>
    (number.refusedFor_toScalar trivial).bind fun _ _ => trivial

theorem refusedFor_layItems
    (items : List (CompositionItem R))
    (cursor : R) :
    (scheduler.layItems items cursor).outcome.RefusedFor Failure.FindsNames := by
  induction items generalizing cursor with
  | nil => trivial
  | cons item rest hypothesis =>
      have frequency : (scheduler.itemFrequency? item).RefusedFor
          Failure.FindsNames :=
        (Value.refusedFor_add _ _).bind fun _ _ =>
          Pitch.refusedFor_frequency _ _ _ _
      refine Logged.yields_bind frequency fun frequency _ => ?_
      have laid : (do
          let blocks ← liftM (scheduler.layItem item cursor frequency)
          let moved ← liftM (moveCursor cursor item.duration)
          let schedule ← scheduler.layItems rest moved
          pure (schedule.prepend blocks) :
            Logged R (Schedule R)).outcome.RefusedFor Failure.FindsNames := by
        refine Logged.yields_bind (scheduler.refusedFor_layItem _ _ _)
          fun blocks _ => ?_
        refine Logged.yields_bind (refusedFor_moveCursor _ _) fun moved _ => ?_
        exact Logged.yields_bind (hypothesis moved) fun _ _ => trivial
      simp only
      split
      · exact Logged.yields_bind Logged.yields_report fun _ _ => laid
      · exact laid

/-- A composition is not refused for a name. -/
theorem refusedFor_schedule (composition : Value R) :
    (scheduler.schedule composition).outcome.RefusedFor Failure.FindsNames := by
  refine Logged.yields_bind (scheduler.refusedFor_normalize composition)
    fun items _ => ?_
  refine Logged.yields_bind (scheduler.refusedFor_layItems items _)
    fun schedule _ => ?_
  exact Logged.yields_bind Logged.yields_report fun _ _ => trivial

end Scheduler
end MelodyAutomation

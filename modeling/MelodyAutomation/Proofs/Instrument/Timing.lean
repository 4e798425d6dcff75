import MelodyAutomation.Proofs.Instrument.Automation
import MelodyAutomation.Proofs.Schedule.Reading
import MelodyAutomation.Proofs.Value.Rationals
import Mathlib.Algebra.Order.Ring.Rat
import Mathlib.Tactic.Linarith

/-!
# The times of automation

In the exact reading, automation never goes back in time. If the times of every
envelope rise from zero to one and no item of a composition has a negative length,
then what one schedule writes to a socket is written in the order of time, from the
moment at which the schedule is applied to the moment at which it is over. The
induction over the items carries the cursor: what has been laid before it is over by
then, and what follows starts there.
-/

namespace MelodyAutomation

/-! ## Writes in the order of time -/

/-- A write is granted, and reached at a time. -/
def IsReachedAt (write : Attempt Rat (Event Rat)) (time : Rat) : Prop :=
  ∃ event, write = .ok event ∧ event.time = .real time

/-- Writes are granted, in the order of their times, and within a span of time. -/
def RiseWithin (first last : Rat) (writes : List (Attempt Rat (Event Rat))) :
    Prop :=
  ∃ times : List Rat,
    List.Forall₂ IsReachedAt writes times ∧
    times.Pairwise (· ≤ ·) ∧
    ∀ time ∈ times, first ≤ time ∧ time ≤ last

namespace RiseWithin

theorem nil (first last : Rat) : RiseWithin first last [] :=
  ⟨[], .nil, .nil, by simp⟩

/-- What starts when something else is over can follow it. -/
theorem append
    {first middle last : Rat}
    {before after : List (Attempt Rat (Event Rat))}
    (earlier : RiseWithin first middle before)
    (later : RiseWithin middle last after)
    (starts : first ≤ middle)
    (ends : middle ≤ last) :
    RiseWithin first last (before ++ after) := by
  obtain ⟨times, reached, ordered, bounds⟩ := earlier
  obtain ⟨others, reachedOthers, orderedOthers, boundsOthers⟩ := later
  refine ⟨times ++ others, List.rel_append reached reachedOthers, ?_, ?_⟩
  · refine List.pairwise_append.2 ⟨ordered, orderedOthers, ?_⟩
    intro time member other inside
    exact (bounds time member).2.trans (boundsOthers other inside).1
  · intro time member
    rcases List.mem_append.1 member with early | late
    · exact ⟨(bounds time early).1, (bounds time early).2.trans ends⟩
    · exact ⟨starts.trans (boundsOthers time late).1, (boundsOthers time late).2⟩

theorem isOk
    {first last : Rat}
    {writes : List (Attempt Rat (Event Rat))}
    (rise : RiseWithin first last writes) :
    ∀ write ∈ writes, write.isOk = true := by
  obtain ⟨times, reached, -⟩ := rise
  induction reached with
  | nil => simp
  | cons own rest hypothesis =>
      obtain ⟨event, rfl, -⟩ := own
      intro write member
      rcases List.mem_cons.1 member with rfl | later
      · rfl
      · exact hypothesis write later

/-- The times of events that are all granted. -/
theorem of_map_ok
    {first last : Rat}
    {events : List (Event Rat)}
    (rise : RiseWithin first last (events.map .ok)) :
    ∃ times : List Rat,
      events.map Event.time = times.map .real ∧
      times.Pairwise (· ≤ ·) ∧
      ∀ time ∈ times, first ≤ time ∧ time ≤ last := by
  obtain ⟨times, reached, ordered, bounds⟩ := rise
  refine ⟨times, ?_, ordered, bounds⟩
  rw [List.forall₂_map_left_iff] at reached
  clear ordered bounds
  induction reached with
  | nil => rfl
  | cons own rest hypothesis =>
      obtain ⟨event, same, time⟩ := own
      obtain rfl := Except.ok.inj same
      rw [List.map_cons, List.map_cons, time, hypothesis]

end RiseWithin

/-! ## Envelopes -/

namespace Envelope

/-- The time of a point, as a number. -/
def Point.time (point : Point Rat) : Attempt Rat Rat := do
  let (literal, _) ← point.coordinates
  let number ← literal.toNumber
  number.toScalar

/-- The times of an envelope rise, from zero at the earliest to one at the latest. -/
def IsTimed (envelope : Envelope Rat) : Prop :=
  ∃ times, envelope.points.mapM Point.time = .ok times ∧
    times.Pairwise (· ≤ ·) ∧ ∀ time ∈ times, 0 ≤ time ∧ time ≤ 1

instance (envelope : Envelope Rat) : Decidable envelope.IsTimed :=
  match read : envelope.points.mapM Point.time with
  | .error _ => .isFalse fun ⟨_, same, _⟩ => by rw [read] at same; cases same
  | .ok times =>
      decidable_of_iff (times.Pairwise (· ≤ ·) ∧
          ∀ time ∈ times, 0 ≤ time ∧ time ≤ 1)
        ⟨fun holds => ⟨times, read, holds⟩, fun ⟨_, same, holds⟩ =>
          Except.ok.inj (read.symm.trans same) ▸ holds⟩

/-- A segment starts at a cursor and takes some time to its end. -/
def Spans (cursor : Rat) (segment : Segment Rat) (time : Rat) : Prop :=
  segment.start = .real cursor ∧ segment.ramp.CountsAs time

/-- The segment of a point takes the point's share of the window. -/
theorem spans_segmentsFrom
    [Limits]
    {window : Window Rat}
    {cursor span : Rat}
    (started : window.start = .real cursor)
    (lasts : window.duration.CountsAs span)
    {length index : Nat}
    {points : List (Point Rat)}
    {times : List Rat}
    (placed : List.Forall₂ (fun point time => point.time = .ok time) points times)
    {block : Block Rat}
    (made : segmentsFrom window length index points = .ok block) :
    List.Forall₂ (fun segment time => Spans cursor segment (time * span)) block
      times := by
  induction placed generalizing index block with
  | nil =>
      obtain rfl := Except.ok.inj made
      exact .nil
  | @cons point time rest others own later hypothesis =>
      simp only [segmentsFrom, Attempt.bind_eq_ok, Except.ok.injEq] at made
      obtain ⟨first, ofPoint, remaining, ofRest, rfl⟩ := made
      refine .cons ?_ (hypothesis ofRest)
      simp only [Point.time, Attempt.bind_eq_ok] at own
      obtain ⟨⟨literal, level⟩, coordinates, counts⟩ := own
      obtain ⟨_, _, again, starts, ramped, -⟩ := segment_eq_ok.1 ofPoint
      obtain ⟨rfl, rfl⟩ :=
        Prod.mk.inj (Except.ok.inj (coordinates.symm.trans again))
      obtain ⟨ramp, multiplied, ofRamp⟩ := Value.exists_mul counts lasts
      obtain rfl := Except.ok.inj (multiplied.symm.trans ramped)
      exact ⟨starts.trans started, ofRamp⟩

end Envelope

/-- A segment that spans some time is set at its start. -/
theorem Segment.setAfter_of_spans
    {cursor time : Rat}
    {segment : Segment Rat}
    (spans : Envelope.Spans cursor segment time)
    (now : Rat) :
    IsReachedAt (segment.setAfter (.real now)) (now + cursor) := by
  refine ⟨.set segment.value (.real (now + cursor)), ?_, rfl⟩
  rw [setAfter, spans.1, Value.real_add_real]
  rfl

/-- A segment that spans some time is ramped until it has passed. -/
theorem Segment.rampAfter_of_spans
    {cursor time : Rat}
    {segment : Segment Rat}
    (spans : Envelope.Spans cursor segment time)
    (now : Rat) :
    IsReachedAt (segment.rampAfter (.real now)) (now + cursor + time) := by
  refine ⟨.ramp (Instrument.rampValue segment.value)
    (.real (now + cursor + time)), ?_, rfl⟩
  have ends : (Value.real (now + cursor)).add segment.ramp =
      .ok (.real (now + cursor + time)) :=
    Value.real_add_eq_ok.2 ⟨time, spans.2.exposed, rfl⟩
  rw [rampAfter, spans.1, Value.real_add_real, Attempt.ok_bind, Scalar.add_rat,
    ends]
  rfl

namespace Envelope

/-- An envelope laid over a window is written within the window. -/
theorem rise_of_reduce
    [Limits]
    {envelope : Envelope Rat}
    (timed : envelope.IsTimed)
    {window : Window Rat}
    {cursor span : Rat}
    (started : window.start = .real cursor)
    (lasts : window.duration.CountsAs span)
    (forward : 0 ≤ span)
    {block : Block Rat}
    (reduced : envelope.reduce window = .ok block)
    (now : Rat) :
    RiseWithin (now + cursor) (now + (cursor + span))
      (Block.eventsAfter (.real now) block) := by
  obtain ⟨times, read, ordered, bounds⟩ := timed
  have spans := spans_segmentsFrom started lasts (Attempt.mapM_eq_ok.1 read) reduced
  cases spans with
  | nil => exact .nil _ _
  | @cons first time rest others own later =>
      have scaled (other : Rat) (member : other ∈ time :: others) :
          0 ≤ other * span ∧ other * span ≤ span := by
        obtain ⟨least, greatest⟩ := bounds other member
        exact ⟨mul_nonneg least forward, mul_le_of_le_one_left forward greatest⟩
      refine ⟨(now + cursor) ::
        others.map (fun other => now + cursor + other * span), ?_, ?_, ?_⟩
      · refine .cons (Segment.setAfter_of_spans own now) ?_
        rw [List.forall₂_map_left_iff, List.forall₂_map_right_iff]
        exact later.imp fun segment other spans =>
          Segment.rampAfter_of_spans spans now
      · refine List.pairwise_cons.2 ⟨?_, List.pairwise_map.2 ?_⟩
        · intro reached member
          obtain ⟨other, inside, rfl⟩ := List.mem_map.1 member
          exact le_add_of_nonneg_right
            (scaled other (List.mem_cons_of_mem _ inside)).1
        · exact (List.pairwise_cons.1 ordered).2.imp fun before =>
            add_le_add_right (mul_le_mul_of_nonneg_right before forward) _
      · intro reached member
        rcases List.mem_cons.1 member with rfl | inside
        · exact ⟨le_refl _, by linarith⟩
        · obtain ⟨other, known, rfl⟩ := List.mem_map.1 inside
          obtain ⟨least, greatest⟩ :=
            scaled other (List.mem_cons_of_mem _ known)
          exact ⟨by linarith, by linarith⟩

end Envelope

/-! ## Items -/

namespace Scheduler

variable [Limits]

/-- The beats for which an item lasts: one, unless it says otherwise. -/
def beatsOf (literal : Value Rat) : Attempt Rat Rat := do
  let fields ← itemFields literal
  let number ← ((fields.get? "duration").getD (.int 1)).toNumber
  number.toScalar

/-- No item of a composition lasts for a negative number of beats. -/
def IsForward (composition : Value Rat) : Prop :=
  ∀ literals, composition.toItems = .ok literals →
    ∀ literal ∈ literals, ∀ beats, beatsOf literal = .ok beats → 0 ≤ beats

instance (literal : Value Rat) :
    Decidable (∀ beats, beatsOf literal = .ok beats → 0 ≤ beats) :=
  match _read : beatsOf literal with
  | .error _ => .isTrue nofun
  | .ok own =>
      decidable_of_iff (0 ≤ own)
        ⟨fun holds _ same => Except.ok.inj same ▸ holds, fun all => all own rfl⟩

instance (composition : Value Rat) : Decidable (IsForward composition) :=
  match read : composition.toItems with
  | .error _ => .isTrue fun _ same => by rw [read] at same; cases same
  | .ok literals =>
      decidable_of_iff
        (∀ literal ∈ literals, ∀ beats, beatsOf literal = .ok beats → 0 ≤ beats)
        ⟨fun holds _ same => Except.ok.inj (read.symm.trans same) ▸ holds,
          fun all => all literals read⟩

variable {scheduler : Scheduler Rat}

/-- A scheduler that could be made has a positive tempo. -/
theorem exists_tempo
    {envelopes : PerTarget (Option (Envelope Rat))}
    {msPerBeat baseFrequency baseOctave masterGain : Value Rat}
    (made : make envelopes msPerBeat baseFrequency baseOctave masterGain =
      .ok scheduler) :
    ∃ tempo, scheduler.msPerBeat.CountsAs tempo ∧ 0 < tempo := by
  obtain ⟨refused, compared, made⟩ := Attempt.bind_eq_ok.1 made
  cases refused with
  | true => cases made
  | false =>
      obtain rfl := Except.ok.inj made
      simp only [tempoRefused, Value.compareNumbers, Attempt.bind_eq_ok,
        Except.ok.injEq] at compared
      obtain ⟨order, ⟨number, read, zero, ofZero, compared⟩, kept⟩ := compared
      obtain rfl := Except.ok.inj ofZero
      have reading : ∃ tempo : Rat,
          number.toScalar = .ok tempo ∧ number.reading = .finite tempo := by
        cases number with
        | whole tempo => exact ⟨tempo, rfl, rfl⟩
        | scalar tempo => exact ⟨tempo, rfl, rfl⟩
      obtain ⟨tempo, converted, reads⟩ := reading
      refine ⟨tempo, ⟨number, read, converted⟩, ?_⟩
      rw [Number.compare?, reads] at compared
      by_contra nonpositive
      rcases lt_or_eq_of_le (not_lt.1 nonpositive) with negative | rfl
      · simp [← compared, Reading.compare?, Number.reading, negative] at kept
      · simp [← compared, Reading.compare?, Number.reading] at kept

/-- An item of a normalized composition without negative lengths has none. -/
theorem nonneg_of_normalize
    {tempo : Rat}
    (counts : scheduler.msPerBeat.CountsAs tempo)
    (positive : 0 < tempo)
    {composition : Value Rat}
    (forward : IsForward composition)
    {items : List (CompositionItem Rat)}
    (normalized : scheduler.normalize composition = .ok items)
    {item : CompositionItem Rat}
    (member : item ∈ items)
    {length : Rat}
    (measured : itemLength item = .ok length) :
    0 ≤ length := by
  obtain ⟨literals, plain, read, made, rfl⟩ := normalize_eq_ok.1 normalized
  obtain ⟨index, found⟩ := List.getElem?_of_mem member
  rw [flagEnds_getElem?] at found
  obtain ⟨own, present, rfl⟩ := Option.map_eq_some_iff.1 found
  obtain ⟨literal, inside, normalizes⟩ :=
    Attempt.exists_of_mem_mapM made (List.mem_of_getElem? present)
  simp only [normalizeItem, Attempt.bind_eq_ok, Except.ok.injEq] at normalizes
  obtain ⟨fields, ofFields, _, _, duration, multiplied, _, _, rfl⟩ := normalizes
  obtain ⟨beats, ofBeats, rfl⟩ := Value.exists_factor multiplied counts
    (countsAs_of_itemLength measured)
  have lasts : beatsOf literal = .ok beats := by
    simp only [beatsOf, Attempt.bind_eq_ok]
    exact ⟨fields, ofFields, ofBeats⟩
  exact mul_nonneg (forward literals read literal inside beats lasts) positive.le

/-- What an item adds to a target is written while the item lasts. -/
theorem rise_of_layItem
    (timed : ∀ target envelope,
      scheduler.envelopes.get target = some envelope → envelope.IsTimed)
    {item : CompositionItem Rat}
    {cursor : Rat}
    {frequency : Option (Value Rat)}
    {blocks : PerTarget (List (Block Rat))}
    (laid : scheduler.layItem item cursor frequency = .ok blocks)
    {length : Rat}
    (measured : itemLength item = .ok length)
    (forward : 0 ≤ length)
    (target : Target)
    (now : Rat) :
    RiseWithin (now + cursor) (now + (cursor + length))
      ((blocks.get target).flatMap (Block.eventsAfter (.real now))) := by
  rcases layItem_get laid target with
    nothing | ⟨envelope, scale, block, present, reduced, single⟩
  · rw [nothing]
    exact .nil _ _
  · rw [single, List.flatMap_singleton]
    exact Envelope.rise_of_reduce (timed target envelope present) rfl
      (countsAs_of_itemLength measured) forward reduced now

/-- What items add to a target is written in the order of the items, until the last
of them is over. -/
theorem rise_of_layItems
    (timed : ∀ target envelope,
      scheduler.envelopes.get target = some envelope → envelope.IsTimed)
    {items : List (CompositionItem Rat)}
    (forward : ∀ item ∈ items, ∀ length, itemLength item = .ok length →
      0 ≤ length)
    {cursor : Rat}
    {schedule : Schedule Rat}
    (ran : (scheduler.layItems items cursor).outcome = .ok schedule) :
    cursor ≤ schedule.duration ∧
      ∀ target now, RiseWithin (now + cursor) (now + schedule.duration)
        ((schedule.blocks.get target).flatMap
          (Block.eventsAfter (.real now))) := by
  induction items generalizing cursor schedule with
  | nil =>
      obtain rfl := Except.ok.inj ran
      refine ⟨le_refl _, fun target now => ?_⟩
      simpa [Schedule.empty] using RiseWithin.nil _ _
  | cons item rest hypothesis =>
      obtain ⟨frequency, blocks, length, remaining, -, laid, measured, followed,
        rfl⟩ := layItems_cons_eq_ok.1 ran
      obtain ⟨later, rises⟩ := hypothesis
        (fun other member => forward other (List.mem_cons_of_mem _ member))
        followed
      have long := forward item List.mem_cons_self length measured
      have passes : cursor ≤ cursor + length := le_add_of_nonneg_right long
      refine ⟨passes.trans later, fun target now => ?_⟩
      simp only [Schedule.prepend, PerTarget.get_tabulate, List.flatMap_append]
      exact (rise_of_layItem timed laid measured long target now).append
        (rises target now) (add_le_add_right passes now)
        (add_le_add_right later now)

/-- What a schedule holds for a target is written in the order of time, from a moment
on and until the schedule is over. -/
theorem rise_of_schedule
    {tempo : Rat}
    (counts : scheduler.msPerBeat.CountsAs tempo)
    (positive : 0 < tempo)
    (timed : ∀ target envelope,
      scheduler.envelopes.get target = some envelope → envelope.IsTimed)
    {composition : Value Rat}
    (forward : IsForward composition)
    {schedule : Schedule Rat}
    (scheduled : (scheduler.schedule composition).outcome = .ok schedule)
    (target : Target)
    (now : Rat) :
    RiseWithin now (now + schedule.duration)
      ((schedule.blocks.get target).flatMap (Block.eventsAfter (.real now))) := by
  obtain ⟨items, normalized, ran⟩ := schedule_eq_ok.1 scheduled
  obtain ⟨-, rises⟩ := rise_of_layItems timed
    (fun item member length measured =>
      nonneg_of_normalize counts positive forward normalized member measured) ran
  have start : now + (Scalar.zero : Rat) = now := by
    rw [show (Scalar.zero : Rat) = 0 by rfl, add_zero]
  have rise := rises target now
  rwa [start] at rise

end Scheduler

/-! ## Schedules that are applied -/

/-- Writes that are granted are made by their commands. -/
theorem Stage.writeAll_map_ok (writes : List (Socket × Event Rat)) :
    writeAll (writes.map .ok) = performAll (writes.map .ofWrite) := by
  induction writes with
  | nil => rfl
  | cons write rest hypothesis =>
      change writeAll ([.ok write] ++ rest.map .ok) =
        performAll ([.ofWrite write] ++ rest.map .ofWrite)
      rw [writeAll_append, performAll_append, hypothesis, writeAll_singleton,
        Instrument.liftM_ok_bind]
      simp [performAll]

namespace Instrument

variable {instrument : Instrument Rat} {schedule : Schedule Rat} {now last : Rat}

/-- Where the blocks of every target can be written, the whole schedule can. -/
theorem all_scheduleWrites
    (rises : ∀ target, RiseWithin now last
      ((schedule.blocks.get target).flatMap (Block.eventsAfter (.real now)))) :
    (instrument.scheduleWrites schedule (.real now)).all Except.isOk = true := by
  refine List.all_eq_true.2 fun write member => ?_
  obtain ⟨⟨target, blocks⟩, known, inside⟩ := List.mem_flatMap.1 member
  obtain ⟨own, -, same⟩ := List.mem_map.1 known
  obtain ⟨rfl, rfl⟩ := Prod.mk.inj same
  cases found : instrument.socket? own with
  | none =>
      rw [found] at inside
      cases inside
  | some socket =>
      rw [found] at inside
      obtain ⟨event, granted, rfl⟩ := List.mem_map.1 inside
      have isOk := (rises own).isOk event granted
      cases event with
      | error failure => cases isOk
      | ok event => rfl

/-- What goes to a socket rises if what is scheduled for every target does. -/
theorem exists_times
    (spread : instrument.IsSpread)
    (rises : ∀ target, RiseWithin now last
      ((schedule.blocks.get target).flatMap (Block.eventsAfter (.real now))))
    (socket : Socket) :
    ∃ times : List Rat,
      (eventsAt socket (Attempt.granted
        (instrument.scheduleWrites schedule (.real now)))).map Event.time =
          times.map .real ∧
      times.Pairwise (· ≤ ·) ∧
      ∀ time ∈ times, now ≤ time ∧ time ≤ last := by
  by_cases own : ∃ target, instrument.socket? target = some socket
  · obtain ⟨target, found⟩ := own
    refine RiseWithin.of_map_ok ?_
    rw [map_eventsAt_scheduleWrites spread (all_scheduleWrites rises) found]
    exact rises target
  · refine ⟨[], ?_, .nil, by simp⟩
    rw [eventsAt_eq_nil]
    · rfl
    · rintro write member rfl
      obtain ⟨entry, -, inside⟩ :=
        List.mem_flatMap.1 (Attempt.mem_of_mem_granted member)
      exact own ⟨entry.1, (exists_of_mem_writes inside).1⟩

/-- Applying a schedule gives commands that go forward in time, for every socket,
from the moment of applying it until the schedule is over. On a tape they are the
automation that is added to the socket. -/
theorem automation_goes_forward
    [Limits]
    (spread : instrument.IsSpread)
    {envelopes : PerTarget (Option (Envelope Rat))}
    {msPerBeat baseFrequency baseOctave masterGain : Value Rat}
    (made : Scheduler.make envelopes msPerBeat baseFrequency baseOctave
      masterGain = .ok instrument.scheduler)
    (timed : ∀ target envelope,
      instrument.scheduler.envelopes.get target = some envelope →
        envelope.IsTimed)
    {composition : Value Rat}
    (forward : Scheduler.IsForward composition)
    (scheduled : (instrument.scheduler.schedule composition).outcome =
      .ok schedule)
    (stage : Stage Rat) :
    ∃ writes : List (Socket × Event Rat),
      (instrument.applySchedule schedule).run stage =
        (Stage.performAll (writes.map .ofWrite)).run stage ∧
      (∀ socket, ∃ times : List Rat,
        (eventsAt socket writes).map Event.time = times.map .real ∧
        times.Pairwise (· ≤ ·) ∧
        ∀ time ∈ times,
          stage.nowMs ≤ time ∧ time ≤ stage.nowMs + schedule.duration) ∧
      ∀ life, instrument.Lives life stage → ∀ socket, stage.HasSocket socket →
        ∃ final, (instrument.applySchedule schedule).Reaches stage () final ∧
          final.events socket = stage.events socket ++ eventsAt socket writes := by
  obtain ⟨tempo, counts, positive⟩ := Scheduler.exists_tempo made
  have rises (target : Target) := Scheduler.rise_of_schedule counts positive
    timed forward scheduled target stage.nowMs
  have all : (instrument.scheduleWrites schedule (.real stage.nowMs)).all
      Except.isOk = true :=
    all_scheduleWrites rises
  refine ⟨Attempt.granted (instrument.scheduleWrites schedule (.real stage.nowMs)),
    ?_, exists_times spread rises, fun life lives socket has => ?_⟩
  · rw [applySchedule_eq, Session.run_get_bind, ← Stage.writeAll_map_ok,
      Attempt.map_granted all]
  · obtain ⟨outcome, final⟩ :=
      instrument.run_applySchedule schedule lives.onTape
    obtain ⟨⟨⟩, applied⟩ := Attempt.exists_of_isOk (outcome.trans all)
    refine ⟨_, ⟨applied, rfl⟩, ?_⟩
    rw [final]
    exact events_result lives.holds (.write schedule) has

/-- A noisy voice with curves on both gains, at a brisk tempo. -/
def strummedVoice : Value Rat :=
  .map
    [(.text "ms_per_beat", .int 250),
      (.text "noise", .map [(.text "type", .text "white")]),
      (.text "envelopes", .map
        [(.text "osc.gain", .text "plucked-string"),
          (.text "noise.gain", .text "drum-hihat")])]

/-- A rest and two notes, the first one half as long. -/
def restAndNotes : Value Rat :=
  .list
    [.map [(.text "note", .text "0"), (.text "duration", .int 2)],
      .map [(.text "note", .text "A"), (.text "duration", .real (1 / 2))],
      .map [(.text "note", .text "A")]]

theorem automation_goes_forward_of_rest_and_notes :
    ∃ (instrument : Instrument Rat) (stage : Stage Rat) (schedule : Schedule Rat),
      (make strummedVoice []).Reaches (Stage.openTape 3 .manual true) instrument
        stage ∧
      instrument.IsSpread ∧
      (Scheduler.make instrument.scheduler.envelopes
        instrument.scheduler.msPerBeat instrument.scheduler.baseFrequency
        instrument.scheduler.baseOctave instrument.scheduler.masterGain =
          .ok instrument.scheduler) ∧
      (∀ target envelope,
        instrument.scheduler.envelopes.get target = some envelope →
          envelope.IsTimed) ∧
      Scheduler.IsForward restAndNotes ∧
      (instrument.scheduler.schedule restAndNotes).outcome = .ok schedule ∧
      ∃ writes : List (Socket × Event Rat),
        (instrument.applySchedule schedule).run stage =
          (Stage.performAll (writes.map .ofWrite)).run stage ∧
        (∀ socket, ∃ times : List Rat,
          (eventsAt socket writes).map Event.time = times.map .real ∧
          times.Pairwise (· ≤ ·) ∧
          ∀ time ∈ times,
            stage.nowMs ≤ time ∧ time ≤ stage.nowMs + schedule.duration) ∧
        ∀ life, instrument.Lives life stage →
          ∀ socket, stage.HasSocket socket →
            ∃ final, (instrument.applySchedule schedule).Reaches stage () final ∧
              final.events socket =
                stage.events socket ++ eventsAt socket writes := by
  let built := (make strummedVoice []).run (Stage.openTape 3 .manual true)
  have checks : built.1.outcome.toOption.any (fun instrument =>
      (Scheduler.tempoRefused instrument.scheduler.msPerBeat).toOption ==
          some false &&
        Target.all.all (fun target =>
          (instrument.scheduler.envelopes.get target).all fun envelope =>
            decide envelope.IsTimed) &&
        (instrument.scheduler.schedule restAndNotes).outcome.isOk) = true := by
    decide +kernel
  obtain ⟨instrument, made, checks⟩ := Attempt.exists_of_any checks
  simp only [Bool.and_eq_true, beq_iff_eq, List.all_eq_true] at checks
  obtain ⟨⟨tempo, timed⟩, succeeds⟩ := checks
  obtain ⟨schedule, scheduled⟩ := Attempt.exists_of_isOk succeeds
  have newborn := newborn_of_make ⟨_, rfl⟩
    (⟨made, rfl⟩ : (make strummedVoice []).Reaches _ instrument built.2)
  have remade : Scheduler.make instrument.scheduler.envelopes
      instrument.scheduler.msPerBeat instrument.scheduler.baseFrequency
      instrument.scheduler.baseOctave instrument.scheduler.masterGain =
        .ok instrument.scheduler := by
    unfold Scheduler.make
    cases refused : Scheduler.tempoRefused instrument.scheduler.msPerBeat with
    | error failure =>
        rw [refused] at tempo
        cases tempo
    | ok positive =>
        rw [refused] at tempo
        obtain rfl := Option.some.inj tempo
        rfl
  have rises (target : Target) (envelope : Envelope Rat)
      (present : instrument.scheduler.envelopes.get target = some envelope) :
      envelope.IsTimed := by
    have checked := timed target target.mem_all
    rw [present] at checked
    exact of_decide_eq_true checked
  have forward : Scheduler.IsForward restAndNotes := by decide +kernel
  exact ⟨instrument, built.2, schedule, ⟨made, rfl⟩, newborn.lives.spread, remade,
    rises, forward, scheduled, automation_goes_forward newborn.lives.spread remade
      rises forward scheduled built.2⟩

end Instrument
end MelodyAutomation

import MelodyAutomation.Proofs.Schedule.Reading
import MelodyAutomation.Scalar.Double

/-!
# The reference definition of a schedule

A schedule is described here without a running cursor and without flags. Every
item starts at the sum of the lengths before it; a target with an envelope gets
one block for every item that sounds, and the noise gain one more for a leading
rest; every segment is the product of a point with the item's window and scale,
where the gains are silenced at the outermost points of the composition.

The main result is that every schedule follows this description. It is proved by
an induction over the items with the cursor as the sum of what was scheduled.
-/

namespace MelodyAutomation

variable {R : Type}

namespace Scheduler

/-- What a schedule needs to know of an item of a composition: its duration in
milliseconds, as it is computed and as a scalar, and its frequency, if its pitch class
has one. -/
structure Tone (R : Type) where
  duration : Value R
  length : R
  frequency : Option (Value R)

variable [Machine R]

namespace Tone

/-- Whether a tone is heard: its frequency is known and not zero. -/
def sounds (tone : Tone R) : Bool := tone.frequency.any Value.isTruthy

/-- A tone is what a scheduler plays when something is said: its duration is counted in
the beats of the scheduler, and its octave from the base octave. -/
structure Plays (scheduler : Scheduler R) (wording : Wording R) (tone : Tone R) :
    Prop where
  duration : wording.beats.mul scheduler.msPerBeat = .ok tone.duration
  length : tone.duration.CountsAs tone.length
  frequency : ∃ octave, wording.octave.add scheduler.baseOctave = .ok octave ∧
    Pitch.IsFrequency scheduler.baseFrequency wording.pitch.display octave wording.offset
      tone.frequency

/-- A tone is what a scheduler computes of an item. -/
structure IsOf (scheduler : Scheduler R) (item : CompositionItem R) (tone : Tone R) :
    Prop where
  duration : tone.duration = item.duration
  length : itemLength item = .ok tone.length
  frequency : scheduler.itemFrequency? item = .ok tone.frequency

/-- What is computed of an item is what is said. -/
theorem IsOf.plays
    {scheduler : Scheduler R}
    {item : CompositionItem R}
    {tone : Tone R}
    (isOf : tone.IsOf scheduler item)
    {wording : Wording R}
    (renders : item.Renders scheduler wording) :
    tone.Plays scheduler wording := by
  obtain ⟨octave, raised, found⟩ := Attempt.bind_eq_ok.1 isOf.frequency
  refine ⟨isOf.duration ▸ renders.duration, ?_, octave, renders.octave ▸ raised, ?_⟩
  · exact isOf.duration ▸ countsAs_of_itemLength isOf.length
  · rw [renders.pitch, renders.offset] at found
    exact Pitch.isFrequency_of_frequency? found

end Tone

/-- The time after some tones, from a time on: their lengths are added from left
to right. -/
def timeAfter (time : R) (tones : List (Tone R)) : R :=
  tones.foldl (fun sum tone => Scalar.add sum tone.length) time

/-- The time at which the tone of an index starts. -/
def onset (tones : List (Tone R)) (index : Nat) : R :=
  timeAfter Scalar.zero (tones.take index)

/-- The tones that write a target, with their indices, in playback order: those
that sound, and for the noise gain also a leading rest. -/
def writers (target : Target) (tones : List (Tone R)) : List (Tone R × Nat) :=
  let sounding := tones.zipIdx.filter fun entry => entry.1.sounds
  let leadingRest := (tones.zipIdx.take 1).filter fun entry => !entry.1.sounds
  if target = .noiseGain then leadingRest ++ sounding else sounding

/-- The scale of a tone's block on a target; a rest is scaled to silence. -/
def toneScale (scheduler : Scheduler R) (target : Target) (tone : Tone R) :
    Value R :=
  if tone.sounds then
    match target with
    | .oscillatorFrequency => tone.frequency.getD .null
    | .oscillatorGain => scheduler.masterGain
    | .noiseGain => scheduler.masterGain
    | .filterFrequency => .real Scalar.one
  else .real Scalar.zero

/-- The level of a point before scaling. On the gains, a curve of at least three
points is silent at the first point of the first of `count` tones and at the last
point of the last one. -/
def levelAt (target : Target) (count index points position : Nat)
    (level : Value R) : Value R :=
  if (target = .oscillatorGain ∨ target = .noiseGain) ∧ 3 ≤ points ∧
      (index = 0 ∧ position = 0 ∨
        index + 1 = count ∧ position + 1 = points) then
    .real Scalar.zero
  else level

/-- A segment is the one that the reference definition gives to a point of an
envelope, laid over a tone of a composition. Both come with their indices. -/
def IsSegmentOf (scheduler : Scheduler R) (tones : List (Tone R))
    (target : Target) (envelope : Envelope R) (tone : Tone R × Nat)
    (point : Envelope.Point R × Nat) (segment : Segment R) : Prop :=
  ∃ time level,
    point.1.coordinates = .ok (time, level) ∧
    segment.start = .real (onset tones tone.2) ∧
    time.mul tone.1.duration = .ok segment.ramp ∧
    (levelAt target tones.length tone.2 envelope.length point.2 level).mul
        (scheduler.toneScale target tone.1) =
      .ok segment.value

/-- A schedule is the one that the reference definition gives to some tones. -/
structure Follows (scheduler : Scheduler R) (tones : List (Tone R))
    (schedule : Schedule R) : Prop where
  /-- The schedule lasts as long as all tones together. -/
  duration : schedule.duration = onset tones tones.length
  /-- The targets are the four known ones, in order. -/
  targets : schedule.blocks.entries.map (fun entry => entry.1.name) =
    ["osc.freq", "osc.gain", "noise.gain", "filter.freq"]
  /-- A target without an envelope has no blocks. -/
  unwritten : ∀ target, scheduler.envelopes.get target = none →
    schedule.blocks.get target = []
  /-- A target with an envelope has one block for every tone that writes it, and
  every block one segment for every point. -/
  written : ∀ target envelope,
    scheduler.envelopes.get target = some envelope →
      List.Forall₂
        (fun tone block =>
          List.Forall₂ (scheduler.IsSegmentOf tones target envelope tone)
            envelope.points.zipIdx block)
        (writers target tones) (schedule.blocks.get target)

/-! ## One tone -/

/-- The flags of the ends silence exactly the outermost points. -/
theorem endValue_window
    {item : CompositionItem R}
    {count index : Nat}
    (isFirst : item.isFirst = (index == 0))
    (isLast : item.isLast = (index + 1 == count))
    (target : Target)
    (cursor : R)
    (scale : Value R)
    (points position : Nat)
    (level : Value R) :
    Envelope.endValue (window target item cursor scale) points position level =
      levelAt target count index points position level := by
  unfold Envelope.endValue levelAt window
  by_cases short : points < 3
  · simp [short, Nat.not_le.mpr short]
  · cases target <;>
      simp [zeroes, isFirst, isLast, short, Nat.le_of_not_lt short, ite_or]

/-- A tone has a scale on a target exactly when it writes the target. -/
theorem scale?_tone
    (scheduler : Scheduler R)
    (item : CompositionItem R)
    (tone : Tone R)
    (target : Target) :
    scheduler.scale? item tone.frequency target =
      if tone.sounds ∨ item.isFirst ∧ target = .noiseGain then
        some (scheduler.toneScale target tone)
      else none := by
  unfold scale? toneScale Tone.sounds restScale?
  cases frequency : tone.frequency with
  | none => simp
  | some pitch =>
      cases heard : pitch.isTruthy with
      | true => cases target <;> simp [heard, scale]
      | false => simp [heard]

/-- What a tone of a composition adds to a target that has an envelope. -/
theorem blocks_of_layItem
    {scheduler : Scheduler R}
    {tones : List (Tone R)}
    {item : CompositionItem R}
    {tone : Tone R × Nat}
    {blocks : PerTarget (List (Block R))}
    (isFirst : item.isFirst = (tone.2 == 0))
    (isLast : item.isLast = (tone.2 + 1 == tones.length))
    (duration : tone.1.duration = item.duration)
    (laid : scheduler.layItem item (onset tones tone.2) tone.1.frequency = .ok blocks)
    {target : Target}
    {envelope : Envelope R}
    (present : scheduler.envelopes.get target = some envelope) :
    if tone.1.sounds || (decide (target = .noiseGain) && tone.2 == 0) then
      ∃ block, blocks.get target = [block] ∧
        List.Forall₂ (scheduler.IsSegmentOf tones target envelope tone)
          envelope.points.zipIdx block
    else blocks.get target = [] := by
  have own := layItem_eq_ok.mp laid target
  rw [scale?_tone, isFirst] at own
  by_cases writes : tone.1.sounds ∨ tone.2 = 0 ∧ target = .noiseGain
  · simp only [beq_iff_eq, writes, if_true] at own
    rw [lay_eq_ok, present] at own
    obtain ⟨block, reduced, single⟩ := own
    have segments := Envelope.segmentsFrom_eq_ok.mp reduced
    rw [if_pos (by simpa [and_comm] using writes)]
    refine ⟨block, single, segments.imp ?_⟩
    intro point segment made
    obtain ⟨time, level, coordinates, started, ramped, valued⟩ :=
      Envelope.segment_eq_ok.mp made
    rw [endValue_window isFirst isLast] at valued
    exact ⟨time, level, coordinates, started, duration ▸ ramped, valued⟩
  · simp only [beq_iff_eq, writes, if_false] at own
    rw [if_neg (by simpa [and_comm] using writes)]
    exact own

/-- An item adds nothing to a target that has no envelope. -/
theorem unwritten_of_layItem
    {scheduler : Scheduler R}
    {item : CompositionItem R}
    {cursor : R}
    {frequency : Option (Value R)}
    {blocks : PerTarget (List (Block R))}
    (laid : scheduler.layItem item cursor frequency = .ok blocks)
    {target : Target}
    (absent : scheduler.envelopes.get target = none) :
    blocks.get target = [] := by
  have own := layItem_eq_ok.mp laid target
  cases scales : scheduler.scale? item frequency target with
  | none => rwa [scales] at own
  | some scale =>
      rw [scales] at own
      simpa [absent] using lay_eq_ok.mp own

/-! ## All tones -/

/-- The writers of a target, by a condition on each tone and its index. -/
theorem writers_eq_filter (target : Target) (tones : List (Tone R)) :
    writers target tones =
      tones.zipIdx.filter fun tone =>
        tone.1.sounds || (decide (target = .noiseGain) && tone.2 == 0) := by
  by_cases noise : target = .noiseGain
  · cases tones with
    | nil => simp [writers]
    | cons first rest =>
        -- Only the first tone has index zero.
        have later : (rest.zipIdx 1).filter (fun tone => tone.1.sounds) =
            (rest.zipIdx 1).filter fun tone =>
              tone.1.sounds || tone.2 == 0 := by
          apply List.filter_congr
          rintro ⟨tone, index⟩ member
          have bound := List.le_snd_of_mem_zipIdx member
          have positive : (index == 0) = false := by
            simp only [beq_eq_false_iff_ne]
            omega
          simp [positive]
        cases heard : first.sounds <;> simp [writers, noise, heard, later]
  · simp [writers, noise]

/-- A list of at most one block for every entry is in step with the entries that
have one. -/
theorem forall₂_filter_flatMap {α β γ : Type}
    {entries : List α}
    {laid : List γ}
    (writes : α → Bool)
    {blocks : γ → List β}
    (related : α → β → Prop)
    (each : List.Forall₂
      (fun entry result =>
        if writes entry then
          ∃ block, blocks result = [block] ∧ related entry block
        else blocks result = [])
      entries laid) :
    List.Forall₂ related (entries.filter writes) (laid.flatMap blocks) := by
  induction each with
  | nil => exact .nil
  | @cons entry result others results own later hypothesis =>
      by_cases chosen : writes entry
      · rw [if_pos chosen] at own
        obtain ⟨block, single, holds⟩ := own
        simpa [chosen, single] using ⟨holds, hypothesis⟩
      · rw [if_neg chosen] at own
        simpa [chosen, own] using hypothesis

/-- Scheduling from a cursor on plays a tone for every item, lays each one where the
tones before it end, and joins what they add. -/
theorem exists_tones
    {scheduler : Scheduler R}
    {items : List (CompositionItem R)}
    {cursor : R}
    {schedule : Schedule R}
    (ran : (scheduler.layItems items cursor).outcome = .ok schedule) :
    ∃ (tones : List (Tone R)) (laid : List (PerTarget (List (Block R)))),
      List.Forall₂ (Tone.IsOf scheduler) items tones ∧
      schedule.duration = timeAfter cursor tones ∧
      (∀ target, schedule.blocks.get target =
        laid.flatMap fun blocks => blocks.get target) ∧
      List.Forall₂
        (fun tone blocks => ∃ item, items[tone.2]? = some item ∧
          tone.1.duration = item.duration ∧
          scheduler.layItem item (timeAfter cursor (tones.take tone.2))
            tone.1.frequency = .ok blocks)
        tones.zipIdx laid := by
  induction items generalizing cursor schedule with
  | nil =>
      simp only [layItems, Logged.pure_def, Except.ok.injEq] at ran
      subst ran
      exact ⟨[], [], .nil, rfl, by simp [Schedule.empty], by simp⟩
  | cons item rest hypothesis =>
      obtain ⟨frequency, blocks, length, remaining, found, layed, measured,
        followed, rfl⟩ := layItems_cons_eq_ok.mp ran
      obtain ⟨tones, laid, played, duration, joined, each⟩ := hypothesis followed
      refine ⟨⟨item.duration, length, frequency⟩ :: tones, blocks :: laid,
        .cons ⟨rfl, measured, found⟩ played, ?_, ?_, ?_⟩
      · simpa [Schedule.prepend, timeAfter] using duration
      · intro target
        simp [Schedule.prepend, joined]
      · rw [List.zipIdx_cons]
        refine .cons ⟨item, rfl, rfl, by simpa [timeAfter] using layed⟩ ?_
        rw [List.zipIdx_succ, List.forall₂_map_left_iff]
        exact each

/-- Every item of a normalized composition is what one of the literals says. -/
theorem exists_wordings
    {scheduler : Scheduler R}
    {composition : Value R}
    {items : List (CompositionItem R)}
    (normalized : scheduler.normalize composition = .ok items) :
    ∃ literals, composition.toItems = .ok literals ∧
      List.Forall₂
        (fun literal item => ∃ wording, Conveys literal wording ∧
          item.Renders scheduler wording)
        literals items := by
  obtain ⟨literals, plain, read, made, rfl⟩ := normalize_eq_ok.1 normalized
  have flagged := forall₂_through (Attempt.mapM_eq_ok.1 made) (forall₂_flagEnds plain)
  refine ⟨literals, read, flagged.imp ?_⟩
  rintro literal _ ⟨item, normalizes, _, _, rfl⟩
  obtain ⟨wording, conveys, renders⟩ := exists_wording normalizes
  exact ⟨wording, conveys, renders.pitch, renders.octave, renders.offset, renders.duration⟩

/-- Every schedule of a composition follows the reference definition: there is one tone
for each item of the composition, which plays what the item says, and the blocks are
those that the definition gives to these tones. -/
theorem schedule_follows_reference
    {scheduler : Scheduler R}
    {composition : Value R}
    {schedule : Schedule R}
    (scheduled : (scheduler.schedule composition).outcome = .ok schedule) :
    ∃ literals tones,
      composition.toItems = .ok literals ∧
      List.Forall₂
        (fun literal tone => ∃ wording, Conveys literal wording ∧
          Tone.Plays scheduler wording tone)
        literals tones ∧
      scheduler.Follows tones schedule := by
  simp only [Scheduler.schedule, scheduleItems, Logged.outcome_bind_eq_ok,
    Logged.outcome_liftM, Logged.pure_def, Except.ok.injEq] at scheduled
  obtain ⟨items, normalized, laidOut, ran, _, _, rfl⟩ := scheduled
  obtain ⟨tones, laid, played, duration, joined, each⟩ := exists_tones ran
  have flags (item : CompositionItem R) (index : Nat) (found : items[index]? = some item) :
      item.isFirst = (index == 0) ∧ item.isLast = (index + 1 == tones.length) :=
    played.length_eq ▸ flags_of_normalize normalized index item found
  obtain ⟨literals, read, rendered⟩ := exists_wordings normalized
  refine ⟨literals, tones, read, (forall₂_through rendered played).imp ?_,
    by simpa [onset] using duration, rfl, ?_, ?_⟩
  · rintro literal tone ⟨item, ⟨wording, conveys, renders⟩, isOf⟩
    exact ⟨wording, conveys, isOf.plays renders⟩
  · intro target absent
    have unwritten := forall₂_filter_flatMap (fun _ => false) (fun _ _ => False)
      (each.imp (by
        rintro tone blocks ⟨_, _, _, added⟩
        exact unwritten_of_layItem added absent))
    simpa [joined] using unwritten
  · intro target envelope present
    rw [joined, writers_eq_filter]
    apply forall₂_filter_flatMap
    refine each.imp ?_
    rintro tone blocks ⟨item, found, same, added⟩
    obtain ⟨isFirst, isLast⟩ := flags item tone.2 found
    exact blocks_of_layItem isFirst isLast same added present

/-- A pluck that starts and ends above silence. -/
def pluck : Envelope Float :=
  ⟨.explicit [], [(0, 20), (1, 100), (100, 10)].map Envelope.pointOfHundredths⟩

/-- A scheduler with a pluck on both gains, a flat frequency and no curve on the
filter. -/
def pluckedScheduler : Scheduler Float where
  envelopes :=
    { oscillatorFrequency :=
        some ⟨.explicit [], [.pair (.real 0.0) (.real 1.0)]⟩
      oscillatorGain := some pluck
      noiseGain := some pluck
      filterFrequency := none }
  msPerBeat := .int 500
  baseFrequency := Pitch.referenceFrequency
  baseOctave := .int (-1)
  masterGain := .real 0.5

/-- A rest, an A, an unknown pitch class and another A. -/
def restfulComposition : Value Float :=
  .list
    [.map [(.text "note", .text "0"), (.text "duration", .int 2)],
      .map [(.text "note", .text "A"), (.text "oct", .int 1)],
      .map [(.text "note", .text "H")],
      .map [(.text "note", .text "A"), (.text "duration", .real 0.5)]]

theorem schedule_follows_reference_of_leading_rest :
    ∃ schedule,
      (pluckedScheduler.schedule restfulComposition).outcome = .ok schedule ∧
      ∃ literals tones,
        restfulComposition.toItems = .ok literals ∧
        List.Forall₂
          (fun literal tone => ∃ wording, Conveys literal wording ∧
            Tone.Plays pluckedScheduler wording tone)
          literals tones ∧
        pluckedScheduler.Follows tones schedule := by
  have succeeds :
      (pluckedScheduler.schedule restfulComposition).outcome.isOk = true := by
    decide +kernel
  obtain ⟨schedule, scheduled⟩ := Attempt.exists_of_isOk succeeds
  exact ⟨schedule, scheduled, schedule_follows_reference scheduled⟩

end Scheduler
end MelodyAutomation

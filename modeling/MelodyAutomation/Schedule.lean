import MelodyAutomation.Envelope
import MelodyAutomation.Note
import MelodyAutomation.Pitch
import MelodyAutomation.Target

/-!
# Schedules

A scheduler turns a composition into blocks of segments for every target. It
walks the composition with a running cursor: a sounding item lays every
configured envelope over its window, a rest only moves the cursor, except that
a leading rest pins the noise gain to silence. An unknown pitch class is
reported and treated as a rest.
-/

namespace MelodyAutomation

/-- One item of a composition, with times in milliseconds. -/
structure CompositionItem (R : Type) where
  pitch : String
  octave : Value R
  offset : Value R
  duration : Value R
  delay : Value R
  kind : Value R
  isFirst : Bool
  isLast : Bool

/-- A composition item as a record. -/
def CompositionItem.toValue {R : Type} (item : CompositionItem R) : Value R :=
  .record .item
    [.text item.pitch, item.octave, item.offset, item.duration, item.delay,
      item.kind, .bool item.isFirst, .bool item.isLast]

/-- The blocks of every target, and the length of the whole in milliseconds. -/
structure Schedule (R : Type) where
  blocks : PerTarget (List (Block R))
  duration : R

namespace Schedule

variable {R : Type}

/-- All segments of a target, blocks joined in playback order. -/
def segments (schedule : Schedule R) (target : Target) : List (Segment R) :=
  (schedule.blocks.get target).flatten

/-- The number of blocks of every target. -/
def blockCounts (schedule : Schedule R) : List (Target × Nat) :=
  schedule.blocks.entries.map fun (target, blocks) => (target, blocks.length)

/-- A schedule of nothing that ends at a cursor. -/
def empty (cursor : R) : Schedule R :=
  ⟨PerTarget.tabulate fun _ => [], cursor⟩

/-- Put blocks in front of those of a schedule. -/
def prepend (blocks : PerTarget (List (Block R))) (schedule : Schedule R) :
    Schedule R :=
  { schedule with
    blocks := PerTarget.tabulate fun target =>
      blocks.get target ++ schedule.blocks.get target }

end Schedule

/-- Envelopes and tuning settings for turning compositions into schedules. -/
structure Scheduler (R : Type) where
  envelopes : PerTarget (Option (Envelope R))
  msPerBeat : Value R
  baseFrequency : Value R
  baseOctave : Value R
  masterGain : Value R

namespace Scheduler

variable {R : Type} [Machine R]

/-- The length of a beat unless another one is set. -/
def defaultMsPerBeat : Value R := .int 1000

/-- Whether a tempo is a number that is not positive. -/
def tempoRefused (msPerBeat : Value R) : Attempt R Bool := do
  let order ← msPerBeat.compareNumbers (.int 0)
  .ok (order == some .lt || order == some .eq)

/-- A scheduler with the given settings; the tempo must be positive. -/
def make (envelopes : PerTarget (Option (Envelope R)))
    (msPerBeat baseFrequency baseOctave masterGain : Value R) :
    Attempt R (Scheduler R) := do
  if ← tempoRefused msPerBeat then .error .tempoNotPositive
  else .ok ⟨envelopes, msPerBeat, baseFrequency, baseOctave, masterGain⟩

/-- A number of beats in milliseconds. -/
def beatsToMs (scheduler : Scheduler R) (beats : Value R) :
    Attempt R (Value R) :=
  beats.mul scheduler.msPerBeat

/-- The fields of a composition item: those of a note as they are, and those of
a literal with short keys resolved and null values dropped. A note is copied to its
end, which it has to have. -/
def itemFields (item : Value R) : Attempt R (Entries R) :=
  match Note.ofRecord? item with
  | some note =>
      if note.toValue.hasEnd then note.toValue.flatten.toEntries
      else .error .tooDeep
  | none => do
      let entries ← item.toEntries
      .ok (Note.resolveFields entries)

/-- An item with defaults filled in and its times in milliseconds. Its pitch class has
to be one that can be shown. -/
def normalizeItem (scheduler : Scheduler R) (item : Value R) :
    Attempt R (CompositionItem R) := do
  let fields ← itemFields item
  let pitch ← shownText ((fields.get? "pitch_class").getD (.text "A"))
  let duration ← scheduler.beatsToMs ((fields.get? "duration").getD (.int 1))
  let delay ← scheduler.beatsToMs ((fields.get? "delay").getD (.int 0))
  .ok
    { pitch
      octave := (fields.get? "octave").getD (.int 0)
      offset := (fields.get? "halfstep_offset").getD (.int 0)
      duration, delay
      kind := (fields.get? "kind").getD (.text "note")
      isFirst := false
      isLast := false }

omit [Machine R] in
/-- Flag the last item of a list. -/
def flagLast : List (CompositionItem R) → List (CompositionItem R)
  | [] => []
  | [last] => [{ last with isLast := true }]
  | item :: rest => item :: flagLast rest

omit [Machine R] in
/-- Flag the first and the last item of a list. -/
def flagEnds (items : List (CompositionItem R)) : List (CompositionItem R) :=
  match flagLast items with
  | [] => []
  | first :: rest => { first with isFirst := true } :: rest

/-- Normalize every item of a sequence literal and flag the ends. -/
def normalize (scheduler : Scheduler R) (composition : Value R) :
    Attempt R (List (CompositionItem R)) := do
  let items ← composition.toItems
  let normalized ← items.mapM scheduler.normalizeItem
  .ok (flagEnds normalized)

/-- The frequency of an item, or none for an unknown pitch class. -/
def itemFrequency? (scheduler : Scheduler R) (item : CompositionItem R) :
    Attempt R (Option (Value R)) := do
  let octave ← item.octave.add scheduler.baseOctave
  Pitch.frequency? (.text item.pitch) octave item.offset
    scheduler.baseFrequency

/-- Whether the ends of a target's envelope are zeroed at the ends of the
composition: only gains click. -/
def zeroes : Target → Bool
  | .oscillatorGain => true
  | .noiseGain => true
  | _ => false

/-- The window of an item for a target. -/
def window (target : Target) (item : CompositionItem R) (cursor : R)
    (scale : Value R) : Envelope.Window R where
  start := .real cursor
  duration := item.duration
  scale := scale
  zeroFirst := zeroes target && item.isFirst
  zeroLast := zeroes target && item.isLast

/-- The blocks that an item adds to a target: one, if the target has an
envelope. -/
def lay (scheduler : Scheduler R) (target : Target)
    (item : CompositionItem R) (cursor : R) (scale : Value R) :
    Attempt R (List (Block R)) :=
  match scheduler.envelopes.get target with
  | none => .ok []
  | some envelope => do
      let block ← envelope.reduce (window target item cursor scale)
      .ok [block]

/-- The scale of a sounding item's values on a target. -/
def scale (scheduler : Scheduler R) (frequency : Value R) : Target → Value R
  | .oscillatorFrequency => frequency
  | .oscillatorGain => scheduler.masterGain
  | .noiseGain => scheduler.masterGain
  | .filterFrequency => .real Scalar.one

/-- The scale of a rest on a target: a leading rest silences the noise. -/
def restScale? (item : CompositionItem R) (target : Target) :
    Option (Value R) :=
  if item.isFirst ∧ target = .noiseGain then some (.real Scalar.zero)
  else none

/-- The scale of an item's values on a target, if the item writes the target at
all: a sounding item writes every target. -/
def scale? (scheduler : Scheduler R) (item : CompositionItem R)
    (frequency : Option (Value R)) (target : Target) : Option (Value R) :=
  match frequency with
  | some sounding =>
      if sounding.isTruthy then some (scheduler.scale sounding target)
      else restScale? item target
  | none => restScale? item target

/-- The blocks that an item adds to every target. -/
def layItem (scheduler : Scheduler R) (item : CompositionItem R) (cursor : R)
    (frequency : Option (Value R)) : Attempt R (PerTarget (List (Block R))) :=
  PerTarget.tabulateM fun target =>
    match scheduler.scale? item frequency target with
    | some scale => scheduler.lay target item cursor scale
    | none => .ok []

/-- Move the cursor by the duration of an item. -/
def moveCursor (cursor : R) (duration : Value R) : Attempt R R := do
  let length ← duration.toNumber
  let scalar ← length.toScalar
  .ok (Scalar.add cursor scalar)

/-- Schedule items one after another, from a cursor on. -/
def layItems (scheduler : Scheduler R) :
    List (CompositionItem R) → R → Logged R (Schedule R)
  | [], cursor => pure (Schedule.empty cursor)
  | item :: rest, cursor => do
      let frequency ← scheduler.itemFrequency? item
      if frequency.isNone then Logged.report (.unknownPitch item.pitch)
      let blocks ← scheduler.layItem item cursor frequency
      let moved ← moveCursor cursor item.duration
      let schedule ← scheduler.layItems rest moved
      pure (schedule.prepend blocks)

/-- Schedule normalized items. -/
def scheduleItems (scheduler : Scheduler R)
    (items : List (CompositionItem R)) : Logged R (Schedule R) := do
  let schedule ← scheduler.layItems items Scalar.zero
  Logged.report
    (.scheduled items.length schedule.duration schedule.blockCounts)
  pure schedule

/-- Normalize and schedule a composition. -/
def schedule (scheduler : Scheduler R) (composition : Value R) :
    Logged R (Schedule R) := do
  let items ← scheduler.normalize composition
  scheduler.scheduleItems items

end Scheduler
end MelodyAutomation

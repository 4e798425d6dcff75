import MelodyAutomation.Melody
import MelodyAutomation.Schedule
import MelodyAutomation.Settings
import MelodyAutomation.Stage

/-!
# Instruments

An instrument is one voice: an oscillator, a noise source, a filter, and an
oscillator for every modulated parameter, wired together on an engine, with the
envelopes and the scheduler that turn compositions into automation. It plays a
composition by starting its nodes, writing the schedule relative to the current
time, waiting until the schedule has passed, and fading out.
-/

namespace MelodyAutomation

/-- One voice on a stage. -/
structure Instrument (R : Type) where
  /-- What tells instruments on one stage apart. -/
  number : Nat
  settings : Settings R
  oscillator : Primitive
  noise : Primitive
  filter : Primitive
  envelopes : PerTarget (Option (Envelope R))
  /-- The modulating oscillators, in the order of the settings. -/
  modulators : List (Target × Primitive)
  scheduler : Scheduler R

namespace Instrument

section

variable {R : Type}

/-- Full level from the start of a note to its end. -/
def flatEnvelope : Value R :=
  .list [.list [.int 0, .int 1], .list [.int 1, .int 1]]

/-- The envelopes of an instrument that sets none. -/
def defaultEnvelopes : Entries R :=
  [Target.oscillatorFrequency, .oscillatorGain, .noiseGain].map fun target =>
    (.text target.name, flatEnvelope)

/-- The oscillator settings of an instrument that sets none. -/
def defaultOscillator : Entries R :=
  [(.text "type", .text "sine"), (.text "freq", .int 0), (.text "gain", .int 1)]

/-- The noise settings of an instrument that sets none. -/
def defaultNoise : Entries R :=
  [(.text "type", .null), (.text "gain", .int 1)]

/-- The filter settings of an instrument that sets none. -/
def defaultFilter : Entries R :=
  [(.text "type", .null), (.text "freq", .int 220), (.text "gain", .int 1)]

/-- The target that a key names. -/
def targetOfKey? : Value R → Option Target
  | .text name => Target.ofName? name
  | _ => none

/-- Whether a target can be modulated. -/
def isModulated : Target → Bool
  | .noiseGain => false
  | _ => true

/-- How long a stopped oscillator fades, in milliseconds. -/
def release : Value R := .int 100

/-- The socket that a target is written to, unless its node lacks it. -/
def socket? (instrument : Instrument R) : Target → Option Socket
  | .oscillatorFrequency => instrument.oscillator.socket? .frequency
  | .oscillatorGain => instrument.oscillator.socket? .gain
  | .noiseGain => instrument.noise.socket? .gain
  | .filterFrequency => instrument.filter.socket? .frequency

/-- The socket of the target that a literal names. -/
def socketOfName (instrument : Instrument R) (target : Value R) :
    Attempt R (Option Socket) :=
  match targetOfKey? target with
  | some known => .ok (instrument.socket? known)
  | none => .error (.configuration (.unknownTarget target))

end

section

variable {R : Type} [Scalar R]

/-- The part of some settings under a name. -/
def part (settings : Entries R) (name : String) : Value R :=
  (settings.get? name).getD .null

/-- The blueprints of an instrument's own nodes. -/
structure Plan (R : Type) where
  oscillator : Entries R
  noise : Entries R
  filter : Entries R

/-- The settings of the three nodes, spread over their defaults. -/
def Plan.ofSettings (settings : Settings R) : Attempt R (Plan R) := do
  let oscillator ← (settings.value .oscillator).toSpread
  let noise ← (settings.value .noise).toSpread
  let filter ← (settings.value .filter).toSpread
  .ok
    { oscillator := defaultOscillator.merge oscillator
      noise := defaultNoise.merge noise
      filter := defaultFilter.merge filter }

/-- Create the oscillator of a plan. -/
def createOscillator (settings : Entries R) :
    Session (Stage R) R Primitive := do
  let waveform ← Waveform.ofValue (part settings "type")
  Stage.create
    (.oscillator waveform (part settings "freq") (part settings "gain"))

/-- Create the noise source of a plan. -/
def createNoise (settings : Entries R) : Session (Stage R) R Primitive :=
  Stage.create (.noise (part settings "type") (part settings "gain"))

/-- Create the filter of a plan. -/
def createFilter (settings : Entries R) : Session (Stage R) R Primitive :=
  Stage.create
    (.filter (part settings "type") (part settings "freq")
      (part settings "gain"))

/-- The target that a key of the modulation settings names. -/
def modulatedTarget (key : Value R) : Attempt R Target :=
  match targetOfKey? key with
  | some target =>
      if isModulated target then .ok target
      else .error (.configuration (.unknownModulation key))
  | none => .error (.configuration (.unknownModulation key))

/-- Connect a modulating oscillator to its target; a target without a socket is
reported. -/
def connectModulator (instrument : Instrument R)
    (entry : Target × Primitive) : Session (Stage R) R Unit :=
  match instrument.socket? entry.1 with
  | none => Session.report (.inactiveModulation entry.1)
  | some socket => Stage.connect entry.2 (.socket socket)

/-- Connect the nodes: the oscillator through an active filter, and the noise,
to the destination. -/
def connectNodes (instrument : Instrument R) : Session (Stage R) R Unit := do
  if instrument.filter.active then
    Stage.connect instrument.oscillator (.node instrument.filter.node)
    Stage.connect instrument.filter (.node .destination)
  else Stage.connect instrument.oscillator (.node .destination)
  Stage.connect instrument.noise (.node .destination)

/-- The value that ramps reach instead of zero. -/
def leastValue : Value R := .real (Scalar.ofDecimal 1 (-4))

/-- The value that a ramp to a literal reaches: never exactly zero. -/
def rampValue (value : Value R) : Value R :=
  if value.same (.int 0) then leastValue else value

/-- Write one segment to a socket, relative to a time: the first segment of a
block is set at its start, the others ramp to their ends. -/
def writeSegment (socket : Option Socket) (value start ramp : Value R)
    (isFirst : Bool) (now : Value R) : Session (Stage R) R Unit :=
  match socket with
  | none => pure ()
  | some target => do
      let begin ← now.add start
      if isFirst then Stage.set target value begin
      else
        let time ← begin.add ramp
        Stage.ramp target (rampValue value) time

/-- Write the segments of a block, the first of them set and the others ramped. -/
def writeBlock (socket : Option Socket) (now : Value R) :
    Block R → Session (Stage R) R Unit
  | [] => pure ()
  | first :: rest => do
      writeSegment socket first.value first.start first.ramp true now
      rest.forM fun segment =>
        writeSegment socket segment.value segment.start segment.ramp false now

/-- Write a schedule, relative to the current time. -/
def applySchedule (instrument : Instrument R) (schedule : Schedule R) :
    Session (Stage R) R Unit := do
  let now := Value.real (← get).nowMs
  schedule.blocks.entries.forM fun (target, blocks) =>
    blocks.forM (writeBlock (instrument.socket? target) now)

/-- Start the nodes of an instrument. -/
def start (instrument : Instrument R) : Session (Stage R) R Unit := do
  Stage.start instrument.oscillator
  Stage.start instrument.noise
  instrument.modulators.forM fun entry => Stage.start entry.2
  Stage.setPlaying instrument.number true

/-- Fade the oscillator out and stop the sources of a playing instrument. -/
def stop (instrument : Instrument R) : Session (Stage R) R Unit := do
  if ← Stage.isPlaying instrument.number then
    let now := Value.real (← get).nowMs
    let silence ← now.add release
    writeSegment (instrument.oscillator.socket? .gain) (.int 0) (.int 0) release
      false now
    Stage.stop instrument.oscillator (some silence)
    Stage.stop instrument.noise none
    Stage.setPlaying instrument.number false

/-- Stop an instrument together with its modulating oscillators. -/
def destroy (instrument : Instrument R) : Session (Stage R) R Unit := do
  instrument.stop
  instrument.modulators.forM fun entry => Stage.stop entry.2 none

/-- Write a schedule and wait until it has passed. -/
def playScheduled (instrument : Instrument R) (schedule : Schedule R) :
    Session (Stage R) R Unit := do
  instrument.applySchedule schedule
  match (← get).waitsUntil? schedule.duration with
  | some wake => Stage.setClock wake
  | none => pure ()

end

variable {R : Type} [Machine R]

/-- Make the envelopes of a map; a key that is no target is reported. -/
def makeEnvelopes : Entries R → Logged R (List (Target × Envelope R))
  | [] => pure []
  | (key, literal) :: rest =>
      match targetOfKey? key with
      | none => do
          requireShown key
          Logged.report (.unscheduledTarget key)
          makeEnvelopes rest
      | some target => do
          let envelope ← Envelope.ofValue literal flatEnvelope
          let others ← makeEnvelopes rest
          pure ((target, envelope) :: others)

/-- The envelopes of an instrument: its own ones over the defaults. -/
def envelopesOf (settings : Settings R) :
    Logged R (PerTarget (Option (Envelope R))) := do
  let own ← (settings.value .envelopes).toSpread
  let made ← makeEnvelopes (defaultEnvelopes.merge own)
  pure (PerTarget.tabulate fun target => made.lookup target)

/-- The modulating oscillator that the parameters of a target describe: its
frequency is given in cycles per beat, its depth scales with the master gain. -/
def modulatorBlueprint (settings : Settings R) (parameters : Value R) :
    Attempt R (Blueprint R) := do
  let entries ← (parameters.orElse (.map [])).toEntries
  let waveform ← Waveform.ofValue ((entries.get? "type").getD (.text "sine"))
  let cycles ← ((entries.get? "n").getD (.int 1)).mul (.int 1000)
  let frequency ← cycles.div (settings.value .msPerBeat)
  let gain ← (settings.value .masterGain).mul
    ((entries.get? "gain").getD (.int 1))
  .ok (.oscillator waveform (.real frequency) gain)

/-- Create the modulating oscillators of a map. -/
def createModulators (settings : Settings R) :
    Entries R → Session (Stage R) R (List (Target × Primitive))
  | [] => pure []
  | (key, parameters) :: rest => do
      let target ← modulatedTarget key
      let blueprint ← modulatorBlueprint settings parameters
      let modulator ← Stage.create blueprint
      let others ← createModulators settings rest
      pure ((target, modulator) :: others)

/-- Build an instrument from its settings. -/
def build (settings : Settings R) : Session (Stage R) R (Instrument R) := do
  let plan ← Plan.ofSettings settings
  let oscillator ← createOscillator plan.oscillator
  let noise ← createNoise plan.noise
  let filter ← createFilter plan.filter
  let envelopes ← envelopesOf settings
  let modulation ← (settings.value .modulation).toEntries
  let modulators ← createModulators settings modulation
  let scheduler ← Scheduler.make envelopes (settings.value .msPerBeat)
    Pitch.referenceFrequency (settings.value .octave)
    (settings.value .masterGain)
  let instrument : Instrument R :=
    { number := (← get).built
      settings, oscillator, noise, filter, envelopes, modulators, scheduler }
  modulators.forM instrument.connectModulator
  instrument.connectNodes
  let number ← Stage.takeNumber
  pure { instrument with number }

/-- Build an instrument from a configuration with options stored over it. -/
def make (configuration : Value R) (options : Entries R) :
    Session (Stage R) R (Instrument R) := do
  let settings ← Settings.ofConfiguration configuration options
  build settings

/-- Play a composition up to the moment where it waits for its schedule to pass,
and return the reading of the clock at which to go on; without anything to wait
for, the instrument is stopped at once. -/
def beginPlaying (instrument : Instrument R) (composition : Value R) :
    Session (Stage R) R (Option R) := do
  let schedule ← instrument.scheduler.schedule composition
  Session.report (.playing schedule.duration)
  instrument.start
  match ← Session.attempt (instrument.applySchedule schedule) with
  | .error failure =>
      instrument.stop
      throw failure
  | .ok () =>
      match (← get).waitsUntil? schedule.duration with
      | some wake => pure (some wake)
      | none =>
          instrument.stop
          pure none

/-- Play a composition to its end. -/
def play (instrument : Instrument R) (composition : Value R) :
    Session (Stage R) R Unit := do
  match ← instrument.beginPlaying composition with
  | some wake =>
      Stage.setClock wake
      instrument.stop
  | none => pure ()

end Instrument

/-- The composition that a melody is. -/
def Melody.composition {R : Type} (melody : Melody R) : Value R :=
  .list (melody.notes.map Note.toValue)

end MelodyAutomation

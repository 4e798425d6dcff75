import MelodyAutomation.Instrument
import MelodyAutomation.Melody.Transform
import MelodyAutomation.Registry

/-!
# Ensembles

A band of instruments and an album of melodies on one stage. The tracks of a
performance run at once: all of them begin in the order of the mapping, then
those that wait for their schedules end in the order in which these are over.
A track can only be refused while it begins; the first refusal ends the whole
performance. However a performance ends, all its instruments are destroyed.
-/

namespace MelodyAutomation

/-- A stage with the registries of its instruments and melodies. -/
structure Ensemble (R : Type) where
  stage : Stage R
  band : Registry R (Instrument R)
  album : Registry R (Melody R)

/-- How a performance comes to its end. -/
inductive Ending
  | finished
  | interrupted
  deriving DecidableEq, Repr

/-- A melody is cloned as it is. -/
def Melody.cloning {R : Type} : Cloning R (Melody R) :=
  ⟨fun _ => "Melody", fun melody => some (pure (some melody))⟩

/-- An instrument cannot be cloned. -/
def Instrument.cloning {R : Type} : Cloning R (Instrument R) :=
  ⟨fun _ => "Instrument", fun _ => none⟩

/-- The melody that a list of arguments describes: its notes, and whether it is
strict. -/
def Melody.ofArguments {R : Type} [Machine R] :
    List (Value R) → Attempt R (Melody R)
  | [] => Melody.ofValue (.list []) (.bool false)
  | [notes] => Melody.ofValue notes (.bool false)
  | [notes, strict] => Melody.ofValue notes strict
  | _ => .error .illTyped

namespace Ensemble

section

variable {R α : Type}

/-- An ensemble without instruments and melodies. -/
def onStageOf (stage : Stage R) : Ensemble R :=
  ⟨stage, Registry.empty "band", Registry.empty "album"⟩

/-- Run an operation on the stage. -/
def onStage (operation : Session (Stage R) R α) : Session (Ensemble R) R α :=
  Session.within Ensemble.stage (fun stage ensemble => { ensemble with stage })
    operation

/-- Run an operation on the band. -/
def onBand (operation : Session (Registry R (Instrument R)) R α) :
    Session (Ensemble R) R α :=
  Session.within Ensemble.band (fun band ensemble => { ensemble with band })
    operation

/-- Run an operation on the album. -/
def onAlbum (operation : Session (Registry R (Melody R)) R α) :
    Session (Ensemble R) R α :=
  Session.within Ensemble.album (fun album ensemble => { ensemble with album })
    operation

/-- The first refusal among the outcomes of tracks. -/
def firstFailure? {β : Type} (begun : List (β × Attempt R α)) :
    Option (Failure R) :=
  begun.findSome? fun track =>
    match track.2 with
    | .error failure => some failure
    | .ok _ => none

/-- The tracks that wait, with the readings of the clock at which they go on. -/
def sleepers {β : Type} (begun : List (β × Attempt R (Option R))) :
    List (β × R) :=
  begun.filterMap fun track =>
    match track.2 with
    | .ok (some wake) => some (track.1, wake)
    | _ => none

end

section

variable {R : Type} [Scalar R]

/-- Waiting tracks in the order in which they go on; of two that go on at once,
the earlier one is first. -/
def wakeOrder {β : Type} (sleeping : List (β × R)) : List (β × R) :=
  sleeping.mergeSort fun left right =>
    !(Scalar.compare? right.2 left.2 == some .lt)

/-- Destroy the instruments of all tracks. -/
def destroyTracks (tracks : List (Instrument R × Melody R)) :
    Session (Stage R) R Unit :=
  tracks.forM fun track => track.1.destroy

/-- Let a waiting track go on to its end. -/
def wake (sleeper : Instrument R × R) : Session (Stage R) R Unit := do
  Stage.setClock sleeper.2
  sleeper.1.stop

/-- Whether a waiting track goes on at a later reading of the clock. -/
def isLater {β : Type} (clock : R) (sleeper : β × R) : Bool :=
  Scalar.compare? clock sleeper.2 == some .lt

end

variable {R : Type} [Machine R]

/-- Make an instrument the current one of the band. -/
def makeInstrument (configuration : Value R) : Session (Ensemble R) R Unit := do
  let instrument ← onStage (Instrument.make configuration [])
  onBand (Registry.make (pure instrument))

/-- Make an instrument of a list of arguments, of which there may be one. -/
def makeInstrumentOf : List (Value R) → Session (Ensemble R) R Unit
  | [] => makeInstrument .null
  | [configuration] => makeInstrument configuration
  | _ => throw .illTyped

/-- Make a melody the current one of the album. -/
def makeMelodyOf (arguments : List (Value R)) : Session (Ensemble R) R Unit :=
  onAlbum (Registry.make (Logged.ofAttempt (Melody.ofArguments arguments)))

/-- Begin all tracks, one after another and whether or not one is refused. -/
def beginTracks : List (Instrument R × Melody R) →
    Session (Stage R) R (List (Instrument R × Attempt R (Option R)))
  | [] => pure []
  | (instrument, melody) :: rest => do
      let outcome ← Session.attempt
        (instrument.beginPlaying melody.composition)
      let others ← beginTracks rest
      pure ((instrument, outcome) :: others)

/-- Play tracks until all are over, or until they are interrupted at the moment
when all that are left are waiting for a later reading of the clock. -/
def playTracks (tracks : List (Instrument R × Melody R)) (interrupt : Bool) :
    Session (Stage R) R Ending := do
  let begun ← beginTracks tracks
  match firstFailure? begun with
  | some failure =>
      destroyTracks tracks
      throw failure
  | none =>
      let waiting := sleepers begun
      let (later, due) := waiting.partition (isLater (← get).clock)
      if interrupt && !later.isEmpty then
        due.forM wake
        later.forM fun sleeper => sleeper.1.stop
        destroyTracks tracks
        pure .interrupted
      else
        (wakeOrder waiting).forM wake
        destroyTracks tracks
        Session.report .finished
        pure .finished

/-- The instrument and the looped melody of one entry of a mapping. -/
def track (times : Value R) (entry : Value R × Value R) :
    Session (Ensemble R) R (Instrument R × Melody R) := do
  let instrument ← onBand (Registry.retrieve entry.1)
  let melody ← onAlbum (Registry.retrieve entry.2)
  let looped ← melody.loop times
  pure (instrument, looped)

/-- Play the melody of every instrument in a mapping, looped a number of times.
All names are looked up before anything plays. -/
def play (mapping times : Value R) (interrupt : Bool) :
    Session (Ensemble R) R Ending := do
  let entries ← mapping.toEntries
  let tracks ← entries.mapM (track times)
  Session.report (.tracks tracks.length mapping)
  onStage (playTracks tracks interrupt)

end Ensemble
end MelodyAutomation

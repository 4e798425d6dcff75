import MelodyAutomation.Document
import MelodyAutomation.Ensemble

/-!
# Songs

A song file describes instruments, melodies and what to play. Loading it
registers the instruments with the band and the melodies, with their transforms
applied, with the album, in the order of the file. A missing file is reported
and stands for an empty song.
-/

namespace MelodyAutomation

/-- What is found under the path of a song. -/
inductive SongFile (R : Type)
  | missing
  | folder
  | text (content : String)
  /-- A file whose document is already known. -/
  | document (value : Value R)

/-- What a song asks to play: a melody's name for every instrument's name, and how
often each melody is looped. -/
structure Song (R : Type) where
  play : Entries R
  loop : Int

namespace Song

section

variable {R : Type}

/-- A song as a record. -/
def toValue (song : Song R) : Value R :=
  .record .song [.map song.play, .int song.loop]

/-- A section of a song's configuration, null when it is absent. -/
def section? (configuration : Entries R) (name : String) : Value R :=
  (configuration.get? name).getD .null

end

variable {R : Type} [Machine R]

/-- The configuration in a file. -/
def configuration (path : String) (file : SongFile R) : Logged R (Value R) := do
  match file with
  | .missing =>
      Logged.report (.missingSong path)
      pure (.map [])
  | .folder => throw .isFolder
  | .text content => do
      let document : Value R ← Logged.ofAttempt (Document.ofText content)
      pure (document.orElse (.map []))
  | .document value => pure (value.orElse (.map []))

/-- The entries of a section; an absent or empty one has none. -/
def sectionEntries (configuration : Entries R) (name : String) :
    Attempt R (Entries R) :=
  ((section? configuration name).orElse (.map [])).toEntries

/-- Store the current object of a registry under a name that a song gives it. A name
that cannot be shown is refused after that. -/
def saveAs {T : Type} (name : Value R) : Session (Registry R T) R Unit :=
  match requireShown name with
  | .ok () => Registry.save name
  | .error failure => do
      Registry.store name
      throw failure

/-- Refuse entries up to the first one of which a part cannot be shown. -/
def requireShownEntries (entries : Entries R) : Attempt R Unit :=
  entries.forM fun entry => do
    requireShown entry.1
    requireShown entry.2

/-- Register an instrument. -/
def registerInstrument (entry : Value R × Value R) :
    Session (Ensemble R) R Unit := do
  let settings ← Settings.ofValue (entry.2.orElse (.map []))
  Ensemble.makeInstrument settings.toValue
  Ensemble.onBand (saveAs entry.1)

/-- Register a melody. -/
def registerMelody (entry : Value R × Value R) :
    Session (Ensemble R) R Unit := do
  let fields ← (entry.2.orElse (.map [])).toEntries
  let notes := (section? fields "notes").orElse (.list [])
  let strict := (fields.get? "strict").getD (.bool false)
  let transforms := (section? fields "transforms").orElse (.list [])
  Ensemble.makeMelodyOf [notes, strict]
  Ensemble.onAlbum do
    Registry.change fun melody => melody.applySteps transforms
    saveAs entry.1

/-- The mapping to play, with all names as texts. -/
def playEntries (entries : Entries R) : Entries R :=
  Keyed.ofList (entries.map fun entry =>
    (.text entry.1.display, .text entry.2.display))

/-- Register the instruments and melodies of a configuration. -/
def register (configuration : Value R) : Session (Ensemble R) R (Song R) := do
  let fields ← configuration.toEntries
  let instruments ← sectionEntries fields "instruments"
  instruments.forM registerInstrument
  let melodies ← sectionEntries fields "melodies"
  melodies.forM registerMelody
  let play ← sectionEntries fields "play"
  requireShownEntries play
  let loop ← ((fields.get? "loop").getD (.int 1)).toWhole
  pure ⟨playEntries play, loop⟩

/-- Load a song file. -/
def load (path : String) (file : SongFile R) :
    Session (Ensemble R) R (Song R) := do
  let configuration ← configuration path file
  register configuration

end Song
end MelodyAutomation

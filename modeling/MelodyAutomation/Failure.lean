import MelodyAutomation.Value.Display
import MelodyAutomation.Value.Obstacle

/-!
# Failures

Every way in which a request can be refused, by its cause. Causes that an author
can mend carry what the message needs, and `Failure.message?` is the one place
where the messages are worded. The remaining causes describe a literal that
does not fit the operation it was given to, and have no message of their own.

A message may have to show a literal that cannot be shown. Then the request is still
refused for the same cause, but what is met in its place is the obstacle.
-/

namespace MelodyAutomation

/-- A name, descriptor or setting that describes no valid configuration. -/
inductive ConfigurationFault (R : Type)
  | noPitchClass (note : Value R)
  | unknownWaveform (name : Value R)
  | unknownEnvelope (descriptor : String)
  | unknownFunction (function descriptor : String)
  | malformedFactor (factor descriptor : String)
  | notPoints (envelope : Value R)
  | noPoints
  | unknownSetting (key : Value R)
  | unknownModulation (target : Value R)
  | unknownTarget (target : Value R)
  | malformedStep (step : Value R)
  | unknownStep (name : Value R)

/-- A misuse of the melody algebra. A lenient melody reports it and carries on
unchanged; a strict one refuses. -/
inductive Misuse (R : Type)
  | repeatShape (shape : Value R)
  | repeatCounts (counts : List (Value R))
  | repeatLength (given : Nat) (expected : Value R)
  | transformShape (label : String) (shape : Value R)
  | transformLength (label : String) (given : Nat) (expected : Value R)
  | tuning (name : Value R)
  | prolongation (duration : Value R) (length : Nat)

/-- A registry entry that is asked for and not there. -/
inductive MissingEntry (R : Type)
  | nothingToSave (registry : String) (name : Value R)
  | notDefined (registry : String) (name : Value R)
  | nothingToChange (registry : String)

/-- Why a request is refused. -/
inductive Failure (R : Type)
  | configuration (fault : ConfigurationFault R)
  | misuse (fault : Misuse R)
  | missing (entry : MissingEntry R)
  | notClonable (registry : String) (name : Value R) (kind : String)
  | tempoNotPositive
  /-- A literal of a kind that the operation does not take. -/
  | illTyped
  /-- A request that the object does not understand. -/
  | notUnderstood
  /-- A literal of the right kind whose content is malformed. -/
  | malformed
  /-- A number beyond the range of its representation. -/
  | overflow
  /-- A position beyond the end of a sequence. -/
  | outOfRange
  /-- A sequence that would be longer than there is room for. -/
  | outOfMemory
  /-- Collections inside collections, too deep to be followed to their end. -/
  | tooDeep
  | divisionByZero
  /-- A name that is in no table. -/
  | unknownKey
  /-- A folder where a file is wanted. -/
  | isFolder
  /-- A song text that is no valid document. -/
  | document

/-- An operation that may be refused. -/
abbrev Attempt (R α : Type) := Except (Failure R) α

/-- The registered waveform names, in alphabetical order. -/
def availableWaveforms : List String :=
  ["bass", "chiptune", "exp1", "exp2", "exp3", "exp4", "horn", "organ_1",
    "organ_2", "saw", "sawtooth", "sine", "square", "string_a", "triangle",
    "viola", "violin"]

/-- The registered envelope names, in alphabetical order. -/
def availableEnvelopes : List String :=
  ["10", "bowed-string", "drum-hihat", "drum-kick", "plucked-string"]

/-- The names of the melody transforms, in alphabetical order. -/
def availableTransforms : List String :=
  ["arpeggio", "blue_monday_bass", "chord", "funky_bass", "loop",
    "prolong_last", "repeat", "temp", "transpose"]

section

variable {R : Type} [Machine R]

omit [Machine R] in
/-- What an obstacle amounts to for whoever wants to show something. -/
def obstacleFailure : Value.Obstacle → Failure R
  | .tooManyDigits => .malformed
  | .tooDeep => .tooDeep

/-- Refuse a literal that cannot be shown. -/
def requireShown (value : Value R) : Attempt R Unit :=
  match value.obstacle? with
  | none => .ok ()
  | some obstacle => .error (obstacleFailure obstacle)

/-- The text of a literal, which has to be one that can be shown. -/
def shownText (value : Value R) : Attempt R String := do
  requireShown value
  .ok value.display

/-- What keeps the wording of a configuration fault from being written. -/
def ConfigurationFault.obstacle? :
    ConfigurationFault R → Option Value.Obstacle
  | noPitchClass note => note.obstacle?
  | unknownWaveform name => name.obstacle?
  | notPoints envelope => envelope.obstacle?
  | unknownSetting key => key.obstacle?
  | unknownModulation target => target.obstacle?
  | unknownTarget target => target.obstacle?
  | malformedStep step => step.obstacle?
  | unknownStep name => name.obstacle?
  | _ => none

/-- What keeps the wording of a misuse from being written. -/
def Misuse.obstacle? : Misuse R → Option Value.Obstacle
  | repeatShape shape => shape.obstacle?
  | repeatCounts counts => (Value.list counts).obstacle?
  | repeatLength _ expected => expected.obstacle?
  | transformShape _ shape => shape.obstacle?
  | transformLength _ _ expected => expected.obstacle?
  | tuning name => name.obstacle?
  | prolongation duration _ => duration.obstacle?

/-- Whether the wording of a misuse can be written. -/
def Misuse.isShown (fault : Misuse R) : Bool := fault.obstacle?.isNone

/-- What keeps the wording of a missing entry from being written. -/
def MissingEntry.obstacle? : MissingEntry R → Option Value.Obstacle
  | nothingToSave _ name => name.obstacle?
  | notDefined _ name => name.obstacle?
  | nothingToChange _ => none

/-- What keeps the message of a failure from being written. -/
def Failure.obstacle? : Failure R → Option Value.Obstacle
  | configuration fault => fault.obstacle?
  | misuse fault => fault.obstacle?
  | missing entry => entry.obstacle?
  | notClonable _ name _ => name.obstacle?
  | _ => none

/-- What is met when a failure is to be told: the failure itself, or the obstacle to
its message. -/
def Failure.told (failure : Failure R) : Failure R :=
  match failure.obstacle? with
  | none => failure
  | some obstacle => obstacleFailure obstacle

@[simp] theorem Failure.told_of_no_obstacle
    {failure : Failure R}
    (clear : failure.obstacle? = none) :
    failure.told = failure := by
  simp [Failure.told, clear]

end

/-- Names in double quotes, separated by commas. -/
def quotedNames (names : List String) : String :=
  Value.commaSeparated (names.map fun name => "\"" ++ name ++ "\"")

variable {R : Type} [Scalar R]

/-- The wording of a configuration fault. -/
def ConfigurationFault.message : ConfigurationFault R → String
  | noPitchClass note => "Note " ++ note.written ++ " has no pitch class"
  | unknownWaveform name =>
      "Unknown wave type " ++ name.written ++ ". Available waveforms: " ++
        quotedNames availableWaveforms
  | unknownEnvelope descriptor =>
      "Unknown envelope " ++ Text.quoted descriptor ++
        ". Available envelopes: " ++ quotedNames availableEnvelopes
  | unknownFunction function descriptor =>
      "Unknown envelope function " ++ Text.quoted function ++ " in " ++
        Text.quoted descriptor
  | malformedFactor factor descriptor =>
      "Malformed number " ++ Text.quoted factor ++ " in envelope " ++
        Text.quoted descriptor
  | notPoints envelope =>
      "Envelope points must be (time, value) pairs, got " ++ envelope.written
  | noPoints => "Envelope has no points"
  | unknownSetting key => "Unknown instrument setting " ++ key.written
  | unknownModulation target => "Unknown LFO target " ++ target.written
  | unknownTarget target => "Unknown target " ++ target.written
  | malformedStep step => "Malformed melody transform " ++ step.written
  | unknownStep name =>
      "Unknown melody transform " ++ name.written ++
        ". Available transforms: " ++
        Value.commaSeparated availableTransforms

/-- The complaint about a list of the wrong length. -/
def lengthComplaint (label : String) (given : Nat) (expected : Value R) :
    String :=
  label ++ ": invalid shape length, " ++ toString given ++ " instead of " ++
    expected.display

/-- The wording of a misuse, the same in a warning and in a refusal. -/
def Misuse.message : Misuse R → String
  | repeatShape shape => "repeat: invalid arguments " ++ shape.written
  | repeatCounts counts =>
      "repeat: counts must be non-negative integers, got " ++
        (Value.list counts).written
  | repeatLength given expected => lengthComplaint "repeat" given expected
  | transformShape label shape =>
      label ++ ": invalid arguments " ++ shape.written
  | transformLength label given expected =>
      lengthComplaint label given expected
  | tuning name => "chord: invalid tune " ++ name.written
  | prolongation duration length =>
      "prolong_last: invalid duration " ++ duration.display ++ " (max is " ++
        toString length ++ ")"

omit [Scalar R] in
/-- Whether a misuse is a shape that does not fit. -/
def Misuse.isShape : Misuse R → Bool
  | tuning _ => false
  | prolongation _ _ => false
  | _ => true

/-- The wording of a missing entry. -/
def MissingEntry.message : MissingEntry R → String
  | nothingToSave registry name =>
      registry ++ ": couldn't save " ++ name.written ++
        " because nothing has been made"
  | notDefined registry name =>
      registry ++ ": couldn't get " ++ name.written ++
        " because it's not defined"
  | nothingToChange registry =>
      registry ++ ": nothing to change, make or clone an object first"

/-- The message of a failure, where there is one. -/
def Failure.message? : Failure R → Option String
  | configuration fault => some fault.message
  | misuse fault => some fault.message
  | missing entry => some entry.message
  | notClonable registry name kind =>
      some (registry ++ ": couldn't clone " ++ name.written ++ " because " ++
        kind ++ " has no cloning method")
  | tempoNotPositive => some "ms_per_beat must be positive"
  | _ => none

end MelodyAutomation

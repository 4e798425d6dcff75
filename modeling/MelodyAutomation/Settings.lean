import MelodyAutomation.Value.Arithmetic
import MelodyAutomation.Value.Iteration
import MelodyAutomation.Value.Listing

/-!
# Instrument settings

The eight settings of an instrument. A settings literal is a map whose keys
name a setting, some of them by an older name as well; null values are dropped,
a setting that is not given has its default, and of two keys for one setting
the later wins. An unknown key is refused even when its value is null.
-/

namespace MelodyAutomation

/-- The settings of an instrument. -/
inductive Setting
  | msPerBeat
  | octave
  | oscillator
  | filter
  | noise
  | envelopes
  | modulation
  | masterGain
  deriving DecidableEq, Repr

namespace Setting

/-- The name of a setting. -/
def name : Setting → String
  | msPerBeat => "ms_per_beat"
  | octave => "octave"
  | oscillator => "osc"
  | filter => "filter"
  | noise => "noise"
  | envelopes => "envelopes"
  | modulation => "lfos"
  | masterGain => "master_gain"

/-- The older name of a setting, where it has one. -/
def olderName? : Setting → Option String
  | msPerBeat => some "temp"
  | octave => some "oct"
  | modulation => some "LFOs"
  | masterGain => some "masterGain"
  | _ => none

/-- All settings, in the order in which they are shown. -/
def all : List Setting :=
  [msPerBeat, octave, oscillator, filter, noise, envelopes, modulation,
    masterGain]

/-- The setting that a name stands for. -/
def ofName? (name : String) : Option Setting :=
  all.find? fun setting =>
    setting.name == name || setting.olderName? == some name

@[simp] theorem ofName?_name (setting : Setting) :
    ofName? setting.name = some setting := by
  cases setting <;> decide

theorem ofName?_of_olderName?
    {setting : Setting}
    {name : String}
    (older : setting.olderName? = some name) :
    ofName? name = some setting := by
  cases setting <;> simp_all [olderName?] <;> subst older <;> decide

variable {R : Type}

/-- The setting that a key of a settings literal names. -/
def ofKey? : Value R → Option Setting
  | .text content => ofName? content
  | _ => none

@[simp] theorem ofKey?_text (content : String) :
    ofKey? (.text content : Value R) = ofName? content := rfl

end Setting

/-- A literal for every setting. -/
@[ext] structure Settings (R : Type) where
  value : Setting → Value R

namespace Settings

variable {R : Type}

/-- The settings with one of them replaced. -/
def set (settings : Settings R) (setting : Setting) (value : Value R) :
    Settings R :=
  ⟨fun other => if other = setting then value else settings.value other⟩

@[simp] theorem value_set_self
    (settings : Settings R)
    (setting : Setting)
    (value : Value R) :
    (settings.set setting value).value setting = value := by
  simp [set]

theorem value_set_of_ne
    (settings : Settings R)
    {setting other : Setting}
    (value : Value R)
    (different : other ≠ setting) :
    (settings.set setting value).value other = settings.value other := by
  simp [set, different]

/-- Settings as a record. -/
def toValue (settings : Settings R) : Value R :=
  .record .settings (Setting.all.map settings.value)

/-- The settings with one entry of a settings literal taken into account. -/
def applyEntry (settings : Settings R) (entry : Value R × Value R) :
    Attempt R (Settings R) :=
  match Setting.ofKey? entry.1 with
  | none => .error (.configuration (.unknownSetting entry.1))
  | some setting =>
      .ok (if entry.2.isNull then settings else settings.set setting entry.2)

section

variable [Scalar R]

/-- The settings of an instrument about which nothing is said. -/
def default : Settings R where
  value
    | .msPerBeat => .int 1000
    | .octave => .int 0
    | .masterGain => .real Scalar.one
    | _ => .map []

/-- The settings that the entries of a literal describe. -/
def ofEntries (entries : Entries R) : Attempt R (Settings R) :=
  entries.foldlM applyEntry default

@[simp] theorem ofEntries_nil : ofEntries ([] : Entries R) = .ok default := rfl

/-- The settings that a literal describes. -/
def ofValue (literal : Value R) : Attempt R (Settings R) := do
  let entries ← literal.toEntries
  ofEntries entries

end

variable [Machine R]

/-- The entries of a configuration: those of a map, or of a settings record with
every record inside it turned into a map; a literal that counts as false has
none. A record is copied to its end, which it has to have. -/
def configurationEntries : Value R → Attempt R (Entries R)
  | .record .settings fields =>
      let settings := Value.record .settings fields
      if settings.hasEnd then settings.copied.flatten.toSpread
      else .error .tooDeep
  | literal => (literal.orElse (.map [])).toSpread

/-- The names that are not available as options, because they stand for what an
instrument is built from. -/
def reservedNames : List String := ["self", "config", "backend"]

/-- Settings from a configuration with options stored over it. -/
def ofConfiguration (configuration : Value R) (options : Entries R) :
    Attempt R (Settings R) := do
  if options.any fun option => reservedNames.any option.1.isText then
    .error .illTyped
  let entries ← configurationEntries configuration
  ofEntries (entries.merge options)

end Settings
end MelodyAutomation

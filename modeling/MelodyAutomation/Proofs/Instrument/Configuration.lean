import MelodyAutomation.Instrument
import MelodyAutomation.Proofs.SessionRules
import MelodyAutomation.Proofs.Settings
import MelodyAutomation.Scalar.Double

/-!
# Configurations as records and as maps

The settings of an instrument can be given as a record or as a map. A map is taken as it
is. A record has every setting, those that were not given with their defaults, and it is
copied to its ends, with the records inside it turned into maps. Both lead to the same
instrument, whatever the options, when no given literal is changed by that copy and every
setting that is not given has its older name, if it is an option at all, after its own
one. Envelopes that are given as records are what a copy changes.
-/

namespace MelodyAutomation

variable {R : Type} [Machine R]

/-! ## Plain literals -/

namespace Value

mutual

/-- Whether a copy of a literal in which records are maps is the literal itself: there
are no records in it, and its sets list their members as their copies do. -/
def IsPlain : Value R → Prop
  | list items => AllPlain items
  | tuple items => AllPlain items
  | set members => relisted members = members
  | map entries => AllEntriesPlain entries
  | record _ _ => False
  | circular _ _ => False
  | _ => True

/-- Whether all items of a list are plain. -/
def AllPlain : List (Value R) → Prop
  | [] => True
  | item :: rest => item.IsPlain ∧ AllPlain rest

/-- Whether all keys and values of a map are plain. -/
def AllEntriesPlain : Entries R → Prop
  | [] => True
  | (key, value) :: rest =>
      key.IsPlain ∧ value.IsPlain ∧ AllEntriesPlain rest

end

mutual

/-- A copy of a plain literal in which records are maps is the literal itself. -/
theorem flatten_copied_of_isPlain : (value : Value R) → value.IsPlain →
    value.copied.flatten = value
  | null, _ => rfl
  | bool _, _ => rfl
  | int _, _ => rfl
  | real _, _ => rfl
  | text _, _ => rfl
  | bytes _, _ => rfl
  | date _, _ => rfl
  | moment _, _ => rfl
  | list items, plain => by
      rw [IsPlain] at plain
      rw [copied, flatten, flattenItems_copiedItems_of_allPlain items plain]
  | tuple items, plain => by
      rw [IsPlain] at plain
      rw [copied, flatten, flattenItems_copiedItems_of_allPlain items plain]
  | set members, plain => by
      rw [IsPlain] at plain
      simp only [copied, plain, flatten]
  | map entries, plain => by
      rw [IsPlain] at plain
      rw [copied, flatten,
        flattenEntries_copiedEntries_of_allEntriesPlain entries plain]
  | record _ _, plain => by
      rw [IsPlain] at plain
      exact plain.elim
  | circular _ _, plain => by
      rw [IsPlain] at plain
      exact plain.elim

theorem flattenItems_copiedItems_of_allPlain : (items : List (Value R)) →
    AllPlain items → flattenItems (copiedItems items) = items
  | [], _ => rfl
  | item :: rest, plain => by
      rw [AllPlain] at plain
      rw [copiedItems, flattenItems, flatten_copied_of_isPlain item plain.1,
        flattenItems_copiedItems_of_allPlain rest plain.2]

theorem flattenEntries_copiedEntries_of_allEntriesPlain :
    (entries : Entries R) → AllEntriesPlain entries →
      flattenEntries (copiedEntries entries) = entries
  | [], _ => rfl
  | (key, value) :: rest, plain => by
      rw [AllEntriesPlain] at plain
      rw [copiedEntries, flattenEntries, flatten_copied_of_isPlain key plain.1,
        flatten_copied_of_isPlain value plain.2.1,
        flattenEntries_copiedEntries_of_allEntriesPlain rest plain.2.2]

end

end Value

namespace Settings

/-- The settings of which some are given and the others have their defaults: what a record
that is made from the given ones holds. -/
def giving (given : List (Setting × Value R)) : Settings R :=
  ⟨fun setting => (given.lookup setting).getD (default.value setting)⟩

/-- All settings, copied to their ends, with records as maps. -/
def spelledOut (settings : Settings R) : List (Setting × Value R) :=
  Setting.all.map fun setting =>
    (setting, (settings.value setting).copied.flatten)

/-- The entries of a settings record are all its settings under their names. -/
theorem configurationEntries_toValue
    {settings : Settings R}
    (ends : settings.toValue.hasEnd) :
    configurationEntries settings.toValue =
      .ok (underNames settings.spelledOut).toKeyed := by
  rw [toValue] at ends
  rw [toValue, configurationEntries]
  simp only [ends, if_true]
  rfl

theorem configurationEntries_map (entries : Entries R) :
    configurationEntries (.map entries) = .ok entries := by
  cases entries <;> rfl

theorem map_fst_spelledOut (settings : Settings R) :
    settings.spelledOut.map Prod.fst = Setting.all := rfl

theorem nodup_spelledOut (settings : Settings R) :
    (settings.spelledOut.map Prod.fst).Nodup := by
  rw [map_fst_spelledOut]
  decide

theorem lookup_spelledOut
    (settings : Settings R)
    (setting : Setting) :
    settings.spelledOut.lookup setting =
      some (settings.value setting).copied.flatten := by
  cases setting <;> rfl

/-- The defaults are plain. -/
theorem isPlain_default (setting : Setting) :
    ((default : Settings R).value setting).IsPlain := by
  cases setting <;> simp [default, Value.IsPlain, Value.AllEntriesPlain]

/-- The defaults, changed by all settings of a record and then by options, are the defaults
changed by the given settings and then by the options. -/
theorem changedBy_spelledOut
    {given : List (Setting × Value R)}
    {options : Named (Value R)}
    (distinct : (given.map Prod.fst).Nodup)
    (apart : options.names.Nodup)
    (plain : ∀ entry ∈ given, entry.2.IsPlain ∨ DecidedBy options entry.1)
    (last : ∀ setting ∉ given.map Prod.fst, ∀ value,
      olderHeard? setting options = some value →
        given? setting options.toKeyed = some value) :
    (default : Settings R).changedBy
        ((underNames (giving given).spelledOut).overlay options).toKeyed =
      default.changedBy ((underNames given).overlay options).toKeyed := by
  -- Setting by setting. The record says something about each of them, the map about the
  -- given ones alone; about the others, the options are left against the default.
  ext setting
  simp only [changedBy]
  rw [given?_overlay_of_mem (nodup_spelledOut _) apart (lookup_spelledOut _ setting)]
  cases found : given.lookup setting with
  | some value =>
      rw [given?_overlay_of_mem distinct apart found]
      have own : (giving given).value setting = value := by
        simp [giving, found]
      rw [own]
      rcases plain _ (mem_of_lookup found) with isPlain | decided
      · rw [Value.flatten_copied_of_isPlain value isPlain]
      · rw [overlaid_of_decidedBy apart decided _ value]
  | none =>
      have absent := lookup_eq_none_iff_not_mem.mp found
      have own : (giving given).value setting = default.value setting := by
        simp [giving, found]
      rw [given?_overlay_of_not_mem distinct absent, own,
        Value.flatten_copied_of_isPlain _ (isPlain_default setting)]
      cases older : olderHeard? setting options with
      | some value => rw [last setting absent value older, Option.some_or]
      | none =>
          rw [given?_of_olderHeard?_eq_none apart older, Option.none_or]
          cases options.lookup setting.name with
          | some value => rfl
          | none => exact heard?_getD_self _

/-- Settings in a record lead to the settings to which they lead in a map. -/
theorem ofConfiguration_giving
    {given : List (Setting × Value R)}
    {options : Named (Value R)}
    (distinct : (given.map Prod.fst).Nodup)
    (apart : options.names.Nodup)
    (ends : (giving given).toValue.hasEnd)
    (plain : ∀ entry ∈ given, entry.2.IsPlain ∨ DecidedBy options entry.1)
    (last : ∀ setting ∉ given.map Prod.fst, ∀ value,
      olderHeard? setting options = some value →
        given? setting options.toKeyed = some value) :
    ofConfiguration (giving given).toValue options.toKeyed =
      ofConfiguration (.map (underNames given).toKeyed) options.toKeyed := by
  rw [ofConfiguration, ofConfiguration, configurationEntries_toValue ends,
    configurationEntries_map, Attempt.ok_bind, Attempt.ok_bind,
    Named.merge_toKeyed (nodup_underNames (nodup_spelledOut _)) apart,
    Named.merge_toKeyed (nodup_underNames distinct) apart, ofEntries_eq,
    ofEntries_eq, unknown?_overlay, unknown?_overlay,
    changedBy_spelledOut distinct apart plain last]

end Settings

namespace Instrument

/-- A record and the map from which it was made build the same instrument, on every stage
and with the same refusals and reports, under any options. The given settings are in any
order. Each of them is plain, or decided by the options anyway. An option under the older
name of a setting that is not given is the last one that says something about it. -/
theorem make_record_eq_make_map
    {given : List (Setting × Value R)}
    {options : Named (Value R)}
    (distinct : (given.map Prod.fst).Nodup)
    (apart : options.names.Nodup)
    (ends : (Settings.giving given).toValue.hasEnd)
    (plain : ∀ entry ∈ given,
      entry.2.IsPlain ∨ Settings.DecidedBy options entry.1)
    (last : ∀ setting ∉ given.map Prod.fst, ∀ value,
      Settings.olderHeard? setting options = some value →
        Settings.given? setting options.toKeyed = some value) :
    make (Settings.giving given).toValue options.toKeyed =
      make (.map (Settings.underNames given).toKeyed) options.toKeyed := by
  rw [make, make, Settings.ofConfiguration_giving distinct apart ends plain last]

/-- The settings of a voice with an envelope of each plain form, and with an octave that is
no number. -/
def bellSettings : List (Setting × Value Float) :=
  [(.envelopes, .map
      [(.text "osc.gain", .text "plucked-string"),
        (.text "noise.gain", .list
          [.list [.int 0, .int 1], .tuple [.int 1, .int 0]])]),
    (.octave, .record .named [.text "plucked-string"]),
    (.msPerBeat, .int 500)]

/-- Options that decide the octave, and that name settings by older names before their own
ones and after them. -/
def bellOptions : Named (Value Float) :=
  [("temp", .int 250), ("oct", .int 1), ("ms_per_beat", .int 300),
    ("master_gain", .int 1), ("masterGain", .real 0.5)]

theorem make_record_eq_make_map_of_bell :
    make (Settings.giving bellSettings).toValue bellOptions.toKeyed =
        make (.map (Settings.underNames bellSettings).toKeyed)
          bellOptions.toKeyed ∧
      ((make (Settings.giving bellSettings).toValue bellOptions.toKeyed).run
        (Stage.openTape 0.0 .manual true)).1.outcome.isOk = true := by
  refine ⟨make_record_eq_make_map (by decide) (by decide) (by decide +kernel)
    ?_ ?_, by decide +kernel⟩
  · intro entry member
    simp only [bellSettings, List.mem_cons, List.not_mem_nil, or_false] at member
    rcases member with rfl | rfl | rfl
    · left
      simp [Value.IsPlain, Value.AllPlain, Value.AllEntriesPlain]
    · right
      exact .inr (by decide)
    · left
      trivial
  · intro setting absent value older
    cases setting with
    | msPerBeat => exact absurd (by decide) absent
    | octave => exact absurd (by decide) absent
    | envelopes => exact absurd (by decide) absent
    | oscillator => cases older
    | filter => cases older
    | noise => cases older
    | modulation => cases older
    | masterGain => rw [← older]; rfl

/-! ## Envelope records -/

/-- The settings of a voice with an envelope that is given as a record. -/
def pluckedSettings : List (Setting × Value Float) :=
  [(.envelopes, .map
    [(.text "osc.gain", .record .named [.text "plucked-string"])])]

/-- An envelope record in a settings record is no longer an envelope when it is read, and
the map that holds the same record describes a voice. -/
theorem make_record_refuses_named_envelope :
    ((make (Settings.giving pluckedSettings).toValue []).run
        (Stage.openTape 0.0 .manual true)).1.outcome.isOk = false ∧
      ((make (.map (Settings.underNames pluckedSettings).toKeyed) []).run
        (Stage.openTape 0.0 .manual true)).1.outcome.isOk = true := by
  constructor <;> decide +kernel

end Instrument
end MelodyAutomation

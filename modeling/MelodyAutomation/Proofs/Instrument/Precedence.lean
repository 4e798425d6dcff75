import MelodyAutomation.Proofs.Instrument.Configuration

/-!
# Options and a configuration

Options are stored over a configuration, and what comes out is read as one literal. An
option whose name is new to the configuration stands behind everything that the
configuration says, and so it is heard. An option whose name is there already takes the
place of what was stored under it, and not a later one: if the configuration says
something about the same setting further on, under another of its names, then that is
heard, and not the option.
-/

namespace MelodyAutomation

variable {R : Type}

namespace Settings

/-- What is said about a setting behind the place that a name has, if it has one. -/
def heardBehind? (setting : Setting) (name : String) :
    Named (Value R) → Option (Value R)
  | [] => none
  | pair :: rest =>
      if pair.1 = name then given? setting (Named.toKeyed rest)
      else heardBehind? setting name rest

/-- Nothing stands behind a name that has no place. -/
theorem heardBehind?_of_not_mem
    {setting : Setting}
    {name : String}
    {pairs : Named (Value R)}
    (absent : name ∉ pairs.names) :
    heardBehind? setting name pairs = none := by
  induction pairs with
  | nil => rfl
  | cons pair rest hypothesis =>
      simp only [Named.names, List.map_cons, List.mem_cons, not_or] at absent
      rw [heardBehind?, if_neg (Ne.symm absent.1), hypothesis absent.2]

/-- Nothing in a literal is unknown exactly when each name stands for a setting. -/
theorem unknown?_toKeyed_eq_none
    {pairs : Named (Value R)} :
    unknown? (pairs.toKeyed : Entries R) = none ↔
      ∀ name ∈ pairs.names, (Setting.ofName? name).isSome := by
  induction pairs with
  | nil => simp [unknown?, Named.toKeyed]
  | cons pair rest hypothesis =>
      rw [unknown?_toKeyed_cons]
      split_ifs with known
      · simpa [known] using hypothesis
      · simp [known]

@[simp] theorem value_changedBy
    (settings : Settings R)
    (entries : Entries R)
    (setting : Setting) :
    (settings.changedBy entries).value setting =
      (given? setting entries).getD (settings.value setting) := rfl

/-! ## Options in the places of a configuration -/

/-- The pairs of a configuration with options in their places. -/
def replacedBy (config options : Named (Value R)) : Named (Value R) :=
  config.map fun pair => (pair.1, (options.lookup pair.1).getD pair.2)

theorem overlay_eq_replacedBy (config options : Named (Value R)) :
    config.overlay options =
      replacedBy config options ++ options.without config.names := rfl

/-- Options say nothing about a setting for which none of their names stands. -/
theorem given?_eq_none_of_unnamed
    {setting : Setting}
    {options : Named (Value R)}
    (unnamed : ∀ option ∈ options, Setting.ofName? option.1 ≠ some setting) :
    given? setting options.toKeyed = none := by
  induction options with
  | nil => rfl
  | cons option rest hypothesis =>
      obtain ⟨own, others⟩ := List.forall_mem_cons.1 unnamed
      rw [given?_toKeyed_cons, hypothesis others, if_neg own, Option.none_or]

/-- Where no option stands in a place of a setting, the configuration says about it what
it said before. -/
theorem given?_replacedBy
    {setting : Setting}
    {config options : Named (Value R)}
    (untouched : ∀ option ∈ options, option.1 ∈ config.names →
      Setting.ofName? option.1 ≠ some setting) :
    given? setting (replacedBy config options).toKeyed =
      given? setting config.toKeyed := by
  induction config with
  | nil => rfl
  | cons pair rest hypothesis =>
      have later := hypothesis fun option member place =>
        untouched option member (List.mem_cons_of_mem _ place)
      have unfolded : replacedBy (pair :: rest) options =
        (pair.1, (options.lookup pair.1).getD pair.2) :: replacedBy rest options := rfl
      rw [unfolded, given?_toKeyed_cons, given?_toKeyed_cons, later]
      by_cases named : Setting.ofName? pair.1 = some setting
      · have kept : options.lookup pair.1 = none := by
          rw [lookup_eq_none_iff_not_mem]
          intro present
          obtain ⟨option, member, same⟩ := List.mem_map.1 present
          exact untouched option member (by simp [same]) (same ▸ named)
        rw [kept, Option.getD_none]
      · rw [if_neg named, if_neg named]

/-- About a setting that no option names, all is said by the configuration. -/
theorem given?_overlay_of_unnamed
    {setting : Setting}
    {config options : Named (Value R)}
    (unnamed : ∀ option ∈ options, Setting.ofName? option.1 ≠ some setting) :
    given? setting (config.overlay options).toKeyed =
      given? setting config.toKeyed := by
  have silent : given? setting (options.without config.names).toKeyed = none :=
    given?_eq_none_of_unnamed fun option member =>
      unnamed option (List.mem_of_mem_filter member)
  rw [overlay_eq_replacedBy, given?_toKeyed_append, silent, Option.none_or,
    given?_replacedBy fun option member _ => unnamed option member]

variable {setting : Setting} {config options : Named (Value R)} {option : String × Value R}

/-- An option whose name has a place in the configuration is heard there. -/
theorem given?_replacedBy_of_mem
    (distinct : config.names.Nodup)
    (apart : options.names.Nodup)
    (member : option ∈ options)
    (present : option.2.isNull = false)
    (named : Setting.ofName? option.1 = some setting)
    (single : ∀ other ∈ options, Setting.ofName? other.1 = some setting →
      other = option)
    (place : option.1 ∈ config.names) :
    given? setting (replacedBy config options).toKeyed =
      (heardBehind? setting option.1 config).or (some option.2) := by
  induction config with
  | nil => cases place
  | cons pair rest hypothesis =>
      obtain ⟨fresh, distinct⟩ := List.nodup_cons.1 distinct
      have unfolded : replacedBy (pair :: rest) options =
        (pair.1, (options.lookup pair.1).getD pair.2) :: replacedBy rest options := rfl
      rw [unfolded, given?_toKeyed_cons, heardBehind?]
      by_cases same : pair.1 = option.1
      · -- This is the place, and no option has another one.
        have untouched : given? setting (replacedBy rest options).toKeyed =
            given? setting (Named.toKeyed rest) :=
          given?_replacedBy fun other within inside standsFor =>
            fresh (same ▸ single other within standsFor ▸ inside)
        rw [untouched, if_pos same, same, if_pos named, lookup_of_mem apart member]
        simp [heard?, Option.filter, present]
      · have later := hypothesis distinct
          ((List.mem_cons.1 place).resolve_left (Ne.symm same))
        rw [later, if_neg same, Option.or_assoc, Option.some_or]

/-- An option is heard, unless the configuration says something behind its place. -/
theorem given?_overlay_of_mem_options
    (distinct : config.names.Nodup)
    (apart : options.names.Nodup)
    (member : option ∈ options)
    (present : option.2.isNull = false)
    (named : Setting.ofName? option.1 = some setting)
    (single : ∀ other ∈ options, Setting.ofName? other.1 = some setting →
      other = option) :
    given? setting (config.overlay options).toKeyed =
      (heardBehind? setting option.1 config).or (some option.2) := by
  rw [overlay_eq_replacedBy, given?_toKeyed_append]
  by_cases place : option.1 ∈ config.names
  · have silent : given? setting (options.without config.names).toKeyed = none := by
      apply given?_eq_none_of_unnamed
      intro other within standsFor
      obtain ⟨kept, free⟩ := List.mem_filter.1 within
      obtain rfl := single other kept standsFor
      simp [place] at free
    rw [silent, Option.none_or,
      given?_replacedBy_of_mem distinct apart member present named single place]
  · have own : given? setting (options.without config.names).toKeyed = some option.2 := by
      rw [given?_of_only named (Named.nodup_without apart _) fun other within standsFor =>
          .inl (congrArg Prod.fst (single other (List.mem_of_mem_filter within) standsFor)),
        Named.lookup_without place, lookup_of_mem apart member]
      simp [heard?, Option.filter, present]
    rw [own, heardBehind?_of_not_mem place]
    rfl

/-- The names of a configuration with options stored over it: its own, and then those that
are new. -/
theorem names_overlay (config options : Named (Value R)) :
    (config.overlay options).names =
      config.names ++ (options.without config.names).names := by
  simp [Named.overlay, Named.names]

variable [Machine R]

/-- The entries of a configuration that is a map, or a map that contains itself. -/
theorem configurationEntries_of_exposed
    {configuration : Value R}
    {entries : Entries R}
    (exposed : configuration.exposed = .map entries) :
    configurationEntries configuration = .ok entries := by
  cases configuration with
  | map own =>
      cases exposed
      exact configurationEntries_map entries
  | circular label collection =>
      have spread : configurationEntries (.circular label collection) =
        (Value.circular label collection).toSpread := rfl
      rw [spread, Value.toSpread, exposed]
  | _ => cases exposed

theorem ofValue_of_exposed
    {configuration : Value R}
    {entries : Entries R}
    (exposed : configuration.exposed = .map entries) :
    ofValue configuration = ofEntries entries := by
  rw [ofValue, Value.toEntries, exposed]
  rfl

/-- Options and a configuration that describe settings are all known, and the settings
are the defaults as the configuration with the options over it changes them. -/
theorem of_ofConfiguration
    {configuration : Value R}
    {config options : Named (Value R)}
    (exposed : configuration.exposed = .map config.toKeyed)
    (distinct : config.names.Nodup)
    (apart : options.names.Nodup)
    {settings : Settings R}
    (described : ofConfiguration configuration options.toKeyed = .ok settings) :
    ofValue configuration = .ok (default.changedBy config.toKeyed) ∧
      (∀ option ∈ options, (Setting.ofName? option.1).isSome) ∧
      settings = default.changedBy (config.overlay options).toKeyed := by
  rw [ofConfiguration, configurationEntries_of_exposed exposed] at described
  split at described
  · cases described
  · rw [Attempt.ok_bind, Named.merge_toKeyed distinct apart, ofEntries_eq] at described
    cases unknown : unknown? ((config.overlay options).toKeyed : Entries R) with
    | some entry => simp [unknown] at described
    | none =>
        rw [unknown] at described
        have known := unknown?_toKeyed_eq_none.1 unknown
        rw [names_overlay] at known
        refine ⟨?_, fun option member => ?_, (Except.ok.inj described).symm⟩
        · have own := unknown?_toKeyed_eq_none.2 fun name place =>
            known name (List.mem_append_left _ place)
          rw [ofValue_of_exposed exposed, ofEntries_eq, own]
        · refine known option.1 (List.mem_append.2 ?_)
          by_cases place : option.1 ∈ config.names
          · exact .inl place
          · exact .inr (List.mem_map_of_mem (List.mem_filter.2 ⟨member, by simpa using place⟩))

end Settings

namespace Instrument

variable [Machine R]

/-- An instrument has the settings from which it was built. -/
theorem settings_of_reaches_build
    {settings : Settings R}
    {stage final : Stage R}
    {instrument : Instrument R}
    (reaches : (build settings).Reaches stage instrument final) :
    instrument.settings = settings := by
  unfold build at reaches
  obtain ⟨plan, _, reaches⟩ := reaches.of_bind
  obtain ⟨oscillator, _, reaches⟩ := reaches.of_bind
  obtain ⟨noise, _, reaches⟩ := reaches.of_bind
  obtain ⟨filter, _, reaches⟩ := reaches.of_bind
  obtain ⟨envelopes, _, reaches⟩ := reaches.of_bind
  obtain ⟨modulation, _, reaches⟩ := reaches.of_bind
  obtain ⟨modulators, _, reaches⟩ := reaches.of_bind
  obtain ⟨scheduler, _, reaches⟩ := reaches.of_bind
  obtain ⟨now, _, reaches⟩ := reaches.of_bind
  obtain ⟨_, _, reaches⟩ := reaches.of_bind
  obtain ⟨_, _, reaches⟩ := reaches.of_bind
  obtain ⟨number, _, reaches⟩ := reaches.of_bind
  obtain ⟨rfl, -⟩ := Session.reaches_pure.1 reaches
  rfl

theorem settings_of_reaches_make
    {configuration : Value R}
    {options : Entries R}
    {stage final : Stage R}
    {instrument : Instrument R}
    (reaches : (make configuration options).Reaches stage instrument final) :
    Settings.ofConfiguration configuration options = .ok instrument.settings := by
  simp only [make, Session.reaches_bind, Session.reaches_attempt] at reaches
  obtain ⟨settings, _, ⟨described, rfl⟩, built⟩ := reaches
  rw [settings_of_reaches_build built, described]

/-- Of options that name different settings, each wins over a configuration, unless the
configuration has its name and says something about the same setting further on, under
another name. A setting that no option names is as the configuration alone describes
it. -/
theorem options_win
    {configuration : Value R}
    {config options : Named (Value R)}
    (exposed : configuration.exposed = .map config.toKeyed)
    (distinct : config.names.Nodup)
    (apart : (options.names.map Setting.ofName?).Nodup)
    (present : ∀ option ∈ options, option.2.isNull = false)
    {stage final : Stage R}
    {instrument : Instrument R}
    (reaches : (make configuration options.toKeyed).Reaches stage instrument final) :
    ∃ base, Settings.ofValue configuration = .ok base ∧
      (∀ option ∈ options, ∃ setting, Setting.ofName? option.1 = some setting ∧
        instrument.settings.value setting =
          (Settings.heardBehind? setting option.1 config).getD option.2) ∧
      ∀ setting, (∀ option ∈ options, Setting.ofName? option.1 ≠ some setting) →
        instrument.settings.value setting = base.value setting := by
  obtain ⟨base, known, same⟩ := Settings.of_ofConfiguration exposed distinct
    (apart.of_map _) (settings_of_reaches_make reaches)
  have single {first second : String × Value R} (within : first ∈ options)
      (inside : second ∈ options)
      (alike : Setting.ofName? first.1 = Setting.ofName? second.1) : first = second := by
    rw [List.map_map] at apart
    exact List.inj_on_of_nodup_map apart within inside alike
  refine ⟨_, base, fun option member => ?_, fun setting unnamed => ?_⟩
  · obtain ⟨setting, named⟩ := Option.isSome_iff_exists.1 (known option member)
    refine ⟨setting, named, ?_⟩
    have heard := Settings.given?_overlay_of_mem_options distinct (apart.of_map _) member
      (present option member) named fun other within standsFor =>
        single within member (standsFor.trans named.symm)
    rw [same, Settings.value_changedBy, heard, Option.getD_or, Option.getD_some]
  · rw [same, Settings.value_changedBy, Settings.given?_overlay_of_unnamed unnamed,
      Settings.value_changedBy]

/-- A configuration with older names and own ones, in which a tempo is followed by
nothing else that is said about it. -/
def mixedConfig : Named (Value Float) :=
  [("masterGain", .real 0.5), ("temp", .int 500), ("oct", .int 1), ("ms_per_beat", .null)]

/-- Options under an older name that the configuration has, and under an own name that
it lacks. -/
def mixedOptions : Named (Value Float) :=
  [("temp", .int 250), ("octave", .int 2)]

theorem options_win_of_mixed :
    ∃ instrument final base,
      (make (.map mixedConfig.toKeyed) mixedOptions.toKeyed).Reaches
        (Stage.openTape 0.0 .manual true) instrument final ∧
      Settings.ofValue (.map mixedConfig.toKeyed) = .ok base ∧
      instrument.settings.value .msPerBeat = .int 250 ∧
      instrument.settings.value .octave = .int 2 ∧
      instrument.settings.value .masterGain = base.value .masterGain := by
  obtain ⟨instrument, made⟩ := Attempt.exists_of_isOk (show
    ((make (.map mixedConfig.toKeyed) mixedOptions.toKeyed).run
      (Stage.openTape 0.0 .manual true)).1.outcome.isOk = true by decide +kernel)
  have reaches : (make (.map mixedConfig.toKeyed) mixedOptions.toKeyed).Reaches
      (Stage.openTape 0.0 .manual true) instrument _ := ⟨made, rfl⟩
  obtain ⟨base, known, options, others⟩ := options_win rfl (by decide) (by decide)
    (by decide) reaches
  refine ⟨instrument, _, base, reaches, known, ?_, ?_, ?_⟩
  · obtain ⟨setting, named, value⟩ := options ("temp", .int 250) (by simp [mixedOptions])
    cases named
    exact value
  · obtain ⟨setting, named, value⟩ := options ("octave", .int 2) (by simp [mixedOptions])
    cases named
    exact value
  · exact others .masterGain (by decide)

/-- A configuration with two names for the tempo. -/
def doubledConfig : Named (Value Float) :=
  [("temp", .int 100), ("ms_per_beat", .int 200)]

/-- An option under the first of two names for the tempo is overruled by what the
configuration says under the second. -/
theorem option_is_overruled :
    ∃ instrument final,
      (make (.map doubledConfig.toKeyed) (Named.toKeyed [("temp", .int 300)])).Reaches
        (Stage.openTape 0.0 .manual true) instrument final ∧
      Setting.ofName? "temp" = some .msPerBeat ∧
      instrument.settings.value .msPerBeat = .int 200 ∧
      instrument.settings.value .msPerBeat ≠ .int 300 := by
  obtain ⟨instrument, made⟩ := Attempt.exists_of_isOk (show
    ((make (.map doubledConfig.toKeyed) (Named.toKeyed [("temp", .int 300)])).run
      (Stage.openTape 0.0 .manual true)).1.outcome.isOk = true by decide +kernel)
  have reaches : (make (.map doubledConfig.toKeyed)
      (Named.toKeyed [("temp", .int 300)])).Reaches
        (Stage.openTape 0.0 .manual true) instrument _ := ⟨made, rfl⟩
  obtain ⟨-, -, same⟩ := Settings.of_ofConfiguration rfl (by decide) (by decide)
    (settings_of_reaches_make reaches)
  have overruled : instrument.settings.value .msPerBeat = .int 200 := by
    rw [same]
    rfl
  refine ⟨instrument, _, reaches, rfl, overruled, fun won => ?_⟩
  cases overruled.symm.trans won

end Instrument
end MelodyAutomation

import MelodyAutomation.Proofs.Outcome
import MelodyAutomation.Proofs.Value.Keys
import MelodyAutomation.Settings
import Mathlib.Data.List.Nodup

/-!
# What a settings literal says

The entries of a settings literal are read one after another. What comes out has a
closed form: the first entry whose key names no setting is what the literal is refused
for; without one, every setting has the value of the last entry that names it with a
value that is not null, and its default where there is none.
-/

namespace MelodyAutomation

variable {R : Type}

namespace Setting

/-- A setting is named by its name and by its older one alone. -/
theorem ofName?_eq_some
    {name : String}
    {setting : Setting} :
    ofName? name = some setting ↔
      name = setting.name ∨ setting.olderName? = some name := by
  constructor
  · intro named
    have found := List.find?_some named
    rw [Bool.or_eq_true, beq_iff_eq, beq_iff_eq] at found
    exact found.imp_left Eq.symm
  · rintro (rfl | older)
    · exact ofName?_name setting
    · exact ofName?_of_olderName? older

theorem name_injective : Function.Injective name := by
  intro first second same
  have named := ofName?_name first
  rw [same, ofName?_name second] at named
  exact (Option.some.inj named).symm

/-- An older name is the name of no setting. -/
theorem ne_name_of_olderName?
    {setting : Setting}
    {older : String}
    (isOlder : setting.olderName? = some older)
    (other : Setting) :
    older ≠ other.name := by
  cases setting <;> cases isOlder <;> cases other <;> decide

end Setting

namespace Settings

/-- The first entry whose key names no setting. -/
def unknown? (entries : Entries R) : Option (Value R × Value R) :=
  List.find? (fun entry => (Setting.ofKey? entry.1).isNone) entries

/-- What an entry says about a setting: its value, if its key names the setting and it
is not null. -/
def said? (setting : Setting) (entry : Value R × Value R) : Option (Value R) :=
  if Setting.ofKey? entry.1 = some setting ∧ entry.2.isNull = false then
    some entry.2
  else none

/-- What the last of some entries that say something about a setting says. -/
def given? (setting : Setting) : Entries R → Option (Value R)
  | [] => none
  | entry :: rest => (given? setting rest).or (said? setting entry)

/-- Settings with everything changed about which some entries say something. -/
def changedBy (settings : Settings R) (entries : Entries R) : Settings R :=
  ⟨fun setting => (given? setting entries).getD (settings.value setting)⟩

theorem given?_append
    (setting : Setting)
    (entries more : Entries R) :
    given? setting (entries ++ more) =
      (given? setting more).or (given? setting entries) := by
  induction entries with
  | nil => simp [given?]
  | cons entry rest hypothesis => simp [given?, hypothesis, Option.or_assoc]

/-- An entry is taken into account before the ones that follow. -/
theorem changedBy_cons
    {settings next : Settings R}
    {entry : Value R × Value R}
    (applied : settings.applyEntry entry = .ok next)
    (rest : Entries R) :
    settings.changedBy (entry :: rest) = next.changedBy rest := by
  obtain ⟨key, value⟩ := entry
  unfold applyEntry at applied
  ext setting
  cases named : Setting.ofKey? key with
  | none => simp [named] at applied
  | some own =>
      simp only [named, Except.ok.injEq] at applied
      subst applied
      simp only [changedBy, given?, said?, named, Option.getD_or]
      congr 1
      cases value.isNull with
      | true => simp
      | false =>
          by_cases same : setting = own
          · simp [set, same]
          · simp [set, same, Ne.symm same]

/-! ## Entries under names -/

/-- A value, unless it is null. -/
def heard? (value : Option (Value R)) : Option (Value R) :=
  value.filter fun value => !value.isNull

/-- What is said under a name is heard if the name stands for the setting. -/
theorem given?_toKeyed_cons
    (setting : Setting)
    (option : String × Value R)
    (rest : Named (Value R)) :
    given? setting (Named.toKeyed (option :: rest)) =
      (given? setting rest.toKeyed).or
        (if Setting.ofName? option.1 = some setting then heard? (some option.2)
          else none) := by
  have unfolded : given? setting (Named.toKeyed (option :: rest)) =
      (given? setting rest.toKeyed).or
        (said? setting (.text option.1, option.2)) := rfl
  rw [unfolded]
  by_cases named : Setting.ofName? option.1 = some setting <;>
    cases null : option.2.isNull <;>
    simp [said?, named, heard?, null, Option.filter]

/-- If a name of a setting is the only one under which something is said about it, then
that is what the setting has. -/
theorem given?_of_only
    {setting : Setting}
    {name : String}
    (named : Setting.ofName? name = some setting)
    {options : Named (Value R)}
    (distinct : options.names.Nodup)
    (only : ∀ option ∈ options, Setting.ofName? option.1 = some setting →
      option.1 = name ∨ option.2.isNull) :
    given? setting options.toKeyed = heard? (options.lookup name) := by
  induction options with
  | nil => rfl
  | cons option rest hypothesis =>
      simp only [Named.names, List.map_cons, List.nodup_cons] at distinct
      have later := hypothesis distinct.2 fun other member =>
        only other (by simp [member])
      rw [given?_toKeyed_cons, later, lookup_cons_eq]
      by_cases same : name = option.1
      · subst same
        rw [lookup_eq_none_iff_not_mem.mpr distinct.1, if_pos named, if_pos rfl]
        rfl
      · rw [if_neg same]
        split_ifs with other
        · have null := (only option (by simp) other).resolve_left (Ne.symm same)
          simp [heard?, null, Option.filter]
        · simp

/-- Options that stand for other settings can be left out. -/
theorem given?_without
    {setting : Setting}
    {options : Named (Value R)}
    {taken : List String}
    (others : ∀ name ∈ taken, Setting.ofName? name ≠ some setting) :
    given? setting (options.without taken).toKeyed =
      given? setting options.toKeyed := by
  induction options with
  | nil => rfl
  | cons option rest hypothesis =>
      by_cases member : option.1 ∈ taken
      · rw [Named.without_cons_of_mem member, hypothesis, given?_toKeyed_cons,
          if_neg (others _ member), Option.or_none]
      · rw [Named.without_cons_of_not_mem member, given?_toKeyed_cons,
          given?_toKeyed_cons, hypothesis]

theorem unknown?_toKeyed_cons
    (option : String × Value R)
    (rest : Named (Value R)) :
    unknown? (Named.toKeyed (option :: rest)) =
      if (Setting.ofName? option.1).isSome then unknown? rest.toKeyed
      else some (.text option.1, option.2) := by
  cases known : Setting.ofName? option.1 <;>
    simp [unknown?, Named.toKeyed, known]

/-- Options that stand for settings can be left out when an unknown one is looked
for. -/
theorem unknown?_without
    {options : Named (Value R)}
    {taken : List String}
    (known : ∀ name ∈ taken, (Setting.ofName? name).isSome) :
    unknown? (options.without taken).toKeyed =
      unknown? (options.toKeyed : Entries R) := by
  induction options with
  | nil => rfl
  | cons option rest hypothesis =>
      by_cases member : option.1 ∈ taken
      · rw [Named.without_cons_of_mem member, hypothesis, unknown?_toKeyed_cons,
          if_pos (known _ member)]
      · rw [Named.without_cons_of_not_mem member, unknown?_toKeyed_cons,
          unknown?_toKeyed_cons, hypothesis]

/-! ## Options stored over settings -/

/-- Settings under their names, in the order in which they are given. -/
def underNames (given : List (Setting × Value R)) : Named (Value R) :=
  given.map fun entry => (entry.1.name, entry.2)

theorem nodup_underNames
    {given : List (Setting × Value R)}
    (distinct : (given.map Prod.fst).Nodup) :
    (underNames given).names.Nodup := by
  have same : (underNames given).names =
      (given.map Prod.fst).map Setting.name := by
    simp [underNames, Named.names]
  rw [same, List.nodup_map_iff Setting.name_injective]
  exact distinct

theorem name_mem_underNames
    {given : List (Setting × Value R)}
    {setting : Setting} :
    setting.name ∈ (underNames given).names ↔ setting ∈ given.map Prod.fst := by
  simp [underNames, Named.names, Setting.name_injective.eq_iff]

theorem lookup_underNames
    (given : List (Setting × Value R))
    (setting : Setting) :
    (underNames given).lookup setting.name = given.lookup setting := by
  induction given with
  | nil => rfl
  | cons entry rest hypothesis =>
      have unfolded : underNames (entry :: rest) =
        (entry.1.name, entry.2) :: underNames rest := rfl
      simp only [unfolded, lookup_cons_eq, hypothesis,
        Setting.name_injective.eq_iff]

/-- What is said about a setting that is given. -/
theorem given?_underNames
    {given : List (Setting × Value R)}
    (distinct : (given.map Prod.fst).Nodup)
    (setting : Setting) :
    given? setting (underNames given).toKeyed =
      heard? (given.lookup setting) := by
  rw [← lookup_underNames]
  apply given?_of_only (Setting.ofName?_name setting) (nodup_underNames distinct)
  intro option member named
  obtain ⟨entry, _, rfl⟩ := List.mem_map.mp member
  rw [Setting.ofName?_name, Option.some.injEq] at named
  exact .inl (congrArg Setting.name named)

/-- Options are stored over settings under their names; the others follow. -/
theorem overlay_underNames
    (given : List (Setting × Value R))
    (options : Named (Value R)) :
    (underNames given).overlay options =
      underNames (given.map fun entry =>
          (entry.1, (options.lookup entry.1.name).getD entry.2)) ++
        options.without (underNames given).names := by
  simp [Named.overlay, underNames]

/-- What options say about a setting under its older name. -/
def olderHeard? (setting : Setting) (options : Named (Value R)) :
    Option (Value R) :=
  setting.olderName?.bind fun older => heard? (options.lookup older)

theorem given?_toKeyed_append
    (setting : Setting)
    (first second : Named (Value R)) :
    given? setting (Named.toKeyed (first ++ second)) =
      (given? setting second.toKeyed).or (given? setting first.toKeyed) := by
  rw [← given?_append]
  simp [Named.toKeyed]

/-- Without its own name, a setting is named by its older one. -/
theorem given?_of_absent
    {options : Named (Value R)}
    (apart : options.names.Nodup)
    {setting : Setting}
    (absent : setting.name ∉ options.names) :
    given? setting options.toKeyed = olderHeard? setting options := by
  cases isOlder : setting.olderName? with
  | none =>
      rw [given?_of_only (Setting.ofName?_name setting) apart,
        lookup_eq_none_iff_not_mem.mpr absent, olderHeard?, isOlder]
      · rfl
      · intro option member named
        rcases Setting.ofName?_eq_some.mp named with own | older
        · exact .inl own
        · rw [isOlder] at older
          cases older
  | some older =>
      rw [given?_of_only (Setting.ofName?_of_olderName? isOlder) apart,
        olderHeard?, isOlder]
      · rfl
      · intro option member named
        rcases Setting.ofName?_eq_some.mp named with own | same
        · exact absurd own (Named.ne_of_mem absent member)
        · rw [isOlder, Option.some.injEq] at same
          exact .inl same.symm

/-- If nothing is heard under its older name, a setting is named by its own one. -/
theorem given?_of_olderHeard?_eq_none
    {options : Named (Value R)}
    (apart : options.names.Nodup)
    {setting : Setting}
    (silent : olderHeard? setting options = none) :
    given? setting options.toKeyed =
      heard? (options.lookup setting.name) := by
  apply given?_of_only (Setting.ofName?_name setting) apart
  intro option member named
  rcases Setting.ofName?_eq_some.mp named with own | older
  · exact .inl own
  · rw [olderHeard?, older, Option.bind_some,
      lookup_of_mem apart member] at silent
    right
    simpa [heard?, Option.filter_eq_none_iff] using silent

/-- The options that are not stored in the place of given settings say about them what
is said under older names. -/
theorem given?_without_of_mem
    {given : List (Setting × Value R)}
    {options : Named (Value R)}
    (apart : options.names.Nodup)
    {setting : Setting}
    (member : setting ∈ given.map Prod.fst) :
    given? setting (options.without (underNames given).names).toKeyed =
      olderHeard? setting options := by
  rw [given?_of_absent (Named.nodup_without apart _)
    (Named.not_mem_names_without (name_mem_underNames.mpr member))]
  unfold olderHeard?
  cases isOlder : setting.olderName? with
  | none => rfl
  | some older =>
      have free : older ∉ (underNames given).names := by
        intro present
        obtain ⟨pair, under, same⟩ := List.mem_map.mp present
        obtain ⟨entry, _, rfl⟩ := List.mem_map.mp under
        exact Setting.ne_name_of_olderName? isOlder _ same.symm
      rw [Option.bind_some, Option.bind_some, Named.lookup_without free]

/-- Options stored over settings: those that keep their own places are heard first, and
then what is stored in the place of the setting. -/
theorem given?_overlay
    {given : List (Setting × Value R)}
    (distinct : (given.map Prod.fst).Nodup)
    (options : Named (Value R))
    (setting : Setting) :
    given? setting ((underNames given).overlay options).toKeyed =
      (given? setting (options.without (underNames given).names).toKeyed).or
        (heard? ((given.lookup setting).map fun value =>
          (options.lookup setting.name).getD value)) := by
  have updated : (given.map fun entry =>
      (entry.1, (options.lookup entry.1.name).getD entry.2)).map Prod.fst =
        given.map Prod.fst := by
    simp
  rw [overlay_underNames, given?_toKeyed_append,
    given?_underNames (updated ▸ distinct),
    lookup_map_snd given fun own old => (options.lookup own.name).getD old]

/-- Options stored over settings, seen from a setting that is given: its older name is
heard first, then its own one, and then what was given. -/
theorem given?_overlay_of_mem
    {given : List (Setting × Value R)}
    (distinct : (given.map Prod.fst).Nodup)
    {options : Named (Value R)}
    (apart : options.names.Nodup)
    {setting : Setting}
    {value : Value R}
    (found : given.lookup setting = some value) :
    given? setting ((underNames given).overlay options).toKeyed =
      (olderHeard? setting options).or
        (heard? (some ((options.lookup setting.name).getD value))) := by
  have member : setting ∈ given.map Prod.fst :=
    List.mem_map_of_mem (mem_of_lookup found)
  rw [given?_overlay distinct, given?_without_of_mem apart member, found,
    Option.map_some]

/-- Options stored over settings, seen from a setting that is not given. -/
theorem given?_overlay_of_not_mem
    {given : List (Setting × Value R)}
    (distinct : (given.map Prod.fst).Nodup)
    {options : Named (Value R)}
    {setting : Setting}
    (absent : setting ∉ given.map Prod.fst) :
    given? setting ((underNames given).overlay options).toKeyed =
      given? setting options.toKeyed := by
  rw [given?_overlay distinct, lookup_eq_none_iff_not_mem.mpr absent]
  simp only [Option.map_none, heard?, Option.filter_none, Option.or_none]
  apply given?_without
  intro name member named
  obtain ⟨pair, under, rfl⟩ := List.mem_map.mp member
  obtain ⟨entry, isGiven, rfl⟩ := List.mem_map.mp under
  rw [Setting.ofName?_name, Option.some.injEq] at named
  exact absent (named ▸ List.mem_map_of_mem isGiven)

/-- Options stored over settings are as unknown as they are on their own. -/
theorem unknown?_overlay
    (given : List (Setting × Value R))
    (options : Named (Value R)) :
    unknown? ((underNames given).overlay options).toKeyed =
      unknown? (options.toKeyed : Entries R) := by
  -- The settings in front are all known, whatever they hold.
  have named (given : List (Setting × Value R)) (more : Named (Value R)) :
      unknown? (Named.toKeyed (underNames given ++ more)) =
        unknown? (more.toKeyed : Entries R) := by
    induction given with
    | nil => rfl
    | cons entry rest hypothesis =>
        have unfolded : underNames (entry :: rest) ++ more =
          (entry.1.name, entry.2) :: (underNames rest ++ more) := rfl
        rw [unfolded, unknown?_toKeyed_cons, Setting.ofName?_name, hypothesis]
        rfl
  rw [overlay_underNames, named]
  apply unknown?_without
  intro name member
  obtain ⟨pair, under, rfl⟩ := List.mem_map.mp member
  obtain ⟨entry, _, rfl⟩ := List.mem_map.mp under
  simp

/-- Options decide a setting, whatever it was before: they have it under its own name,
or something that is not null under its older one. -/
def DecidedBy (options : Named (Value R)) (setting : Setting) : Prop :=
  setting.name ∈ options.names ∨ (olderHeard? setting options).isSome

/-- What options make of a setting that is given does not depend on what was given, if
they decide it. -/
theorem overlaid_of_decidedBy
    {options : Named (Value R)}
    (apart : options.names.Nodup)
    {setting : Setting}
    (decided : DecidedBy options setting)
    (first second : Value R) :
    (olderHeard? setting options).or
        (heard? (some ((options.lookup setting.name).getD first))) =
      (olderHeard? setting options).or
        (heard? (some ((options.lookup setting.name).getD second))) := by
  rcases decided with own | older
  · obtain ⟨option, member, same⟩ := List.mem_map.mp own
    have found := lookup_of_mem apart member
    rw [same] at found
    rw [found]
    rfl
  · obtain ⟨value, heard⟩ := Option.isSome_iff_exists.mp older
    rw [heard]
    rfl

theorem heard?_getD_self (value : Value R) :
    (heard? (some value)).getD value = value := by
  cases null : value.isNull <;> simp [heard?, Option.filter, null]

/-! ## The settings of a literal -/

variable [Scalar R]

/-- The entries of a settings literal are refused for the first one whose key names no
setting, or describe the defaults as changed by them. -/
theorem ofEntries_eq (entries : Entries R) :
    ofEntries entries =
      match unknown? entries with
      | some entry => .error (.configuration (.unknownSetting entry.1))
      | none => .ok (default.changedBy entries) := by
  unfold ofEntries
  -- The run starts from the defaults, but goes on from any settings.
  generalize (default : Settings R) = settings
  induction entries generalizing settings with
  | nil => rfl
  | cons entry rest hypothesis =>
      rw [List.foldlM_cons]
      cases named : Setting.ofKey? entry.1 with
      | none => simp [applyEntry, unknown?, named]
      | some own =>
          have known : unknown? (entry :: rest) = unknown? rest := by
            simp [unknown?, named]
          obtain ⟨next, applied⟩ : ∃ next,
              settings.applyEntry entry = .ok next := by
            simp [applyEntry, named]
          rw [applied, Attempt.ok_bind, hypothesis, known,
            changedBy_cons applied]

end Settings
end MelodyAutomation

import MelodyAutomation.Proofs.Settings
import MelodyAutomation.Proofs.Value.Obstacles
import MelodyAutomation.Scalar.Double

/-!
# What decides a setting

A setting can be named by two keys, and a key can come with a null. Of all entries that
name a setting, the last one whose value is not null decides it, whichever of the two
names it uses; where there is none, the setting has its default. So null entries can be
dropped, and if no two keys name the same setting, the entries can be put in any order.

A key that names no setting is refused, whatever comes with it. A key that cannot be
shown is refused as well, but then it cannot be told.
-/

namespace MelodyAutomation

variable {R : Type}

namespace Setting

/-- A key names a setting by its name or by its older one. -/
def NamedBy (setting : Setting) (key : Value R) : Prop :=
  key = .text setting.name ∨
    ∃ older, setting.olderName? = some older ∧ key = .text older

theorem ofKey?_eq_some {key : Value R} {setting : Setting} :
    ofKey? key = some setting ↔ setting.NamedBy key := by
  cases key with
  | text content =>
      rw [ofKey?_text, ofName?_eq_some, NamedBy]
      simp only [Value.text.injEq, exists_eq_right']
  | _ => simp [ofKey?, NamedBy]

/-- A key that is read as no setting names none. -/
theorem ofKey?_isNone {key : Value R} :
    (ofKey? key).isNone = true ↔ ∀ setting : Setting, ¬ setting.NamedBy key := by
  rw [Option.isNone_iff_eq_none, Option.eq_none_iff_forall_ne_some]
  simp only [ne_eq, ofKey?_eq_some]

end Setting

namespace Settings

/-- Every entry names a setting. -/
def AllNamed (entries : Entries R) : Prop :=
  ∀ entry ∈ entries, ∃ setting : Setting, setting.NamedBy entry.1

theorem unknown?_eq_none {entries : Entries R} :
    unknown? entries = none ↔ AllNamed entries := by
  simp only [unknown?, List.find?_eq_none, Setting.ofKey?_isNone, AllNamed, not_forall,
    not_not]

/-- The first entry that names no setting stands behind entries that do. -/
theorem unknown?_eq_some {entries : Entries R} {entry : Value R × Value R} :
    unknown? entries = some entry ↔
      (∀ setting : Setting, ¬ setting.NamedBy entry.1) ∧
        ∃ before after, entries = before ++ entry :: after ∧ AllNamed before := by
  rw [unknown?, List.find?_eq_some_iff_append, Setting.ofKey?_isNone]
  simp only [Bool.not_eq_true', Bool.eq_false_iff, ne_eq, Setting.ofKey?_isNone,
    not_forall, not_not, AllNamed]

/-! ## Who speaks last -/

/-- No entry gives a setting a value that is not null. -/
def Silent (setting : Setting) (entries : Entries R) : Prop :=
  ∀ entry ∈ entries, setting.NamedBy entry.1 → entry.2.isNull = true

/-- A value that is not null is the last one that some entries give a setting. -/
def LastGiven (setting : Setting) (entries : Entries R) (value : Value R) : Prop :=
  ∃ before key after, entries = before ++ (key, value) :: after ∧
    setting.NamedBy key ∧ value.isNull = false ∧ Silent setting after

theorem said?_eq_some
    {setting : Setting}
    {entry : Value R × Value R}
    {value : Value R} :
    said? setting entry = some value ↔
      setting.NamedBy entry.1 ∧ entry.2.isNull = false ∧ entry.2 = value := by
  rw [said?, Option.ite_none_right_eq_some, Setting.ofKey?_eq_some, Option.some.injEq,
    and_assoc]

theorem said?_eq_none {setting : Setting} {entry : Value R × Value R} :
    said? setting entry = none ↔
      (setting.NamedBy entry.1 → entry.2.isNull = true) := by
  simp [said?, Setting.ofKey?_eq_some]

theorem given?_eq_none {setting : Setting} {entries : Entries R} :
    given? setting entries = none ↔ Silent setting entries := by
  induction entries with
  | nil => simp [given?, Silent]
  | cons entry rest hypothesis =>
      rw [given?, Option.or_eq_none_iff, hypothesis, said?_eq_none, Silent, Silent,
        List.forall_mem_cons, and_comm]

/-- Entries give a setting what is said about it last. -/
theorem given?_eq_some
    {setting : Setting}
    {entries : Entries R}
    {value : Value R} :
    given? setting entries = some value ↔ LastGiven setting entries value := by
  induction entries with
  | nil => simp [given?, LastGiven]
  | cons entry rest hypothesis =>
      rw [given?, Option.or_eq_some_iff, hypothesis, given?_eq_none, said?_eq_some]
      constructor
      · rintro (⟨before, key, after, rfl, gives⟩ | ⟨silent, named, present, rfl⟩)
        · exact ⟨entry :: before, key, after, rfl, gives⟩
        · exact ⟨[], entry.1, rest, rfl, named, present, silent⟩
      · rintro ⟨before, key, after, split, named, present, silent⟩
        cases before with
        | nil =>
            obtain ⟨rfl, rfl⟩ := List.cons.inj split
            exact .inr ⟨silent, named, present, rfl⟩
        | cons first before =>
            obtain ⟨rfl, rfl⟩ := List.cons.inj split
            exact .inl ⟨before, key, after, rfl, named, present, silent⟩

/-! ## What can be dropped and reordered -/

/-- An entry with a value that is not null. -/
def isHeard (entry : Value R × Value R) : Bool := !entry.2.isNull

/-- Null entries say nothing. -/
theorem given?_filter_isHeard (setting : Setting) (entries : Entries R) :
    given? setting (entries.filter isHeard) = given? setting entries := by
  induction entries with
  | nil => rfl
  | cons entry rest hypothesis =>
      cases heard : isHeard entry with
      | true => rw [List.filter_cons_of_pos heard, given?, given?, hypothesis]
      | false =>
          have silent : said? setting entry = none :=
            said?_eq_none.2 fun _ => by simpa [isHeard] using heard
          rw [List.filter_cons_of_neg (by simp [heard]), given?, hypothesis, silent,
            Option.or_none]

/-- No two entries name the same setting. -/
def NamesApart (entries : Entries R) : Prop :=
  entries.Pairwise fun first second =>
    ∀ setting : Setting, setting.NamedBy first.1 → ¬ setting.NamedBy second.1

/-- If no two entries name the same setting, whatever one gives about it is what they
give. -/
theorem given?_eq_some_of_apart
    {entries : Entries R}
    (apart : NamesApart entries)
    {setting : Setting}
    {value : Value R} :
    given? setting entries = some value ↔
      ∃ entry ∈ entries, said? setting entry = some value := by
  induction entries with
  | nil => simp [given?]
  | cons entry rest hypothesis =>
      obtain ⟨own, apart⟩ := List.pairwise_cons.1 apart
      rw [given?, Option.or_eq_some_iff, hypothesis apart, given?_eq_none,
        List.exists_mem_cons_iff, or_comm]
      refine or_congr_left (and_iff_right_of_imp fun gives => ?_)
      intro other member named
      exact absurd named (own other member setting (said?_eq_some.1 gives).1)

theorem given?_perm
    {entries others : Entries R}
    (same : others.Perm entries)
    (apart : NamesApart entries)
    (setting : Setting) :
    given? setting others = given? setting entries := by
  have apartToo : NamesApart others :=
    same.symm.pairwise apart fun differ setting second first =>
      differ setting first second
  ext value
  rw [given?_eq_some_of_apart apart, given?_eq_some_of_apart apartToo]
  simp only [same.mem_iff]

/-! ## Settings literals -/

variable [Machine R]

/-- The refusal of a key shows the key and nothing else that could be in the way. -/
theorem told_unknownSetting (key : Value R) :
    (Failure.configuration (.unknownSetting key)).ToldUnless key.obstacle? :=
  Failure.toldUnless rfl

/-- Settings are decided alike by fewer entries in another order, as long as these give
every setting the same. -/
theorem ofEntries_alike
    {entries others : Entries R}
    {settings : Settings R}
    (described : ofEntries entries = .ok settings)
    (within : ∀ entry ∈ others, entry ∈ entries)
    (alike : ∀ setting, given? setting others = given? setting entries) :
    ofEntries others = .ok settings := by
  rw [ofEntries_eq] at described ⊢
  cases unknown : unknown? entries with
  | some entry =>
      rw [unknown] at described
      cases described
  | none =>
      have named := unknown?_eq_none.1 unknown
      have namedToo : unknown? others = none :=
        unknown?_eq_none.2 fun entry member => named entry (within entry member)
      have changed : default.changedBy others = default.changedBy entries := by
        ext setting
        simp only [changedBy, alike]
      rw [unknown] at described
      rw [namedToo, ← Except.ok.inj described, changed]

/-- What the entries of a literal make of the settings. -/
structure DecideSettings (entries : Entries R) : Prop where
  /-- A literal of these entries is refused for the first key that names no setting,
  whatever comes with it. -/
  refused : ¬ AllNamed entries → ∃ before key value after,
    entries = before ++ (key, value) :: after ∧ AllNamed before ∧
      (∀ setting : Setting, ¬ setting.NamedBy key) ∧
      ∀ literal : Value R, literal.toEntries = .ok entries →
        ofValue literal = .error (.configuration (.unknownSetting key))
  /-- The refusal is met, unless the key cannot be shown. -/
  told : ∀ key : Value R,
    (Failure.configuration (.unknownSetting key)).ToldUnless key.obstacle?
  /-- Otherwise a setting has the last value that is not null, or its default. -/
  decided : AllNamed entries → ∃ settings : Settings R,
    (∀ literal : Value R, literal.toEntries = .ok entries →
      ofValue literal = .ok settings) ∧
    ∀ setting,
      (∀ value, LastGiven setting entries value → settings.value setting = value) ∧
      (Silent setting entries → settings.value setting = default.value setting)
  /-- Null entries can be dropped. -/
  dropped : ∀ (others : Entries R) (settings : Settings R), others.Sublist entries →
    others.filter isHeard = entries.filter isHeard →
    ofValue (.map entries) = .ok settings → ofValue (.map others) = .ok settings
  /-- Entries that name different settings can be put in any order. -/
  reordered : ∀ (others : Entries R) (settings : Settings R), others.Perm entries →
    NamesApart entries →
    ofValue (.map entries) = .ok settings → ofValue (.map others) = .ok settings

/-- The entries of a settings literal decide the settings. -/
theorem entries_decide_settings (entries : Entries R) : DecideSettings entries := by
  have reads (literal : Value R) (given : literal.toEntries = .ok entries) :
      ofValue literal = ofEntries entries := by
    rw [ofValue, given, Attempt.ok_bind]
  refine ⟨fun unnamed => ?_, told_unknownSetting, fun named => ?_, ?_, ?_⟩
  · rw [← unknown?_eq_none] at unnamed
    obtain ⟨entry, unknown⟩ := Option.ne_none_iff_exists'.1 unnamed
    obtain ⟨nameless, before, after, split, named⟩ := unknown?_eq_some.1 unknown
    refine ⟨before, entry.1, entry.2, after, split, named, nameless, ?_⟩
    intro literal given
    rw [reads literal given, ofEntries_eq, unknown]
  · refine ⟨default.changedBy entries, fun literal given => ?_, fun setting => ⟨?_, ?_⟩⟩
    · rw [reads literal given, ofEntries_eq, unknown?_eq_none.2 named]
    · intro value last
      show (given? setting entries).getD _ = value
      rw [given?_eq_some.2 last, Option.getD_some]
    · intro silent
      show (given? setting entries).getD _ = _
      rw [given?_eq_none.2 silent, Option.getD_none]
  · intro others settings part heard described
    refine ofEntries_alike described (fun entry member => part.subset member) ?_
    intro setting
    rw [← given?_filter_isHeard, heard, given?_filter_isHeard]
  · intro others settings same apart described
    exact ofEntries_alike described (fun entry => same.mem_iff.1) (given?_perm same apart)

/-- A number names no setting, and if it cannot be shown, that is what is met. -/
theorem untold_of_number
    {number : Int}
    {obstacle : Value.Obstacle}
    (unshown : (Value.int number : Value R).obstacle? = some obstacle)
    (value : Value R) :
    ∃ failure : Failure R,
      ofValue (.map [(.int number, value)]) = .error failure ∧
        failure = .configuration (.unknownSetting (.int number)) ∧
        failure.told = obstacleFailure obstacle :=
  ⟨_, rfl, rfl, (told_unknownSetting (.int number)).untold obstacle unshown⟩

/-- A key of too many digits names no setting, but what is met is not the refusal of
the key. -/
theorem overlong_key_is_not_told :
    ∃ failure : Failure Float,
      ofValue (.map [(.int Value.overlong, .int 1)]) = .error failure ∧
        failure = .configuration (.unknownSetting (.int Value.overlong)) ∧
        failure.told = .malformed ∧ ∀ fault, failure.told ≠ .configuration fault := by
  have unshown : (Value.int Value.overlong : Value Float).obstacle? =
      some .tooManyDigits :=
    Value.obstacle?_overlong
  obtain ⟨failure, refused, same, told⟩ := untold_of_number unshown (.int 1)
  refine ⟨failure, refused, same, told, ?_⟩
  rw [told]
  nofun

end Settings
end MelodyAutomation

import MelodyAutomation.Proofs.Instrument.Building
import MelodyAutomation.Proofs.SessionContracts

/-!
# A tempo that is not positive

The tempo of an instrument is checked by its scheduler, and the scheduler is made after the
modulating oscillators, whose frequencies are quotients by the tempo. So the check comes
too late for an oscillator that has no frequency at the tempo: the instrument is refused
for that. If all of them have one, then what is reported is the tempo.

Two constructions are compared, one with the tempo and one with another tempo that lets the
instrument be built. They go along the same way up to the modulating oscillators, and create
these with the same values but for the frequency.
-/

namespace MelodyAutomation

variable {R : Type} [Machine R]

/-! ## Nodes that a stage takes -/

namespace Stage

variable {stage final : Stage R} {blueprint : Blueprint R} {primitive : Primitive}

/-- A stage takes a node: a tape takes any, and a link one whose values can be sent. -/
def Takes (stage : Stage R) (blueprint : Blueprint R) : Prop :=
  stage.OnTape ∨ (Link.creationArguments blueprint).isOk = true

theorem onTape_create (stage : Stage R) (blueprint : Blueprint R) :
    ((create blueprint).run stage).2.OnTape ↔ stage.OnTape := by
  have created : ((create blueprint).run stage).2.engine =
    ((Engine.create blueprint).run stage.engine).2 := rfl
  unfold OnTape
  rw [created]
  cases stage.engine with
  | tape own => exact ⟨fun _ => ⟨own, rfl⟩, fun _ => ⟨_, rfl⟩⟩
  | link own => exact ⟨nofun, nofun⟩

theorem takes_of_reaches_create
    (reaches : (create blueprint).Reaches stage primitive final) :
    stage.Takes blueprint := by
  have created : ((create blueprint).run stage).1 =
    ((Engine.create blueprint).run stage.engine).1 := rfl
  have outcome := reaches.1
  rw [created] at outcome
  cases engine : stage.engine with
  | tape own => exact .inl ⟨own, engine⟩
  | link own =>
      rw [engine] at outcome
      have sent : (Link.create blueprint).Reaches own primitive _ := ⟨outcome, rfl⟩
      unfold Link.create at sent
      obtain ⟨arguments, _, described, -⟩ := Session.reaches_bind.1 sent
      obtain ⟨described, -⟩ := Session.reaches_attempt.1 described
      exact .inr (by rw [described]; rfl)

theorem exists_reaches_create (takes : stage.Takes blueprint) :
    ∃ primitive final, (create blueprint).Reaches stage primitive final := by
  have created : ((create blueprint).run stage).1 =
    ((Engine.create blueprint).run stage.engine).1 := rfl
  have taken : ∃ primitive, ((create blueprint).run stage).1.outcome = .ok primitive := by
    rw [created]
    rcases takes with ⟨own, engine⟩ | sendable
    · rw [engine]
      exact ⟨_, rfl⟩
    · cases stage.engine with
      | tape own => exact ⟨_, rfl⟩
      | link own =>
          have never : (Link.create blueprint).RefusedFor fun _ => False :=
            Link.refusedFor_create (Attempt.refusedFor_of_isOk sendable)
          exact never.isOk trivial
  obtain ⟨primitive, outcome⟩ := taken
  exact ⟨primitive, _, outcome, rfl⟩

end Stage

namespace Instrument

/-- The frequency of the modulating oscillator that parameters describe: its cycles in a
thousand beats, through the length of a beat. -/
def frequencyOf (settings : Settings R) (parameters : Value R) : Attempt R R := do
  let entries ← (parameters.orElse (.map [])).toEntries
  let cycles ← ((entries.get? "n").getD (.int 1)).mul (.int 1000)
  cycles.div (settings.value .msPerBeat)

/-! ## Settings with another tempo -/

section

variable {settings : Settings R} {tempo : Value R}

omit [Machine R] in
theorem value_otherTempo
    {setting : Setting}
    (other : setting ≠ .msPerBeat) :
    (settings.set .msPerBeat tempo).value setting = settings.value setting :=
  settings.value_set_of_ne tempo other

/-- With another tempo, a modulating oscillator differs in its frequency alone. -/
theorem modulatorBlueprint_parallel
    {parameters : Value R}
    {made : Blueprint R}
    (described : modulatorBlueprint (settings.set .msPerBeat tempo) parameters = .ok made) :
    Attempt.Parallel
      (fun blueprint _ => (Link.creationArguments blueprint).isOk =
        (Link.creationArguments made).isOk)
      (modulatorBlueprint settings parameters) (frequencyOf settings parameters) := by
  simp only [modulatorBlueprint, Attempt.bind_eq_ok,
    value_otherTempo (show Setting.masterGain ≠ .msPerBeat by decide)] at described
  obtain ⟨entries, spread, waveform, named, cycles, counted, other, -, gain, scaled, same⟩ :=
    described
  obtain rfl := Except.ok.inj same
  have sendable (frequency : R) :
      (Link.creationArguments (.oscillator waveform (.real frequency) gain)).isOk =
        gain.toScalar.isOk := by
    have read : (Value.real frequency).toScalar = .ok frequency := rfl
    rw [Link.creationArguments, read]
    cases gain.toScalar <;> rfl
  simp only [modulatorBlueprint, frequencyOf, spread, named, counted, scaled, Attempt.ok_bind]
  cases cycles.div (settings.value .msPerBeat) with
  | error failure => exact .error failure
  | ok frequency => exact .ok ((sendable frequency).trans (sendable other).symm)

/-- The modulating oscillators of some settings are refused for the first frequency that is
refused, if they can be created with another tempo on a stage of the same kind. -/
theorem createModulators_alike
    {entries : Entries R}
    {stage final other : Stage R}
    {modulators : List (Target × Primitive)}
    (reaches : (createModulators (settings.set .msPerBeat tempo) entries).Reaches stage
      modulators final)
    (kind : other.OnTape ↔ stage.OnTape) :
    Attempt.RefusedAlike ((createModulators settings entries).run other).1.outcome
      (entries.mapM fun entry => frequencyOf settings entry.2) := by
  induction entries generalizing stage final other modulators with
  | nil => exact .ok trivial
  | cons entry rest hypothesis =>
      obtain ⟨key, parameters⟩ := entry
      simp only [createModulators, Session.reaches_bind, Session.reaches_attempt] at reaches
      obtain ⟨target, _, ⟨named, rfl⟩, made, _, ⟨described, rfl⟩, primitive, between, created,
        others, _, later, -⟩ := reaches
      have sameKind : between.OnTape ↔ stage.OnTape := by
        rw [← created.2]
        exact Stage.onTape_create stage made
      have taken := Stage.takes_of_reaches_create created
      rw [List.mapM_cons, createModulators, Session.outcome_attempt_bind, named,
        Attempt.ok_bind, Session.outcome_attempt_bind]
      refine (modulatorBlueprint_parallel described).bind fun blueprint frequency same => ?_
      -- The node that was created with the other tempo can be created with this one.
      have takes : other.Takes blueprint := by
        rw [Stage.Takes, kind, same]
        exact taken
      obtain ⟨modulator, reached, creates⟩ := Stage.exists_reaches_create takes
      have between : reached.OnTape ↔ other.OnTape := by
        rw [← creates.2]
        exact Stage.onTape_create other blueprint
      rw [(creates.run_bind _).1, Session.outcome_bind]
      refine (hypothesis later (between.trans (kind.trans sameKind.symm))).bind
        fun others frequencies _ => ?_
      exact .ok trivial

/-- What can be created has been described. -/
theorem exists_blueprint_of_createModulators
    {entries : Entries R}
    {stage final : Stage R}
    {modulators : List (Target × Primitive)}
    (reaches : (createModulators settings entries).Reaches stage modulators final) :
    ∀ entry ∈ entries, ∃ blueprint, modulatorBlueprint settings entry.2 = .ok blueprint := by
  induction entries generalizing stage final modulators with
  | nil => exact List.forall_mem_nil _
  | cons entry rest hypothesis =>
      simp only [createModulators, Session.reaches_bind, Session.reaches_attempt] at reaches
      obtain ⟨_, _, _, blueprint, _, ⟨described, -⟩, _, _, -, _, _, later, -⟩ := reaches
      exact List.forall_mem_cons.2 ⟨⟨blueprint, described⟩, hypothesis later⟩

/-- An instrument that is built with another tempo is refused for the first frequency that
is refused, and else for its own tempo. -/
theorem outcome_build_of_tempoRefused
    {stage final : Stage R}
    {instrument : Instrument R}
    (refused : Scheduler.tempoRefused (settings.value .msPerBeat) = .ok true)
    (reaches : (build (settings.set .msPerBeat tempo)).Reaches stage instrument final) :
    ∃ modulation, (settings.value .modulation).toEntries = .ok modulation ∧
      (∀ entry ∈ modulation, ∃ blueprint,
        modulatorBlueprint (settings.set .msPerBeat tempo) entry.2 = .ok blueprint) ∧
      ((build settings).run stage).1.outcome =
        modulation.mapM (fun entry => frequencyOf settings entry.2) >>= fun _ =>
          .error .tempoNotPositive := by
  simp only [build, Session.reaches_bind, Session.reaches_attempt,
    Session.reaches_logged] at reaches
  obtain ⟨plan, _, ⟨planned, rfl⟩, oscillator, _, oscillates, noise, _, hisses, filter, _,
    filters, envelopes, _, ⟨laid, rfl⟩, modulation, _, ⟨spread, rfl⟩, modulators, _, modulates,
    -⟩ := reaches
  refine ⟨modulation, spread, exists_blueprint_of_createModulators modulates, ?_⟩
  -- Up to here nothing depends on the tempo.
  replace planned : Plan.ofSettings settings = .ok plan := planned
  replace laid : (envelopesOf settings).outcome = .ok envelopes := laid
  replace spread : (settings.value .modulation).toEntries = .ok modulation := spread
  rw [build, Session.outcome_attempt_bind, planned, Attempt.ok_bind,
    (oscillates.run_bind _).1, (hisses.run_bind _).1, (filters.run_bind _).1,
    ((Session.reaches_logged.2 ⟨laid, rfl⟩).run_bind _).1, Session.outcome_attempt_bind,
    spread, Attempt.ok_bind, Session.outcome_bind]
  refine ((createModulators_alike modulates Iff.rfl).bind fun created _ _ => ?_).eq
  rw [Session.outcome_attempt_bind, Scheduler.make, refused]
  exact .error _

end

/-! ## What is reported -/

/-- Some settings lack a tempo and nothing else: theirs is a number that is not positive,
and with another one an instrument is built. -/
structure LacksTempo (settings : Settings R) (stage : Stage R) : Prop where
  refused : ∃ order, (settings.value .msPerBeat).compareNumbers (.int 0) = .ok (some order) ∧
    order ≠ .gt
  builds : ∃ tempo instrument final,
    (build (settings.set .msPerBeat tempo)).Reaches stage instrument final

theorem tempoRefused_of_compareNumbers
    {value : Value R}
    {order : Ordering}
    (compared : value.compareNumbers (.int 0) = .ok (some order))
    (refused : order ≠ .gt) :
    Scheduler.tempoRefused value = .ok true := by
  rw [Scheduler.tempoRefused, compared, Attempt.ok_bind]
  cases order with
  | lt => rfl
  | eq => rfl
  | gt => exact absurd rfl refused

/-- A modulating oscillator that can be created with another tempo has a frequency, unless
that is out of range or the tempo is zero. -/
theorem yields_frequencyOf
    [Limits]
    {settings : Settings Float}
    {tempo parameters : Value Float}
    {made : Blueprint Float}
    (described : modulatorBlueprint (settings.set .msPerBeat tempo) parameters = .ok made)
    {number : Number Float}
    (read : (settings.value .msPerBeat).toNumber = .ok number) :
    (frequencyOf settings parameters).Yields (fun _ => number.reading ≠ .finite 0)
      fun failure => failure = .overflow ∨
        failure = .divisionByZero ∧ number.reading = .finite 0 := by
  simp only [modulatorBlueprint, Attempt.bind_eq_ok] at described
  obtain ⟨entries, spread, _, _, cycles, counted, _, divided, -⟩ := described
  obtain ⟨first, counts, -⟩ := Attempt.bind_eq_ok.1 divided
  rw [frequencyOf, spread, Attempt.ok_bind, counted, Attempt.ok_bind]
  exact Value.yields_div counts read

/-- A tempo that is a number is zero if the number is read as zero. -/
theorem hasZeroTempo_iff
    [Limits]
    {settings : Settings Float}
    {number : Number Float}
    (read : (settings.value .msPerBeat).toNumber = .ok number) :
    settings.HasZeroTempo ↔ number.reading = .finite 0 := by
  rw [Settings.HasZeroTempo, Value.compareNumbers_zero_eq_ok]
  constructor
  · rintro ⟨other, same, equal⟩
    obtain rfl := Except.ok.inj (read.symm.trans same)
    exact (Reading.compare?_eq_some_eq.1 equal).2
  · intro stands
    exact ⟨number, read, by rw [stands]; rfl⟩

/-- What is reported when nothing but a tempo is lacking. -/
structure ReportsTempo [Limits] (settings : Settings Float) (modulation : Entries Float)
    (outcome : Attempt Float (Instrument Float)) : Prop where
  /-- The tempo is, if all modulating oscillators have a frequency at it, and only
  then. -/
  reported : outcome = .error .tempoNotPositive ↔
    ∀ entry ∈ modulation, ∃ frequency, frequencyOf settings entry.2 = .ok frequency
  /-- Otherwise a frequency is out of range, or divided by a tempo of zero. -/
  refused : outcome = .error .tempoNotPositive ∨ outcome = .error .overflow ∨
    outcome = .error .divisionByZero ∧ settings.HasZeroTempo
  /-- A tempo of zero is reported if there are no modulating oscillators, and only
  then. -/
  zero : settings.HasZeroTempo →
    (outcome = .error .tempoNotPositive ↔ modulation = [])

theorem reportsTempo_of_lacksTempo
    [Limits]
    {settings : Settings Float}
    {stage : Stage Float}
    (lacks : LacksTempo settings stage) :
    ∃ modulation, (settings.value .modulation).toEntries = .ok modulation ∧
      ReportsTempo settings modulation ((build settings).run stage).1.outcome := by
  obtain ⟨⟨order, compared, notGreater⟩, tempo, instrument, final, reaches⟩ := lacks
  obtain ⟨modulation, spread, blueprints, outcome⟩ := outcome_build_of_tempoRefused
    (tempoRefused_of_compareNumbers compared notGreater) reaches
  obtain ⟨number, read, -⟩ := Value.compareNumbers_zero_eq_ok.1 compared
  have each : ∀ entry ∈ modulation, (frequencyOf settings entry.2).Yields
      (fun _ => number.reading ≠ .finite 0) fun failure => failure = .overflow ∨
        failure = .divisionByZero ∧ number.reading = .finite 0 := by
    intro entry member
    obtain ⟨blueprint, described⟩ := blueprints entry member
    exact yields_frequencyOf described read
  have zero := hasZeroTempo_iff read
  have all := Attempt.yields_mapM each
  refine ⟨modulation, spread, ?_⟩
  rw [outcome]
  cases frequencies : modulation.mapM fun entry => frequencyOf settings entry.2 with
  | ok results =>
      have found := Attempt.exists_mapM.1 ⟨results, frequencies⟩
      refine ⟨⟨fun _ => found, fun _ => rfl⟩, .inl rfl, fun zeroTempo =>
        ⟨fun _ => List.eq_nil_iff_forall_not_mem.2 fun entry member => ?_, fun _ => rfl⟩⟩
      obtain ⟨frequency, divided⟩ := found entry member
      have nonzero := each entry member
      rw [divided] at nonzero
      exact nonzero (zero.1 zeroTempo)
  | error failure =>
      rw [frequencies] at all
      have missing : ¬ ∀ entry ∈ modulation, ∃ frequency,
          frequencyOf settings entry.2 = .ok frequency := by
        intro found
        obtain ⟨results, made⟩ := Attempt.exists_mapM.2 found
        cases frequencies.symm.trans made
      have unreported : (.error failure : Attempt Float (Instrument Float)) ≠
          .error .tempoNotPositive := by
        rcases all with rfl | ⟨rfl, -⟩ <;> nofun
      refine ⟨⟨fun same => absurd same unreported, fun found => absurd found missing⟩, ?_,
        fun _ => ⟨fun same => absurd same unreported, fun none => ?_⟩⟩
      · rcases all with rfl | ⟨rfl, stands⟩
        · exact .inr (.inl rfl)
        · exact .inr (.inr ⟨rfl, zero.2 stands⟩)
      · subst none
        cases frequencies

/-- When an instrument lacks nothing but a tempo that is positive, this is reported if its
modulating oscillators have frequencies at the tempo. A division by zero escapes from no
construction, except for a tempo of zero and a modulating oscillator. -/
theorem tempo_is_reported
    [Limits]
    (configuration : Value Float)
    (options : Entries Float)
    (stage : Stage Float) :
    (∀ settings, Settings.ofConfiguration configuration options = .ok settings →
      LacksTempo settings stage →
      ∃ modulation, (settings.value .modulation).toEntries = .ok modulation ∧
        ReportsTempo settings modulation
          ((make configuration options).run stage).1.outcome) ∧
    (((make configuration options).run stage).1.outcome = .error .divisionByZero →
      ∃ settings, Settings.ofConfiguration configuration options = .ok settings ∧
        settings.HasZeroTempo ∧ settings.Modulates) := by
  rw [make, Session.outcome_attempt_bind]
  cases described : Settings.ofConfiguration configuration options with
  | error failure =>
      refine ⟨nofun, fun divides => ?_⟩
      have refused : (Settings.ofConfiguration configuration options).RefusedFor
          (Failure.DividesOnlyIf False) := Settings.refusedFor_ofConfiguration _ _
      rw [described] at refused
      exact (refused (Except.error.inj divides)).elim
  | ok settings =>
      refine ⟨fun other same lacks => ?_, fun divides => ⟨settings, rfl, ?_⟩⟩
      · obtain rfl := Except.ok.inj same
        exact reportsTempo_of_lacksTempo lacks
      · have refused := (refusedFor_build settings stage trivial).1
        rw [Attempt.ok_bind] at divides
        rw [divides] at refused
        exact refused rfl

/-- Settings with a tempo and a modulating oscillator. -/
def modulatedSettings (tempo : Value Float) (parameters : Entries Float) :
    Settings Float :=
  (Settings.default.set .msPerBeat tempo).set .modulation
    (.map [(.text "osc.freq", .map parameters)])

/-- A configuration that describes them. -/
def modulatedConfiguration (tempo : Value Float) (parameters : Entries Float) :
    Value Float :=
  .map [(.text "ms_per_beat", tempo),
    (.text "lfos", .map [(.text "osc.freq", .map parameters)])]

theorem tempo_is_reported_of_negative :
    Settings.ofConfiguration (modulatedConfiguration (.int (-500)) [(.text "n", .int 2)]) [] =
        .ok (modulatedSettings (.int (-500)) [(.text "n", .int 2)]) ∧
      LacksTempo (modulatedSettings (.int (-500)) [(.text "n", .int 2)])
        (Stage.openTape 0.0 .manual true) ∧
      ((make (modulatedConfiguration (.int (-500)) [(.text "n", .int 2)]) []).run
        (Stage.openTape 0.0 .manual true)).1.outcome = .error .tempoNotPositive := by
  have described : Settings.ofConfiguration
      (modulatedConfiguration (.int (-500)) [(.text "n", .int 2)]) [] =
        .ok (modulatedSettings (.int (-500)) [(.text "n", .int 2)]) := rfl
  have lacks : LacksTempo (modulatedSettings (.int (-500)) [(.text "n", .int 2)])
      (Stage.openTape 0.0 .manual true) := by
    obtain ⟨instrument, made⟩ := Attempt.exists_of_isOk (show
      ((build ((modulatedSettings (.int (-500)) [(.text "n", .int 2)]).set .msPerBeat
        (.int 500))).run (Stage.openTape 0.0 .manual true)).1.outcome.isOk = true
        by decide +kernel)
    exact ⟨⟨.lt, rfl, nofun⟩, _, instrument, _, made, rfl⟩
  obtain ⟨modulation, spread, reports⟩ := (tempo_is_reported _ _ _).1 _ described lacks
  refine ⟨described, lacks, reports.reported.2 ?_⟩
  obtain rfl := Except.ok.inj spread
  refine List.forall_mem_cons.2 ⟨Attempt.exists_of_isOk ?_, List.forall_mem_nil _⟩
  decide +kernel

/-- A tempo of zero is not reported when there is a modulating oscillator. -/
theorem zero_tempo_is_not_reported :
    Settings.ofConfiguration (modulatedConfiguration (.int 0) []) [] =
        .ok (modulatedSettings (.int 0) []) ∧
      LacksTempo (modulatedSettings (.int 0) []) (Stage.openTape 0.0 .manual true) ∧
      ((make (modulatedConfiguration (.int 0) []) []).run
        (Stage.openTape 0.0 .manual true)).1.outcome = .error .divisionByZero := by
  have described : Settings.ofConfiguration (modulatedConfiguration (.int 0) []) [] =
      .ok (modulatedSettings (.int 0) []) := rfl
  obtain ⟨instrument, made⟩ := Attempt.exists_of_isOk (show
    ((build ((modulatedSettings (.int 0) []).set .msPerBeat (.int 500))).run
      (Stage.openTape 0.0 .manual true)).1.outcome.isOk = true by decide +kernel)
  refine ⟨described, ⟨⟨.eq, rfl, nofun⟩, _, instrument, _, made, rfl⟩, ?_⟩
  obtain ⟨modulation, spread, -, outcome⟩ :=
    outcome_build_of_tempoRefused rfl ⟨made, rfl⟩
  obtain rfl := Except.ok.inj spread
  rw [make, Session.outcome_attempt_bind, described, Attempt.ok_bind, outcome]
  rfl

end Instrument
end MelodyAutomation

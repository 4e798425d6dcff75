import MelodyAutomation.Instrument
import MelodyAutomation.Proofs.Envelope.Grammar
import MelodyAutomation.Proofs.Instrument.Refusal
import MelodyAutomation.Proofs.Settings

/-!
# What an instrument is not built for

To build an instrument is to read literals, to create nodes and to connect them. It is
refused for what is wrong with the settings, and there is one place where something is
divided by what a setting holds: the frequency of a modulating oscillator is a quotient by
the tempo. The points of an envelope are quotients too, but by the number of its steps. So
a division by zero is met for a tempo and a modulation, and for nothing else.
-/

namespace MelodyAutomation

variable {R : Type} [Machine R] {occurs : Prop}

theorem Waveform.refusedFor_ofValue (literal : Value R) :
    (ofValue literal).RefusedFor (Failure.DividesOnlyIf occurs) := by
  unfold ofValue
  split
  · split
    · split
      · trivial
      · exact Failure.dividesOnlyIf_configuration _
    · exact Failure.dividesOnlyIf_configuration _
  · exact Failure.dividesOnlyIf_illTyped

/-! ## Envelopes -/

namespace Envelope

variable {causes : Failure R → Prop} [covers : Failure.CoversLiterals causes]

theorem refusedFor_decayAt (alpha : Value R) (steps index : Int) :
    (decayAt alpha steps index).RefusedFor causes := by
  have exponential (argument : Value R) : (exponential argument).RefusedFor causes := by
    refine Value.refusedFor_toNumber_bind _ fun number => ?_
    refine (number.refusedFor_toScalar covers.overflow).bind fun scalar _ => ?_
    split
    · trivial
    · exact covers.overflow
  have rate : alpha.neg.RefusedFor causes :=
    Value.refusedFor_toNumber_bind _ fun _ => trivial
  unfold decayAt
  split
  · exact rate.bind fun _ _ => (Value.refusedFor_mul _ _).bind fun _ _ => exponential _
  · trivial

/-- A decay is refused for its rate and its peak, if it has any steps at all. -/
theorem refusedFor_decayPoint
    (alpha beta : Value R)
    {steps : Int}
    (some : steps ≠ 0)
    (index : Int) :
    (decayPoint alpha beta steps index).RefusedFor causes :=
  (refusedFor_decayAt _ _ _).bind fun _ _ =>
    (Number.refusedFor_divWhole fun none => absurd none some).bind fun _ _ =>
      (Value.refusedFor_mul _ _).bind fun _ _ => trivial

theorem refusedFor_scalarPoints (literal : Value R) :
    (scalarPoints literal).RefusedFor causes := by
  refine literal.yields_toItems.covered.bind fun items _ => ?_
  refine Attempt.refusedFor_mapM fun item _ => ?_
  exact item.yields_toPair.covered.bind fun _ _ =>
    (Value.refusedFor_toScalar _).bind fun _ _ =>
      (Value.refusedFor_toScalar _).bind fun _ _ => trivial

omit causes covers

theorem refusedFor_points (spec : Spec R) :
    spec.points.RefusedFor (Failure.DividesOnlyIf occurs) := by
  cases spec with
  | explicit points => trivial
  | named name =>
      change (namedPoints name).RefusedFor _
      unfold namedPoints
      split
      · split
        · split
          · trivial
          · exact Failure.dividesOnlyIf_unknownKey
        · exact Failure.dividesOnlyIf_unknownKey
      · exact Failure.dividesOnlyIf_illTyped
  | damp alpha beta =>
      refine (Attempt.refusedFor_mapM fun index _ => ?_).bind fun _ _ => trivial
      exact refusedFor_decayPoint alpha beta (by decide) _

theorem refusedFor_parseDescriptor (text : String) :
    (parseDescriptor text : Attempt R (Spec R)).RefusedFor
      (Failure.DividesOnlyIf occurs) := by
  have decodes : Decodes _ (parseDescriptor text : Attempt R (Spec R)) :=
    decodes_parseDescriptor text
  cases parsed : (parseDescriptor text : Attempt R (Spec R)) with
  | ok spec => trivial
  | error failure =>
      rw [parsed] at decodes
      obtain ⟨fault, rfl, -⟩ := decodes.told_of_error
      exact Failure.dividesOnlyIf_configuration fault

theorem refusedFor_explicitSpec (literal : Value R) :
    (explicitSpec literal).RefusedFor (Failure.DividesOnlyIf occurs) := by
  have points : (scalarPoints literal).RefusedFor (Failure.DividesOnlyIf occurs) :=
    refusedFor_scalarPoints literal
  unfold explicitSpec
  split
  · trivial
  · exact Failure.dividesOnlyIf_configuration _
  · exact Failure.dividesOnlyIf_configuration _
  next failed =>
    rw [failed] at points
    exact points

theorem refusedFor_specOfValue (literal : Value R) :
    (specOfValue literal).RefusedFor (Failure.DividesOnlyIf occurs) := by
  unfold specOfValue
  split
  · trivial
  · trivial
  next points =>
      have decoded : (pointsOfRecord points).RefusedFor (Failure.DividesOnlyIf occurs) :=
        points.yields_toItems.covered.bind fun _ _ => trivial
      exact decoded.bind fun _ _ => trivial
  · exact refusedFor_parseDescriptor _
  · exact refusedFor_explicitSpec _

theorem refusedFor_ofValue (literal default : Value R) :
    (ofValue literal default).outcome.RefusedFor (Failure.DividesOnlyIf occurs) := by
  refine Logged.yields_bind (refusedFor_specOfValue literal) fun spec _ => ?_
  refine Logged.yields_bind (refusedFor_points spec) fun own _ => ?_
  split
  · refine Logged.yields_bind Logged.yields_report fun _ _ => ?_
    refine Logged.yields_bind (refusedFor_scalarPoints default) fun points _ => ?_
    split
    · exact Failure.dividesOnlyIf_configuration _
    · trivial
  · trivial

end Envelope

/-! ## Nodes -/

section

variable {causes : Failure R → Prop} [covers : Failure.CoversLiterals causes]

theorem Link.refusedFor_creationArguments (blueprint : Blueprint R) :
    (creationArguments blueprint).RefusedFor causes := by
  cases blueprint with
  | oscillator waveform frequency gain =>
      exact (Value.refusedFor_toScalar _).bind fun _ _ =>
        (Value.refusedFor_toScalar _).bind fun _ _ => trivial
  | noise type gain => exact (Value.refusedFor_toScalar _).bind fun _ _ => trivial
  | filter type frequency gain =>
      exact (Value.refusedFor_toScalar _).bind fun _ _ =>
        (Value.refusedFor_toScalar _).bind fun _ _ => trivial

omit covers in
/-- A node is refused for what is sent when it is created. -/
theorem Link.refusedFor_create
    {blueprint : Blueprint R}
    (described : (creationArguments blueprint).RefusedFor causes) :
    (create blueprint).RefusedFor causes := by
  have sent (address : String) (arguments : List (Value R)) :
      (send address arguments).RefusedFor causes := fun _ _ => ⟨trivial, trivial⟩
  have numbered : (takeNumber : Session (Link R) R Nat).RefusedFor causes :=
    fun _ _ => ⟨trivial, trivial⟩
  refine (Session.yields_attempt described).bind fun arguments _ => ?_
  refine numbered.bind fun number _ => Session.yields_get_bind fun link _ => ?_
  simp only
  split
  · refine (sent _ _).bind fun _ _ => ?_
    split
    · exact (sent _ _).bind fun _ _ => Session.yields_pure trivial
    · exact Session.yields_pure trivial
  · split
    · exact (sent _ _).bind fun _ _ => Session.yields_pure trivial
    · exact Session.yields_pure trivial

theorem Stage.refusedFor_create (blueprint : Blueprint R) :
    (create blueprint).RefusedFor causes := by
  have created : (Engine.create blueprint).RefusedFor causes := by
    intro engine _
    cases engine with
    | tape own => exact ⟨trivial, trivial⟩
    | link own =>
        exact Link.refusedFor_create (Link.refusedFor_creationArguments _) own trivial
  unfold create onEngine
  exact created.within (fun _ _ => trivial) fun _ _ _ _ => trivial

omit covers in
theorem Stage.refusedFor_connect (primitive : Primitive) (inlet : Inlet) :
    (connect primitive inlet : Session (Stage R) R Unit).RefusedFor causes := by
  unfold connect
  split
  · exact refusedFor_perform fun _ => trivial
  · exact Session.yields_pure trivial

end

/-! ## Instruments -/

namespace Settings

theorem refusedFor_configurationEntries (configuration : Value R) :
    (configurationEntries configuration).RefusedFor (Failure.DividesOnlyIf occurs) := by
  unfold configurationEntries
  split
  · simp only
    split
    · exact Value.refusedFor_toSpread _
    · nofun
  · exact Value.refusedFor_toSpread _

theorem refusedFor_ofEntries (entries : Entries R) :
    (ofEntries entries).RefusedFor (Failure.DividesOnlyIf occurs) := by
  rw [ofEntries_eq]
  split
  · exact Failure.dividesOnlyIf_configuration _
  · trivial

theorem refusedFor_ofConfiguration (configuration : Value R) (options : Entries R) :
    (ofConfiguration configuration options).RefusedFor
      (Failure.DividesOnlyIf occurs) := by
  unfold ofConfiguration
  split
  · exact Failure.dividesOnlyIf_illTyped
  · exact (refusedFor_configurationEntries _).bind fun _ _ => refusedFor_ofEntries _

end Settings

namespace Instrument

theorem Plan.refusedFor_ofSettings (settings : Settings R) :
    (Plan.ofSettings settings).RefusedFor (Failure.DividesOnlyIf occurs) :=
  (Value.refusedFor_toSpread _).bind fun _ _ => (Value.refusedFor_toSpread _).bind fun _ _ =>
    (Value.refusedFor_toSpread _).bind fun _ _ => trivial

theorem refusedFor_createOscillator (settings : Entries R) :
    (createOscillator settings).RefusedFor (Failure.DividesOnlyIf occurs) :=
  (Session.yields_attempt (Waveform.refusedFor_ofValue _)).bind fun _ _ =>
    Stage.refusedFor_create _

theorem refusedFor_makeEnvelopes (entries : Entries R) :
    (makeEnvelopes entries).outcome.RefusedFor (Failure.DividesOnlyIf occurs) := by
  induction entries with
  | nil => trivial
  | cons entry rest hypothesis =>
      rw [makeEnvelopes]
      split
      · have shown : (requireShown entry.1).RefusedFor
            (Failure.DividesOnlyIf occurs) :=
          refusedFor_requireShown (fun divides => by cases divides)
            (fun divides => by cases divides) entry.1
        refine Logged.yields_bind shown fun _ _ => ?_
        exact Logged.yields_bind Logged.yields_report fun _ _ => hypothesis
      · refine Logged.yields_bind (Envelope.refusedFor_ofValue _ _) fun _ _ => ?_
        exact Logged.yields_bind hypothesis fun _ _ => trivial

theorem refusedFor_envelopesOf (settings : Settings R) :
    (envelopesOf settings).outcome.RefusedFor (Failure.DividesOnlyIf occurs) :=
  Logged.yields_bind (Value.refusedFor_toSpread _) fun _ _ =>
    Logged.yields_bind (refusedFor_makeEnvelopes _) fun _ _ => trivial

omit [Machine R] in
theorem refusedFor_modulatedTarget (key : Value R) :
    (modulatedTarget key).RefusedFor (Failure.DividesOnlyIf occurs) := by
  unfold modulatedTarget
  split
  · split
    · trivial
    · exact Failure.dividesOnlyIf_configuration _
  · exact Failure.dividesOnlyIf_configuration _

theorem refusedFor_scheduler
    (envelopes : PerTarget (Option (Envelope R)))
    (msPerBeat baseFrequency baseOctave masterGain : Value R) :
    (Scheduler.make envelopes msPerBeat baseFrequency baseOctave masterGain).RefusedFor
      (Failure.DividesOnlyIf occurs) := by
  have checked : (Scheduler.tempoRefused msPerBeat).RefusedFor
      (Failure.DividesOnlyIf occurs) :=
    (Value.refusedFor_compareNumbers _ _).bind fun _ _ => trivial
  refine checked.bind fun refused _ => ?_
  split
  · nofun
  · trivial

variable {causes : Failure R → Prop}

theorem refusedFor_connectModulator
    (instrument : Instrument R)
    (entry : Target × Primitive) :
    (instrument.connectModulator entry).RefusedFor causes := by
  unfold connectModulator
  split
  · exact fun _ _ => ⟨trivial, trivial⟩
  · exact Stage.refusedFor_connect _ _

theorem refusedFor_connectNodes (instrument : Instrument R) :
    instrument.connectNodes.RefusedFor causes := by
  unfold connectNodes
  split
  · exact (Stage.refusedFor_connect _ _).bind fun _ _ =>
      (Stage.refusedFor_connect _ _).bind fun _ _ => Stage.refusedFor_connect _ _
  · exact (Stage.refusedFor_connect _ _).bind fun _ _ => Stage.refusedFor_connect _ _

end Instrument

/-- The tempo of some settings is a number that stands for zero. -/
def Settings.HasZeroTempo (settings : Settings R) : Prop :=
  (settings.value .msPerBeat).compareNumbers (.int 0) = .ok (some .eq)

/-- Some settings ask for a modulating oscillator. -/
def Settings.Modulates (settings : Settings R) : Prop :=
  ∃ modulation, (settings.value .modulation).toEntries = .ok modulation ∧ modulation ≠ []

namespace Instrument

section

variable [Limits] (settings : Settings Float)

theorem refusedFor_modulatorBlueprint (parameters : Value Float) :
    (modulatorBlueprint settings parameters).RefusedFor
      (Failure.DividesOnlyIf settings.HasZeroTempo) :=
  (Value.refusedFor_toEntries _).bind fun _ _ =>
    (Waveform.refusedFor_ofValue _).bind fun _ _ =>
      (Value.refusedFor_mul _ _).bind fun _ _ =>
        (Value.div_dividesOnlyIf _ _).bind fun _ _ =>
          (Value.refusedFor_mul _ _).bind fun _ _ => trivial

theorem refusedFor_createModulators (entries : Entries Float) :
    (createModulators settings entries).RefusedFor
      (Failure.DividesOnlyIf settings.HasZeroTempo) := by
  induction entries with
  | nil => exact Session.yields_pure trivial
  | cons entry rest hypothesis =>
      refine (Session.yields_attempt (refusedFor_modulatedTarget _)).bind fun _ _ => ?_
      refine (Session.yields_attempt (refusedFor_modulatorBlueprint settings _)).bind
        fun _ _ => ?_
      refine (Stage.refusedFor_create _).bind fun _ _ => ?_
      exact hypothesis.bind fun _ _ => Session.yields_pure trivial

/-- The modulating oscillators of some settings are not created for a division by zero,
unless there are any. -/
theorem refusedFor_modulation
    {modulation : Entries Float}
    (spread : (settings.value .modulation).toEntries = .ok modulation) :
    (createModulators settings modulation).RefusedFor
      (Failure.DividesOnlyIf (settings.HasZeroTempo ∧ settings.Modulates)) := by
  by_cases none : modulation = []
  · subst none
    exact Session.yields_pure trivial
  · exact (refusedFor_createModulators settings modulation).imp (fun _ => id)
      fun failure occurs divides => ⟨occurs divides, modulation, spread, none⟩

/-- An instrument is not built for a division by zero, unless its tempo is zero and it has
a modulating oscillator. -/
theorem refusedFor_build :
    (build settings).RefusedFor
      (Failure.DividesOnlyIf (settings.HasZeroTempo ∧ settings.Modulates)) := by
  refine (Session.yields_attempt (Plan.refusedFor_ofSettings _)).bind fun plan _ => ?_
  refine (refusedFor_createOscillator _).bind fun oscillator _ => ?_
  refine (Stage.refusedFor_create _).bind fun noise _ => ?_
  refine (Stage.refusedFor_create _).bind fun filter _ => ?_
  refine (Session.yields_logged (refusedFor_envelopesOf _)).bind fun envelopes _ => ?_
  refine (Session.yields_attempt (.of_refusedFor (Value.refusedFor_toEntries _)
    fun _ => id)).bind fun modulation spread => ?_
  refine (refusedFor_modulation settings spread).bind fun modulators _ => ?_
  refine (Session.yields_attempt (refusedFor_scheduler _ _ _ _ _)).bind
    fun scheduler _ => ?_
  refine Session.yields_get_bind fun stage _ => ?_
  refine (Session.yields_forM fun entry _ =>
    refusedFor_connectModulator _ entry).bind fun _ _ => ?_
  refine (refusedFor_connectNodes _).bind fun _ _ => ?_
  exact fun _ _ => ⟨trivial, trivial⟩

end

end Instrument
end MelodyAutomation

import MelodyAutomation.Proofs.Instrument.Rules

/-!
# Rules for stages

Whatever is done on a stage is done through a few operations: its clock, its numbers and
what is playing are looked at and changed without regard to the engine, and the engine
creates nodes and carries out commands. So a property of sessions that has these holds
of building any instrument and of all that any instrument does.
-/

namespace MelodyAutomation
namespace Stage

variable {R : Type} [Machine R]

/-- What a property of sessions must satisfy to hold of everything that is done on a
stage. -/
structure Rules (holds : ∀ α : Type, Session (Stage R) R α → Prop) : Prop
    extends Session.Rules holds where
  /-- Looking at the stage decides nothing that depends on the engine. -/
  look : ∀ {α : Type} {next : Stage R → Session (Stage R) R α},
    (∀ (stage : Stage R) (engine : Engine R),
      next { stage with engine } = next stage) →
    (∀ stage, holds α (next stage)) → holds α (get >>= next)
  /-- What changes beside the engine changes alike, whatever the engine is. -/
  modify : ∀ {change : Stage R → Stage R},
    (∀ (stage : Stage R) (engine : Engine R),
      change { stage with engine } = { change stage with engine }) →
    holds Unit (modify change)
  create : ∀ blueprint : Blueprint R, holds Primitive (Stage.create blueprint)
  perform : ∀ command : Command R, holds Unit (Stage.perform command)

namespace Rules

variable {holds : ∀ α : Type, Session (Stage R) R α → Prop}
variable (rules : Rules holds)

include rules

theorem setClock (clock : R) : holds Unit (Stage.setClock clock) :=
  rules.modify fun _ _ => rfl

theorem setPlaying (number : Nat) (playing : Bool) :
    holds Unit (Stage.setPlaying number playing) :=
  rules.modify fun _ _ => rfl

theorem isPlaying (number : Nat) : holds Bool (Stage.isPlaying number) :=
  rules.look (fun _ _ => rfl) fun _ => rules.pure _

theorem takeNumber : holds Nat Stage.takeNumber := by
  refine rules.look (fun _ _ => rfl) fun stage => ?_
  refine rules.bind (rules.modify fun _ _ => rfl) fun _ => ?_
  exact rules.bind (rules.setPlaying _ _) fun _ => rules.pure _

theorem advance (seconds : Value R) : holds Unit (Stage.advance seconds) := by
  refine rules.look (fun _ _ => rfl) fun stage => ?_
  refine rules.attempt_bind fun moved _ => ?_
  exact rules.attempt_bind fun clock _ => rules.setClock clock

theorem connect (primitive : Primitive) (inlet : Inlet) :
    holds Unit (Stage.connect primitive inlet) := by
  unfold Stage.connect
  split
  · exact rules.perform _
  · exact rules.pure _

/-- The rules hold for every instrument. -/
theorem own (instrument : Instrument R) :
    Instrument.OwnRules instrument (fun _ => True) holds :=
  .ofPerform rules.toRules
    (fun alike => rules.look fun _ _ => alike _ _ rfl rfl)
    (rules.isPlaying _) (rules.setPlaying _) fun command _ => rules.perform command

/-- What is done with an instrument. -/
theorem act (instrument : Instrument R) (act : Instrument.Act R) :
    holds Unit (act.perform instrument) :=
  (rules.own instrument).act rules.setClock rules.advance
    (act.accepts_all instrument)

/-! ## Building -/

theorem createModulators (settings : Settings R) (entries : Entries R) :
    holds (List (Target × Primitive))
      (Instrument.createModulators settings entries) := by
  induction entries with
  | nil => exact rules.pure _
  | cons entry rest hypothesis =>
      obtain ⟨key, parameters⟩ := entry
      refine rules.attempt_bind fun target _ => ?_
      refine rules.attempt_bind fun blueprint _ => ?_
      refine rules.bind (rules.create blueprint) fun modulator => ?_
      exact rules.bind hypothesis fun others => rules.pure _

theorem connectModulator
    (instrument : Instrument R)
    (entry : Target × Primitive) :
    holds Unit (instrument.connectModulator entry) := by
  unfold Instrument.connectModulator
  split
  · exact rules.report _
  · exact rules.connect _ _

theorem connectNodes (instrument : Instrument R) :
    holds Unit instrument.connectNodes := by
  have noise := rules.connect instrument.noise (.node .destination)
  unfold Instrument.connectNodes
  split
  · refine rules.bind (rules.connect _ _) fun _ => ?_
    exact rules.bind (rules.connect _ _) fun _ => noise
  · exact rules.bind (rules.connect _ _) fun _ => noise

theorem build (settings : Settings R) :
    holds (Instrument R) (Instrument.build settings) := by
  refine rules.attempt_bind fun plan _ => ?_
  refine rules.bind (rules.attempt_bind fun _ _ => rules.create _)
    fun oscillator => ?_
  refine rules.bind (rules.create _) fun noise => ?_
  refine rules.bind (rules.create _) fun filter => ?_
  refine rules.logged_bind fun envelopes _ => ?_
  refine rules.attempt_bind fun modulation _ => ?_
  refine rules.bind (rules.createModulators settings modulation)
    fun modulators => ?_
  refine rules.attempt_bind fun scheduler _ => ?_
  refine rules.look (fun _ _ => rfl) fun stage => ?_
  refine rules.bind (rules.forM fun entry _ => rules.connectModulator _ entry)
    fun _ => ?_
  refine rules.bind (rules.connectNodes _) fun _ => ?_
  exact rules.bind rules.takeNumber fun _ => rules.pure _

/-- An instrument is built, or refused. -/
theorem make (configuration : Value R) (options : Entries R) :
    holds (Instrument R) (Instrument.make configuration options) :=
  rules.attempt_bind fun settings _ => rules.build settings

end Rules
end Stage
end MelodyAutomation

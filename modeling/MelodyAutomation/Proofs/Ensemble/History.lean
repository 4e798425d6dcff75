import MelodyAutomation.Proofs.Ensemble.Performance
import MelodyAutomation.Proofs.Instrument.Lifecycle

/-!
# Histories

A stage is opened without instruments. From then on instruments are built on it, or
refused, those that were built take steps, in any order and each of them interleaved
with all others, and time passes. On a tape, whatever the history of a stage,
instruments remain apart, and each of them leads its own life. The history of an
ensemble is one of its stage: a performance, too, is nothing but steps of the
instruments that play.
-/

namespace MelodyAutomation

variable {R : Type} [Machine R]

/-! ## Stages -/

namespace Stage

/-- One thing that becomes of a stage on which some instruments are known, and of
these instruments. -/
inductive Turn : List (Instrument R) → Stage R → List (Instrument R) → Stage R →
    Prop
  | built {known : List (Instrument R)} {stage final : Stage R}
      {configuration : Value R} {options : Entries R}
      {instrument : Instrument R} :
      (Instrument.make configuration options).Reaches stage instrument final →
        Turn known stage (instrument :: known) final
  | refused {known : List (Instrument R)} {stage : Stage R}
      {configuration : Value R} {options : Entries R} {failure : Failure R} :
      ((Instrument.make configuration options).run stage).1.outcome =
          .error failure →
        Turn known stage known
          ((Instrument.make configuration options).run stage).2
  | stepped {known : List (Instrument R)} {stage : Stage R}
      {instrument : Instrument R} (step : Instrument.Step R) :
      instrument ∈ known →
        Turn known stage known ((step.perform instrument).run stage).2
  | clocked {known : List (Instrument R)} {stage : Stage R} (reading : R) :
      Turn known stage known { stage with clock := reading }

/-- What can have become of a stage since it was opened, and the instruments that
were built on it. -/
inductive History (opened : Stage R) : List (Instrument R) → Stage R → Prop
  | opened : History opened [] opened
  | turned {known more : List (Instrument R)} {stage final : Stage R} :
      History opened known stage → Turn known stage more final →
        History opened more final

/-- One stage leads to another on which the same instruments are known: whatever the
history of the one is part of the history of the other. -/
def Leads (known : List (Instrument R)) (before after : Stage R) : Prop :=
  ∀ opened, History opened known before → History opened known after

instance (known : List (Instrument R)) :
    IsPreorder (Stage R) (Leads known) where
  refl _ _ history := history
  trans _ _ _ first second opened history :=
    second opened (first opened history)

theorem leads_step
    {known : List (Instrument R)}
    {instrument : Instrument R}
    (member : instrument ∈ known)
    (step : Instrument.Step R) :
    (step.perform instrument).Keeps (Leads known) :=
  fun _ _ history => history.turned (.stepped step member)

theorem leads_setClock
    (known : List (Instrument R))
    (reading : R) :
    (setClock reading).Keeps (Leads known) :=
  fun _ _ history => history.turned (.clocked reading)

/-- What a performance does with a known instrument is done in steps. -/
theorem leads_rules
    {known : List (Instrument R)}
    {instrument : Instrument R}
    (member : instrument ∈ known) :
    Ensemble.TrackRules (Leads known) instrument where
  beginPlaying composition stage := by
    have begun := leads_step member (.begin composition) stage
    rw [Instrument.Step.perform, Session.run_bind_eq] at begun
    split at begun <;> exact begun
  stop := leads_step member (.act .stop)
  destroy := leads_step member (.act .destroy)

end Stage

/-! ## What a tape keeps apart -/

namespace Instrument

/-- What is true of all that an instrument does is true of its steps. -/
theorem OwnRules.step
    {instrument : Instrument R}
    {holds : ∀ α : Type, Session (Stage R) R α → Prop}
    (rules : OwnRules instrument (fun _ => True) holds)
    (setClock : ∀ clock, holds Unit (Stage.setClock clock))
    (advance : ∀ seconds, holds Unit (Stage.advance seconds))
    (step : Step R) :
    holds Unit (step.perform instrument) := by
  cases step with
  | act own => exact rules.act setClock advance (own.accepts_all instrument)
  | begin composition =>
      exact rules.bind
        (rules.beginPlaying fun schedule _ => instrument.accepts_all schedule)
        fun _ => rules.pure _
  | resume reading => exact rules.bind (setClock reading) fun _ => rules.stopAll

/-- A step of one instrument leaves a stage alike for every other one that is apart
from it. -/
theorem spares_step
    {instrument other : Instrument R}
    (apart : Apart instrument other)
    (step : Step R) :
    (step.perform instrument).Keeps other.Spares :=
  (spare_rules apart).step other.keeps_setClock
    (Stage.keeps_advance other.keeps_setClock) step

omit [Machine R] in
/-- What is assembled on a stage leaves it alike for an instrument that was recorded
there before. -/
theorem alikeOn_of_assembled
    {opened final : Stage R}
    {left : List Primitive}
    (onTape : opened.OnTape)
    (assembled : Assembled opened left final)
    {instrument : Instrument R}
    (recorded : Ensemble.Records opened instrument) :
    instrument.AlikeOn opened final := by
  refine ⟨onTape, assembled.onTape, fun primitive member => ?_,
    (assembled.playing_eq _ recorded.number_lt).symm, assembled.timebase_eq.symm,
    assembled.realtime_eq.symm⟩
  obtain ⟨kind, number, node, -, greatest⟩ := recorded.between primitive member
  refine (assembled.spared primitive.node ?_).symm
  rw [node]
  rintro _ ⟨⟩
  exact greatest

end Instrument

namespace Stage

/-- Some instruments live on a stage: they are recorded there, apart from each other,
and each of them leads a life. -/
structure Populated (known : List (Instrument Float)) (stage : Stage Float) :
    Prop where
  onTape : stage.OnTape
  records : ∀ instrument ∈ known, Ensemble.Records stage instrument
  apart : known.Pairwise Instrument.Apart
  lives : ∀ instrument ∈ known, ∃ life, instrument.Lives life stage

namespace Populated

variable {known more : List (Instrument Float)} {stage final : Stage Float}

/-- Two of the instruments are the same or apart. -/
theorem eq_or_apart
    (populated : Populated known stage)
    {left right : Instrument Float}
    (inLeft : left ∈ known)
    (inRight : right ∈ known) :
    left = right ∨ left.Apart right := by
  by_cases same : left = right
  · exact .inl same
  · exact .inr (populated.apart.forall inLeft inRight same)

/-- What is assembled beside the instruments leaves them alone. -/
theorem assembled
    (populated : Populated known stage)
    {left : List Primitive}
    (assembled : Assembled stage left final) :
    Populated known final where
  onTape := assembled.onTape
  records instrument member := (populated.records instrument member).grows
    assembled.slots_le assembled.built_le
  apart := populated.apart
  lives instrument member := by
    obtain ⟨life, lives⟩ := populated.lives instrument member
    exact ⟨life, lives.alike (Instrument.alikeOn_of_assembled populated.onTape
      assembled (populated.records instrument member))⟩

/-- A new instrument is apart from all others, and its life begins. -/
theorem built
    (populated : Populated known stage)
    {instrument : Instrument Float}
    (newborn : instrument.Newborn stage final) :
    Populated (instrument :: known) final := by
  have beside := populated.assembled newborn.toAssembled
  have placed : instrument.PlacedBetween stage final :=
    ⟨newborn.least_number, newborn.number_lt, newborn.between⟩
  refine ⟨beside.onTape, ?_, .cons ?_ beside.apart, ?_⟩
  · intro other member
    rcases List.mem_cons.1 member with rfl | earlier
    · exact Ensemble.records_of_placed placed
    · exact beside.records other earlier
  · exact fun other member =>
      Ensemble.apart_of_placed placed (populated.records other member)
  · intro other member
    rcases List.mem_cons.1 member with rfl | earlier
    · exact ⟨_, newborn.lives⟩
    · exact beside.lives other earlier

/-- A step of one instrument is a step of its own life, and of no other. -/
theorem stepped
    [Limits]
    (populated : Populated known stage)
    {instrument : Instrument Float}
    (member : instrument ∈ known)
    (step : Instrument.Step Float) :
    Populated known ((step.perform instrument).run stage).2 := by
  obtain ⟨onTape, slots, built⟩ := (Instrument.grows_rules instrument).step
    Stage.grows_setClock Stage.grows_advance step stage populated.onTape
  refine ⟨onTape, fun other inside =>
    (populated.records other inside).grows slots built, populated.apart, ?_⟩
  intro other inside
  obtain ⟨life, lives⟩ := populated.lives other inside
  rcases populated.eq_or_apart member inside with rfl | apart
  · exact ⟨_, lives.step step⟩
  · exact ⟨life, lives.alike
      (Instrument.spares_step apart step stage populated.onTape)⟩

/-- Lives do not depend on the clock. -/
theorem clocked (populated : Populated known stage) (reading : Float) :
    Populated known { stage with clock := reading } where
  onTape := populated.onTape
  records instrument member := (populated.records instrument member).grows
    (Nat.le_refl _) (Nat.le_refl _)
  apart := populated.apart
  lives instrument member := by
    obtain ⟨life, lives⟩ := populated.lives instrument member
    exact ⟨life, lives.alike (instrument.keeps_setClock reading stage
      populated.onTape)⟩

theorem turned
    [Limits]
    (populated : Populated known stage)
    (turn : Turn known stage more final) :
    Populated more final := by
  cases turn with
  | built made =>
      exact populated.built (Instrument.newborn_of_make populated.onTape made)
  | refused _ =>
      obtain ⟨left, assembled⟩ :=
        Instrument.exists_assembled populated.onTape _ _
      exact populated.assembled assembled
  | stepped step member => exact populated.stepped member step
  | clocked reading => exact populated.clocked reading

end Populated

/-- Whatever the history of a stage on a tape, the instruments that were built live
on it. -/
theorem History.populated
    [Limits]
    {opened stage : Stage Float}
    {known : List (Instrument Float)}
    (onTape : opened.OnTape)
    (history : History opened known stage) :
    Populated known stage := by
  induction history with
  | opened => exact ⟨onTape, by simp, .nil, by simp⟩
  | turned _ turn populated => exact populated.turned turn

end Stage

/-! ## Ensembles -/

namespace Ensemble

/-- What can have become of an ensemble since it was opened on a stage, and the
instruments that were built there. Any of these may be in the band. -/
inductive History (opened : Stage R) : List (Instrument R) → Ensemble R → Prop
  | opened : History opened [] (onStageOf opened)
  | turned {known more : List (Instrument R)} {ensemble : Ensemble R}
      {stage : Stage R} :
      History opened known ensemble →
        Stage.Turn known ensemble.stage more stage →
        History opened more { ensemble with stage }
  | played {known : List (Instrument R)} {ensemble : Ensemble R}
      (mapping times : Value R) (interrupt : Bool) :
      History opened known ensemble →
        History opened known ((play mapping times interrupt).run ensemble).2
  | banded {known : List (Instrument R)} {ensemble : Ensemble R}
      {band : Registry R (Instrument R)} :
      History opened known ensemble →
        (∀ instrument ∈ band.held, instrument ∈ known) →
        History opened known { ensemble with band }
  | recorded {known : List (Instrument R)} {ensemble : Ensemble R}
      {album : Registry R (Melody R)} :
      History opened known ensemble → History opened known { ensemble with album }

/-- A performance whose tracks are found changes the stage by its tracks, and nothing
else. -/
theorem run_play_of_tracks
    {mapping times : Value R}
    {entries : Entries R}
    (named : mapping.toEntries = .ok entries)
    {ensemble looked : Ensemble R}
    {tracks : List (Instrument R × Melody R)}
    (found : (entries.mapM (track times)).Reaches ensemble tracks looked)
    (interrupt : Bool) :
    ((play mapping times interrupt).run ensemble).2 =
      { ensemble with
        stage := ((playTracks tracks interrupt).run ensemble.stage).2 } := by
  obtain ⟨-, rfl⟩ := reaches_tracks.1 found
  rw [play, named, Instrument.liftM_ok_bind, (found.run_bind _).2]
  rfl

/-- A performance whose tracks are not found is refused like them, and changes
nothing. -/
theorem run_play_of_refused
    {mapping times : Value R}
    {entries : Entries R}
    (named : mapping.toEntries = .ok entries)
    {ensemble : Ensemble R}
    {failure : Failure R}
    (refused : ((entries.mapM (track times)).run ensemble).1.outcome =
      .error failure)
    (interrupt : Bool) :
    ((play mapping times interrupt).run ensemble).1.outcome = .error failure ∧
      ((play mapping times interrupt).run ensemble).2 = ensemble := by
  have unchanged : (entries.mapM (track times)).Keeps Eq :=
    (Session.keeps_rules Eq).mapM fun entry _ => keeps_track times entry
  rw [play, named, Instrument.liftM_ok_bind, Session.run_bind_eq, refused]
  exact ⟨rfl, (unchanged ensemble).symm⟩

/-- A performance whose tracks are not found changes nothing; all others are on
instruments of the band. -/
theorem run_play
    (mapping times : Value R)
    (interrupt : Bool)
    (ensemble : Ensemble R) :
    ((play mapping times interrupt).run ensemble).2 = ensemble ∨
      ∃ tracks : List (Instrument R × Melody R),
        (∀ track ∈ tracks, track.1 ∈ ensemble.band.held) ∧
        ((play mapping times interrupt).run ensemble).2 =
          { ensemble with
            stage := ((playTracks tracks interrupt).run ensemble.stage).2 } := by
  cases named : mapping.toEntries with
  | error failure =>
      rw [play, named]
      exact .inl rfl
  | ok entries =>
      cases found : ((entries.mapM (track times)).run ensemble).1.outcome with
      | error failure => exact .inl (run_play_of_refused named found interrupt).2
      | ok tracks =>
          obtain ⟨each, -⟩ := reaches_tracks.1 ⟨found, rfl⟩
          have instruments := instruments_of_tracks each
          exact .inr ⟨tracks, fun own inside => mem_held_of_mem_mapped
            (instruments ▸ List.mem_map_of_mem inside),
            run_play_of_tracks named ⟨found, rfl⟩ interrupt⟩

/-- The history of an ensemble is one of its stage, and the instruments in its band
are among those that were built there. -/
theorem History.onStage
    {opened : Stage R}
    {known : List (Instrument R)}
    {ensemble : Ensemble R}
    (history : History opened known ensemble) :
    Stage.History opened known ensemble.stage ∧
      ∀ instrument ∈ ensemble.band.held, instrument ∈ known := by
  induction history with
  | opened => exact ⟨.opened, by simp [onStageOf, Registry.empty, Registry.held]⟩
  | turned _ turn hypothesis =>
      obtain ⟨history, held⟩ := hypothesis
      refine ⟨history.turned turn, fun instrument member => ?_⟩
      have earlier := held instrument member
      cases turn with
      | built _ => exact List.mem_cons_of_mem _ earlier
      | _ => exact earlier
  | @played known ensemble mapping times interrupt _ hypothesis =>
      obtain ⟨history, held⟩ := hypothesis
      rcases run_play mapping times interrupt ensemble with same | played
      · rw [same]
        exact ⟨history, held⟩
      · obtain ⟨tracks, members, same⟩ := played
        rw [same]
        refine ⟨keeps_playTracks (fun track inside => Stage.leads_rules
          (held _ (members track inside))) (Stage.leads_setClock known) interrupt
            ensemble.stage opened history, held⟩
  | banded _ held hypothesis => exact ⟨hypothesis.1, held⟩
  | recorded _ hypothesis => exact hypothesis

/-! ## Requests -/

end Ensemble

namespace Stage

omit [Machine R] in
/-- One stage is another at some other time. -/
def Clocks (before after : Stage R) : Prop :=
  ∃ reading, after = { before with clock := reading }

omit [Machine R] in
instance : IsPreorder (Stage R) Clocks where
  refl stage := ⟨stage.clock, rfl⟩
  trans _ _ _ first second := by
    obtain ⟨_, rfl⟩ := first
    obtain ⟨reading, rfl⟩ := second
    exact ⟨reading, rfl⟩

omit [Machine R] in
theorem clocks_setClock (reading : R) : (setClock reading).Keeps Clocks :=
  Session.keeps_modify fun _ => ⟨reading, rfl⟩

end Stage

namespace Ensemble

/-- One ensemble leads to another since some stage was opened: whatever the history
of the one is part of the history of the other, on whose stage more instruments may
have been built. -/
def Follows (opened : Stage R) (before after : Ensemble R) : Prop :=
  ∀ known, History opened known before →
    ∃ more, History opened (more ++ known) after

instance (opened : Stage R) : IsPreorder (Ensemble R) (Follows opened) where
  refl _ _ history := ⟨[], history⟩
  trans _ _ _ first second known history := by
    obtain ⟨earlier, between⟩ := first known history
    obtain ⟨more, after⟩ := second (earlier ++ known) between
    exact ⟨more ++ earlier, by rwa [List.append_assoc]⟩

theorem follows_makeWith
    (opened : Stage R)
    (configuration : Value R)
    (options : Entries R) :
    (makeWith configuration options).Keeps (Follows opened) := by
  intro ensemble known history
  rw [makeWith, Session.run_bind_eq]
  cases outcome : ((onStage (Instrument.make configuration options)).run
      ensemble).1.outcome with
  | error failure => exact ⟨[], history.turned (.refused outcome)⟩
  | ok made =>
      have built : History opened (made :: known)
          ((onStage (Instrument.make configuration options)).run ensemble).2 :=
        history.turned (.built ⟨outcome, rfl⟩)
      have chosen : (Registry.make (pure made : Logged R (Instrument R))).Keeps
          (Registry.StillHolds (· ∈ made :: known)) := by
        apply Registry.keeps_make
        rintro object ⟨⟩
        exact List.mem_cons_self
      exact ⟨[made], built.banded (chosen _ built.onStage.2)⟩

theorem follows_onBand
    {opened : Stage R}
    {α : Type}
    {operation : Session (Registry R (Instrument R)) R α}
    (keeps : ∀ allowed, operation.Keeps (Registry.StillHolds allowed)) :
    (onBand operation).Keeps (Follows opened) := by
  intro ensemble known history
  refine ⟨[], history.banded ?_⟩
  exact keeps (· ∈ known) ensemble.band history.onStage.2

theorem follows_onStage
    {opened : Stage R}
    {α : Type}
    {operation : Session (Stage R) R α}
    (clocks : operation.Keeps Stage.Clocks) :
    (onStage operation).Keeps (Follows opened) := by
  intro ensemble known history
  obtain ⟨reading, clocked⟩ := clocks ensemble.stage
  have turned := history.turned (.clocked reading)
  rw [← clocked] at turned
  exact ⟨[], turned⟩

theorem follows_rules (opened : Stage R) :
    RequestRules fun _ session => session.Keeps (Follows opened) where
  toRules := Session.keeps_rules (Follows opened)
  makeWith := follows_makeWith opened
  onBand := follows_onBand
  onAlbum _ _ _ history := ⟨[], history.recorded⟩
  advance seconds := follows_onStage
    (Stage.keeps_advance Stage.clocks_setClock seconds)
  play mapping times interrupt _ _ history :=
    ⟨[], history.played mapping times interrupt⟩

/-- Whatever is asked of a new ensemble by name, what comes of it has a history. -/
theorem exists_history
    (opened : Stage R)
    {requests : List (Request R)}
    (byName : ∀ request ∈ requests, request.IsByName) :
    ∃ known,
      History opened known ((handleAll requests).run (onStageOf opened)).2 := by
  have follows : (handleAll requests).Keeps (Follows opened) :=
    keeps_handleAll fun request member =>
      (follows_rules opened).handle (byName request member)
  obtain ⟨known, history⟩ := follows (onStageOf opened) [] .opened
  exact ⟨known ++ [], history⟩

end Ensemble
end MelodyAutomation

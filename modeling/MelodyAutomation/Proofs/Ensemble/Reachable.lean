import MelodyAutomation.Proofs.Ensemble.Tracks
import MelodyAutomation.Proofs.Instrument.Newborn
import MelodyAutomation.Proofs.Registry
import MelodyAutomation.Scalar.Double
import MelodyAutomation.Song
import Mathlib.Data.List.Pairwise

/-!
# Ensembles that can be reached

An ensemble begins on a tape, without instruments. From then on instruments are
built on the stage, and what was built can be in the band. However an ensemble was
reached, it is sound: it stays on its tape, the instruments that were built are
recorded there, and no two of them have a node in common. All requests lead from
ensembles that can be reached to others, whether or not they are refused.
-/

namespace MelodyAutomation
namespace Ensemble

variable {R : Type} [Machine R]

/-- The ensembles that can be reached, with the instruments that have been built on
their stages. A stage may be used in every way that erases none of its records. -/
inductive Reachable : List (Instrument R) → Ensemble R → Prop
  | opened {stage : Stage R} :
      stage.OnTape → Reachable [] (onStageOf stage)
  | built {known : List (Instrument R)} {ensemble : Ensemble R}
      {configuration : Value R} {options : Entries R}
      {instrument : Instrument R} {stage : Stage R} :
      Reachable known ensemble →
        (Instrument.make configuration options).Reaches ensemble.stage
          instrument stage →
        Reachable (instrument :: known) { ensemble with stage }
  | staged {known : List (Instrument R)} {ensemble : Ensemble R}
      {stage : Stage R} :
      Reachable known ensemble → ensemble.stage.Grows stage →
        Reachable known { ensemble with stage }
  | banded {known : List (Instrument R)} {ensemble : Ensemble R}
      {band : Registry R (Instrument R)} :
      Reachable known ensemble →
        (∀ instrument ∈ band.held, instrument ∈ known) →
        Reachable known { ensemble with band }
  | recorded {known : List (Instrument R)} {ensemble : Ensemble R}
      {album : Registry R (Melody R)} :
      Reachable known ensemble → Reachable known { ensemble with album }

/-! ## Soundness -/

omit [Machine R] in
/-- An instrument is recorded on a stage: its number was given, and its nodes are
on the tape. -/
structure Records (stage : Stage R) (instrument : Instrument R) : Prop where
  number_lt : instrument.number < stage.built
  between : ∀ primitive ∈ instrument.primitives,
    primitive.Between 0 stage.slots

omit [Machine R] in
/-- An ensemble is on a tape that records some instruments, which are apart from
each other, and there are no others in its band. -/
structure Sound (known : List (Instrument R)) (ensemble : Ensemble R) :
    Prop where
  onTape : ensemble.stage.OnTape
  records : ∀ instrument ∈ known, Records ensemble.stage instrument
  pairwise : known.Pairwise Instrument.Apart
  held : ∀ instrument ∈ ensemble.band.held, instrument ∈ known

section

omit [Machine R]

theorem Records.grows
    {before after : Stage R}
    {instrument : Instrument R}
    (recorded : Records before instrument)
    (slots : before.slots ≤ after.slots)
    (built : before.built ≤ after.built) :
    Records after instrument := by
  refine ⟨Nat.lt_of_lt_of_le recorded.number_lt built, ?_⟩
  intro primitive member
  exact (recorded.between primitive member).mono (Nat.le_refl _) slots

/-- What was just built is recorded. -/
theorem records_of_placed
    {before after : Stage R}
    {made : Instrument R}
    (placed : made.PlacedBetween before after) :
    Records after made := by
  refine ⟨placed.number_lt, ?_⟩
  intro primitive member
  exact (placed.between primitive member).mono (Nat.zero_le _) (Nat.le_refl _)

/-- What was just built is apart from all that was recorded before. -/
theorem apart_of_placed
    {before after : Stage R}
    {made old : Instrument R}
    (placed : made.PlacedBetween before after)
    (recorded : Records before old) :
    made.Apart old := by
  constructor
  · have older := recorded.number_lt
    have newer := placed.least_number
    omega
  · intro first ours second theirs same
    obtain ⟨_, number, node, least, -⟩ := placed.between first ours
    obtain ⟨_, other, otherNode, -, greatest⟩ :=
      recorded.between second theirs
    rw [node, otherNode] at same
    have equal : number = other := Option.some.inj same
    omega

instance : Std.Symm (Instrument.Apart : Instrument R → Instrument R → Prop) :=
  ⟨fun _ _ => Instrument.Apart.symm⟩

/-- Instruments with different numbers are apart. -/
theorem Sound.apart
    {known : List (Instrument R)}
    {ensemble : Ensemble R}
    (sound : Sound known ensemble)
    {left right : Instrument R}
    (inLeft : left ∈ known)
    (inRight : right ∈ known)
    (different : left.number ≠ right.number) :
    left.Apart right := by
  apply sound.pairwise.forall inLeft inRight
  intro same
  exact different (congrArg Instrument.number same)

end

/-- Every ensemble that can be reached is sound. -/
theorem Reachable.sound
    {known : List (Instrument R)}
    {ensemble : Ensemble R}
    (reachable : Reachable known ensemble) :
    Sound known ensemble := by
  -- Only a new instrument must be shown to be apart from the others: its nodes come after
  -- all that the stage held before. Every other step only lets the stage grow.
  induction reachable with
  | @opened stage onTape =>
      have without : (onStageOf stage).band.held = [] := rfl
      exact ⟨onTape, by simp, .nil, by simp [without]⟩
  | @built known ensemble configuration options made stage _ ran sound =>
      have placed := Instrument.placed_of_make sound.onTape ran
      obtain ⟨onTape, slots, built⟩ :=
        (Instrument.grows_make configuration options).of_reaches ran sound.onTape
      refine ⟨onTape, ?_, ?_, ?_⟩
      · intro instrument member
        rcases List.mem_cons.1 member with rfl | old
        · exact records_of_placed placed
        · exact (sound.records instrument old).grows slots built
      · refine .cons ?_ sound.pairwise
        intro old member
        exact apart_of_placed placed (sound.records old member)
      · intro instrument member
        exact List.mem_cons_of_mem _ (sound.held instrument member)
  | staged _ grows sound =>
      obtain ⟨onTape, slots, built⟩ := grows sound.onTape
      refine ⟨onTape, ?_, sound.pairwise, sound.held⟩
      intro instrument member
      exact (sound.records instrument member).grows slots built
  | banded _ held sound =>
      exact ⟨sound.onTape, sound.records, sound.pairwise, held⟩
  | recorded _ sound =>
      exact ⟨sound.onTape, sound.records, sound.pairwise, sound.held⟩

/-! ## Requests -/

/-- An ensemble leads to another: if it could be reached, so can the other, on a
stage on which more instruments may have been built. -/
def LeadsTo (before after : Ensemble R) : Prop :=
  ∀ known, Reachable known before →
    ∃ more, Reachable (more ++ known) after

instance : IsPreorder (Ensemble R) LeadsTo where
  refl _ known reachable := ⟨[], reachable⟩
  trans _ _ _ first second known reachable := by
    obtain ⟨earlier, between⟩ := first known reachable
    obtain ⟨more, reached⟩ := second (earlier ++ known) between
    exact ⟨more ++ earlier, by rwa [List.append_assoc]⟩

theorem keeps_onStage
    {α : Type}
    {operation : Session (Stage R) R α}
    (grows : operation.Keeps Stage.Grows) :
    (onStage operation).Keeps LeadsTo := by
  refine Session.keeps_within grows ?_
  intro ensemble stage grown known reachable
  exact ⟨[], reachable.staged grown⟩

theorem keeps_onBand
    {α : Type}
    {operation : Session (Registry R (Instrument R)) R α}
    (keeps : ∀ allowed, operation.Keeps (Registry.StillHolds allowed)) :
    (onBand operation).Keeps LeadsTo := by
  intro ensemble known reachable
  refine ⟨[], reachable.banded ?_⟩
  exact keeps (· ∈ known) ensemble.band reachable.sound.held

theorem keeps_onAlbum
    {α : Type}
    (operation : Session (Registry R (Melody R)) R α) :
    (onAlbum operation).Keeps LeadsTo :=
  fun _ _ reachable => ⟨[], reachable.recorded⟩

/-- Make an instrument with options the current one of the band. -/
def makeWith (configuration : Value R) (options : Entries R) :
    Session (Ensemble R) R Unit := do
  let instrument ← onStage (Instrument.make configuration options)
  onBand (Registry.make (pure instrument))

theorem keeps_makeWith (configuration : Value R) (options : Entries R) :
    (makeWith configuration options).Keeps LeadsTo := by
  intro ensemble known reachable
  rw [makeWith, Session.run_bind_eq]
  cases outcome : ((onStage (Instrument.make configuration options)).run
      ensemble).1.outcome with
  | error failure =>
      exact keeps_onStage (Instrument.grows_make configuration options)
        ensemble known reachable
  | ok made =>
      have built : Reachable (made :: known)
          ((onStage (Instrument.make configuration options)).run ensemble).2 :=
        reachable.built ⟨outcome, rfl⟩
      have chosen : (Registry.make (pure made : Logged R (Instrument R))).Keeps
          (Registry.StillHolds (· ∈ made :: known)) := by
        apply Registry.keeps_make
        rintro object ⟨⟩
        exact List.mem_cons_self
      exact ⟨[made], built.banded (chosen _ built.sound.held)⟩

/-- Looking up what is to be played changes nothing. -/
theorem keeps_track
    {step : Ensemble R → Ensemble R → Prop}
    [IsPreorder (Ensemble R) step]
    (times : Value R)
    (entry : Value R × Value R) :
    (track times entry).Keeps step := by
  have rules := Session.keeps_rules (R := R) step
  refine rules.bind ?_ fun instrument => rules.bind ?_ fun melody => ?_
  · exact Session.keeps_within (Registry.keeps_retrieve entry.1)
      fun ensemble band (same : ensemble.band = band) => by
        subst same
        exact refl ensemble
  · exact Session.keeps_within (Registry.keeps_retrieve entry.2)
      fun ensemble album (same : ensemble.album = album) => by
        subst same
        exact refl ensemble
  · exact rules.logged_bind fun looped _ => rules.pure _

theorem grows_playTracks
    (tracks : List (Instrument R × Melody R))
    (interrupt : Bool) :
    (playTracks tracks interrupt).Keeps Stage.Grows :=
  keeps_playTracks (fun track _ => .ofOwn (Instrument.grows_rules track.1))
    Stage.grows_setClock interrupt

theorem keeps_play (mapping times : Value R) (interrupt : Bool) :
    (play mapping times interrupt).Keeps LeadsTo := by
  have rules := Session.keeps_rules (R := R) (LeadsTo (R := R))
  refine rules.attempt_bind fun entries _ => ?_
  refine rules.bind (rules.mapM fun entry _ => keeps_track times entry)
    fun tracks => ?_
  refine rules.bind (rules.report _) fun _ => ?_
  exact keeps_onStage (grows_playTracks tracks interrupt)

theorem keeps_saveAs
    {T : Type}
    {allowed : T → Prop}
    (name : Value R) :
    (Song.saveAs name : Session (Registry R T) R Unit).Keeps
      (Registry.StillHolds allowed) := by
  unfold Song.saveAs
  split
  · exact Registry.keeps_save name
  · exact (Session.keeps_rules _).bind (Registry.keeps_store name) fun _ =>
      (Session.keeps_rules _).throw _

omit [Machine R] in
theorem grows_close :
    (Stage.onEngine Engine.close : Session (Stage R) R Unit).Keeps
      Stage.Grows := by
  rintro stage ⟨tape, onTape⟩
  have closed : ((Stage.onEngine Engine.close).run stage).2 =
      { stage with engine := .tape { tape with closed := true } } := by
    simp [Stage.onEngine, Session.within, Engine.close, onTape]
  rw [closed]
  refine ⟨⟨_, rfl⟩, ?_, Nat.le_refl _⟩
  simp [Stage.slots, onTape]

/-- What can be asked of an ensemble, and of the instruments on its stage. -/
inductive Request (R : Type)
  | make (configuration : Value R) (options : Entries R)
  | makeOf (arguments : List (Value R))
  | save (name : Value R)
  | clone (name : Value R)
  | melodies (operation : Session (Registry R (Melody R)) R Unit)
  | load (path : String) (file : SongFile R)
  | play (mapping times : Value R) (interrupt : Bool)
  | instruct (instrument : Instrument R) (act : Instrument.Act R)
  | advance (seconds : Value R)
  | close

/-- Handle a request. -/
def Request.handle : Request R → Session (Ensemble R) R Unit
  | make configuration options => makeWith configuration options
  | makeOf arguments => makeInstrumentOf arguments
  | save name => onBand (Registry.save name)
  | clone name => onBand (Registry.clone Instrument.cloning name)
  | melodies operation => onAlbum operation
  | load path file => do
      let _ ← Song.load path file
      pure ()
  | play mapping times interrupt => do
      let _ ← Ensemble.play mapping times interrupt
      pure ()
  | instruct instrument act => onStage (act.perform instrument)
  | advance seconds => onStage (Stage.advance seconds)
  | close => onStage (Stage.onEngine Engine.close)

/-- Make a melody of one note and store it under a name. -/
def storeNote [Limits] (name : String) (note : Entries Float) :
    Session (Registry Float (Melody Float)) Float Unit := do
  Registry.make (Logged.ofAttempt (Melody.ofArguments [.list [.map note]]))
  Registry.save (.text name)

/-- Whether a request concerns an ensemble by the names in its registries: it takes
no instrument in hand, and leaves the engine open. -/
def Request.IsByName : Request R → Prop
  | instruct _ _ => False
  | close => False
  | _ => True

/-- A property of sessions holds of what requests are made of. -/
structure RequestRules (holds : ∀ α : Type, Session (Ensemble R) R α → Prop) :
    Prop extends Session.Rules holds where
  makeWith : ∀ configuration options,
    holds Unit (makeWith configuration options)
  onBand : ∀ {α : Type} {operation : Session (Registry R (Instrument R)) R α},
    (∀ allowed, operation.Keeps (Registry.StillHolds allowed)) →
      holds α (onBand operation)
  onAlbum : ∀ {α : Type} (operation : Session (Registry R (Melody R)) R α),
    holds α (onAlbum operation)
  advance : ∀ seconds, holds Unit (onStage (Stage.advance seconds))
  play : ∀ mapping times interrupt,
    holds Ending (play mapping times interrupt)

namespace RequestRules

variable {holds : ∀ α : Type, Session (Ensemble R) R α → Prop}

theorem makeInstrumentOf
    (requests : RequestRules holds)
    (arguments : List (Value R)) :
    holds Unit (makeInstrumentOf arguments) := by
  unfold Ensemble.makeInstrumentOf
  split
  · exact requests.makeWith _ []
  · exact requests.makeWith _ []
  · exact requests.throw _

theorem load
    (requests : RequestRules holds)
    (path : String)
    (file : SongFile R) :
    holds (Song R) (Song.load path file) := by
  refine requests.logged_bind fun configuration _ => ?_
  refine requests.attempt_bind fun fields _ => ?_
  refine requests.attempt_bind fun instruments _ => ?_
  refine requests.bind (requests.forM fun entry _ => ?_) fun _ => ?_
  · refine requests.attempt_bind fun settings _ => ?_
    refine requests.bind (requests.makeWith _ []) fun _ => ?_
    exact requests.onBand fun allowed => keeps_saveAs entry.1
  refine requests.attempt_bind fun melodies _ => ?_
  refine requests.bind (requests.forM fun entry _ => ?_) fun _ => ?_
  · refine requests.attempt_bind fun fields _ => ?_
    exact requests.bind (requests.onAlbum _) fun _ => requests.onAlbum _
  refine requests.attempt_bind fun played _ => ?_
  refine requests.attempt_bind fun _ _ => ?_
  exact requests.attempt_bind fun loop _ => requests.pure _

/-- What holds of the parts of requests holds of every request by name. -/
theorem handle
    (requests : RequestRules holds)
    {request : Request R}
    (byName : request.IsByName) :
    holds Unit request.handle := by
  cases request with
  | make configuration options => exact requests.makeWith configuration options
  | makeOf arguments => exact requests.makeInstrumentOf arguments
  | save name => exact requests.onBand fun _ => Registry.keeps_save name
  | clone name =>
      exact requests.onBand fun _ => Registry.keeps_clone (fun _ => rfl) name
  | melodies operation => exact requests.onAlbum operation
  | load path file =>
      exact requests.bind (requests.load path file) fun _ => requests.pure _
  | play mapping times interrupt =>
      exact requests.bind (requests.play mapping times interrupt) fun _ =>
        requests.pure _
  | advance seconds => exact requests.advance seconds
  | instruct => exact byName.elim
  | close => exact byName.elim

end RequestRules

theorem leadsTo_rules :
    RequestRules fun _ session => session.Keeps (LeadsTo (R := R)) where
  toRules := Session.keeps_rules LeadsTo
  makeWith := keeps_makeWith
  onBand := keeps_onBand
  onAlbum := keeps_onAlbum
  advance seconds := keeps_onStage (Stage.grows_advance seconds)
  play := keeps_play

/-- Every request leads to an ensemble that can be reached. -/
theorem Request.keeps_handle (request : Request R) :
    request.handle.Keeps LeadsTo := by
  cases request with
  | instruct instrument act =>
      exact keeps_onStage ((Instrument.grows_rules instrument).act
        Stage.grows_setClock Stage.grows_advance (act.accepts_all instrument))
  | close => exact keeps_onStage grows_close
  | _ => exact leadsTo_rules.handle trivial

/-- Handle requests one after another, whether or not one is refused. -/
def handleAll (requests : List (Request R)) : Session (Ensemble R) R Unit :=
  requests.forM fun request => do
    let _ ← Session.attempt request.handle
    pure ()

theorem keeps_handleAll
    {step : Ensemble R → Ensemble R → Prop}
    [IsPreorder (Ensemble R) step]
    {requests : List (Request R)}
    (keeps : ∀ request ∈ requests, request.handle.Keeps step) :
    (handleAll requests).Keeps step :=
  have rules := Session.keeps_rules (R := R) step
  rules.forM fun request member =>
    rules.bind (rules.attempt (keeps request member)) fun _ => rules.pure _

/-- Whatever is asked of a new ensemble, what comes of it can be reached. -/
theorem exists_reachable
    {stage : Stage R}
    (onTape : stage.OnTape)
    (requests : List (Request R)) :
    ∃ known,
      Reachable known ((handleAll requests).run (onStageOf stage)).2 := by
  have leads : (handleAll requests).Keeps LeadsTo :=
    keeps_handleAll fun request _ => request.keeps_handle
  obtain ⟨known, reachable⟩ := leads (onStageOf stage) [] (.opened onTape)
  exact ⟨known ++ [], reachable⟩

end Ensemble
end MelodyAutomation

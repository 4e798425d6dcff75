import MelodyAutomation.Proofs.Engine.Losses
import MelodyAutomation.Proofs.Ensemble.Reachable
import MelodyAutomation.Proofs.Stage.Rules

/-!
# Ensembles over a link with outages

Whatever is asked of an ensemble over a link, it makes no difference which of the
messages are delivered: no request learns of it. What is requested comes to the same,
the instruments play alike, and all messages are sent in any case. Only the link reports
each one that was lost.
-/

namespace MelodyAutomation

variable {R : Type}

/-! ## Stages -/

namespace Stage

/-- Two stages are alike when they are the same but for their engines, which are
alike. -/
structure Alike (outage : Outage R) (lossy sound : Stage R) : Prop where
  same : { lossy with engine := sound.engine } = sound
  engines : Engine.Alike outage lossy.engine sound.engine

/-- Why messages were not delivered to the engine of a stage. -/
def losses (stage : Stage R) : List String := stage.engine.losses

variable (outage : Outage R)

theorem weathers_onEngine
    {α : Type}
    {operation : Session (Engine R) R α}
    (weathers : operation.Weathers (Engine.Alike outage) Engine.losses) :
    (onEngine operation).Weathers (Alike outage) losses := by
  refine weathers.within (fun _ _ alike => alike.engines) ?_ (fun _ => rfl)
    fun _ _ => rfl
  intro lossy sound engine other alike engines
  refine ⟨?_, engines⟩
  rw [← alike.same]

variable [Machine R]

/-- Everything that is done on a stage weathers losses. -/
theorem weathers_rules :
    Rules fun _ session => session.Weathers (Alike outage) losses where
  toRules := Session.weathers_rules (Alike outage) losses
  look blind continued := by
    refine Session.weathers_get_bind (fun lossy sound alike => ?_) continued
    rw [← alike.same]
    exact (blind lossy _).symm
  modify {change} blind := by
    -- What changes alike whatever the engine is leaves the engine alone.
    have engine_eq (stage : Stage R) :
        (change stage).engine = stage.engine := by
      have same := congrArg Stage.engine (blind stage stage.engine)
      exact same
    refine Session.weathers_modify (fun lossy sound alike => ⟨?_, ?_⟩)
      fun stage => congrArg Engine.losses (engine_eq stage)
    · rw [engine_eq, ← blind, alike.same]
    · rw [engine_eq, engine_eq]
      exact alike.engines
  create blueprint := weathers_onEngine outage
    (Engine.weathers_ofLink (Link.weathers_create outage blueprint) fun _ => rfl)
  perform command := weathers_onEngine outage
    (Engine.weathers_ofLink (Link.weathers_perform outage command) fun _ => rfl)

omit [Machine R] in
/-- Nothing has been lost over a link before it is opened. -/
theorem weathers_openLink
    (clock : R)
    (timebase : Timebase R)
    (realtime : Bool)
    (base : String)
    (host : Option String)
    (portNumber : Option Int) :
    let lossy := openLink clock timebase realtime base host portNumber outage
    let sound := openLink clock timebase realtime base host portNumber
      fun _ => none
    Alike outage lossy.2 sound.2 ∧
      Gains lossy.2.losses lossy.1.notices sound.1.notices := by
  have started : (Engine.onLink (Link.start host portNumber)).Weathers
      (Engine.Alike outage) Engine.losses :=
    Engine.weathers_ofLink (Link.weathers_start outage host portNumber)
      fun _ => rfl
  have idle : Alike outage
      (empty clock timebase realtime (.link (Link.idle base outage)))
      (empty clock timebase realtime (.link (Link.idle base fun _ => none))) :=
    ⟨rfl, _, _, rfl, rfl, ⟨rfl, rfl, rfl, rfl, rfl, rfl⟩⟩
  obtain ⟨-, alike, lost, after, gains⟩ :=
    weathers_onEngine outage started _ _ idle
  refine ⟨alike, ?_⟩
  change losses _ = [] ++ lost at after
  rw [List.nil_append] at after
  exact after ▸ gains

end Stage

namespace Ensemble

/-! ## Ensembles -/

/-- Two ensembles are alike when they have the same band and album, on stages that are
alike. -/
structure Alike (outage : Outage R) (lossy sound : Ensemble R) : Prop where
  stages : lossy.stage.Alike outage sound.stage
  band_eq : lossy.band = sound.band
  album_eq : lossy.album = sound.album

/-- Why messages were not delivered to the engine of an ensemble. -/
def losses (ensemble : Ensemble R) : List String := ensemble.stage.losses

section

variable (outage : Outage R)

theorem weathers_onStage
    {α : Type}
    {operation : Session (Stage R) R α}
    (weathers : operation.Weathers (Stage.Alike outage) Stage.losses) :
    (onStage operation).Weathers (Alike outage) losses :=
  weathers.within (fun _ _ alike => alike.stages)
    (fun _ _ _ _ alike stages => ⟨stages, alike.band_eq, alike.album_eq⟩)
    (fun _ => rfl) fun _ _ => rfl

theorem weathers_onBand
    {α : Type}
    (operation : Session (Registry R (Instrument R)) R α) :
    (onBand operation).Weathers (Alike outage) losses :=
  Session.weathers_within_of_eq operation (fun _ _ alike => alike.band_eq)
    (fun _ _ _ alike => ⟨alike.stages, rfl, alike.album_eq⟩) fun _ _ => rfl

theorem weathers_onAlbum
    {α : Type}
    (operation : Session (Registry R (Melody R)) R α) :
    (onAlbum operation).Weathers (Alike outage) losses :=
  Session.weathers_within_of_eq operation (fun _ _ alike => alike.album_eq)
    (fun _ _ _ alike => ⟨alike.stages, alike.band_eq, rfl⟩) fun _ _ => rfl

variable [Machine R]

/-- Performances weather losses. -/
theorem weathers_performance :
    PerformanceRules fun _ session =>
      session.Weathers (Stage.Alike (R := R) outage) Stage.losses where
  toRules := Session.weathers_rules (Stage.Alike outage) Stage.losses
  bind_of_reaches := Session.weathers_bind_of_reaches
  look byClock := (Stage.weathers_rules outage).look fun _ _ => byClock _ _ rfl
  setClock := (Stage.weathers_rules outage).setClock

theorem weathers_track (times : Value R) (entry : Value R × Value R) :
    (track times entry).Weathers (Alike outage) losses := by
  have rules := Session.weathers_rules (R := R) (Alike outage) losses
  refine rules.bind (weathers_onBand outage _) fun instrument => ?_
  refine rules.bind (weathers_onAlbum outage _) fun melody => ?_
  exact rules.logged_bind fun looped _ => rules.pure _

theorem weathers_play (mapping times : Value R) (interrupt : Bool) :
    (play mapping times interrupt).Weathers (Alike outage) losses := by
  have rules := Session.weathers_rules (R := R) (Alike outage) losses
  refine rules.attempt_bind fun entries _ => ?_
  refine rules.bind (rules.mapM fun entry _ => weathers_track outage times entry)
    fun tracks => ?_
  refine rules.bind (rules.report _) fun _ => weathers_onStage outage ?_
  exact (weathers_performance outage).playTracks
    (fun track _ => .ofOwn ((Stage.weathers_rules outage).own track.1)) interrupt

theorem weathers_requests :
    RequestRules fun _ session =>
      session.Weathers (Alike (R := R) outage) losses where
  toRules := Session.weathers_rules (Alike outage) losses
  makeWith configuration options :=
    (Session.weathers_rules (Alike outage) losses).bind
      (weathers_onStage outage
        ((Stage.weathers_rules outage).make configuration options))
      fun _ => weathers_onBand outage _
  onBand _ := weathers_onBand outage _
  onAlbum := weathers_onAlbum outage
  advance seconds :=
    weathers_onStage outage ((Stage.weathers_rules outage).advance seconds)
  play := weathers_play outage

/-- Every request weathers losses. -/
theorem Request.weathers_handle (request : Request R) :
    request.handle.Weathers (Alike outage) losses := by
  cases request with
  | instruct instrument act =>
      exact weathers_onStage outage
        ((Stage.weathers_rules outage).act instrument act)
  | close =>
      exact weathers_onStage outage (Stage.weathers_onEngine outage
        (Engine.weathers_ofLink (Link.weathers_close outage) fun _ => rfl))
  | _ => exact (weathers_requests outage).handle trivial

end

/-! ## Runs -/

variable [Machine R]

/-- Handle requests one after another, whether or not one is refused, and tell what
each of them came to. -/
def attemptAll (requests : List (Request R)) :
    Session (Ensemble R) R (List (Attempt R Unit)) :=
  requests.mapM fun request => Session.attempt request.handle

theorem weathers_attemptAll (outage : Outage R) (requests : List (Request R)) :
    (attemptAll requests).Weathers (Alike outage) losses :=
  have rules := Session.weathers_rules (R := R) (Alike outage) losses
  rules.mapM fun request _ => rules.attempt (request.weathers_handle outage)

/-- How a link with some outages is opened and what becomes of an ensemble over it: what
the requests came to, what was reported, and the ensemble in the end. -/
def overLink
    (clock : R)
    (timebase : Timebase R)
    (realtime : Bool)
    (base : String)
    (host : Option String)
    (portNumber : Option Int)
    (requests : List (Request R))
    (outage : Outage R) :
    Logged R (List (Attempt R Unit)) × Ensemble R :=
  let opened :=
    Stage.openLink clock timebase realtime base host portNumber outage
  let ran := (attemptAll requests).run (onStageOf opened.2)
  (ran.1.after opened.1.notices, ran.2)

/-- A run over a link with some outages goes as one over a link without any does. -/
structure Withstands (outage : Outage R)
    (lossy sound : Logged R (List (Attempt R Unit)) × Ensemble R) : Prop where
  /-- The requests come to the same, refusals included. -/
  answers : lossy.1.outcome = sound.1.outcome
  band : lossy.2.band = sound.2.band
  album : lossy.2.album = sound.2.album
  /-- The clocks show the same, and the same instruments play. -/
  stage : { lossy.2.stage with engine := sound.2.stage.engine } = sound.2.stage
  /-- The same messages are sent. One report tells of every one that is lost, in order,
  and the link reports nothing else besides. -/
  links : ∃ own other,
    lossy.2.stage.engine = .link own ∧ sound.2.stage.engine = .link other ∧
    own.outage = outage ∧ own.messages = other.messages ∧
    own.losses.length = own.latest.countP (fun sent => !sent.delivered) ∧
    Gains own.losses lossy.1.notices sound.1.notices
  /-- All other parts of the library report the same. -/
  others : (lossy.1.notices.filter fun notice => notice.source ≠ .link) =
    sound.1.notices.filter fun notice => notice.source ≠ .link

/-- Whatever is asked of an ensemble over a link, and whichever messages are lost, the
run goes as it does when none is. -/
theorem overLink_withstands_losses
    (clock : R)
    (timebase : Timebase R)
    (realtime : Bool)
    (base : String)
    (host : Option String)
    (portNumber : Option Int)
    (requests : List (Request R))
    (outage : Outage R) :
    Withstands outage
      (overLink clock timebase realtime base host portNumber requests outage)
      (overLink clock timebase realtime base host portNumber requests
        fun _ => none) := by
  obtain ⟨stages, gains⟩ := Stage.weathers_openLink outage clock timebase
    realtime base host portNumber
  -- From here on it only matters that the stages that were opened are alike.
  simp only [overLink, Logged.after_eq]
  generalize Stage.openLink clock timebase realtime base host portNumber
    (fun _ => none) = sound at stages gains ⊢
  generalize Stage.openLink clock timebase realtime base host portNumber
    outage = lossy at stages gains ⊢
  obtain ⟨answers, alike, lost, after, gainsMore⟩ :=
    weathers_attemptAll outage requests (onStageOf lossy.2) (onStageOf sound.2)
      ⟨stages, rfl, rfl⟩
  have reported := gains.append gainsMore
  obtain ⟨own, other, engine, otherEngine, links⟩ := alike.stages.engines
  have losses_eq : own.losses = lossy.2.losses ++ lost := by
    rw [← show _ = own.losses from congrArg Engine.losses engine]
    exact after
  exact
    { answers
      band := alike.band_eq
      album := alike.album_eq
      stage := alike.stages.same
      links := ⟨own, other, engine, otherEngine, links.outage_eq,
        links.messages_eq, links.undelivered, losses_eq ▸ reported⟩
      others := reported.filter_eq }

example :
    (overLink (2.0 : Float) .manual true "/band" none none [.close]
        fun _ => some "unreachable").1.notices =
      [.sendFailed "unreachable", .linkOpened none none "/band",
        .sendFailed "unreachable", .linkClosed] :=
  rfl

end Ensemble
end MelodyAutomation

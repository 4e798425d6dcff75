import MelodyAutomation.Proofs.Instrument.Moves
import MelodyAutomation.Scalar.Double

/-!
# Steps

What can be done with an instrument, one step at a time. A play takes two of them:
it begins, and goes on to its end when its time has come, whatever was done in
between. In double precision and on a tape, every step is a sequence of moves.
-/

namespace MelodyAutomation
namespace Instrument

variable {R : Type} [Machine R]

/-- One step of what is done with an instrument: an act, the beginning of a play, or
the end of one that has waited until its time. -/
inductive Step (R : Type)
  | act (act : Act R)
  | begin (composition : Value R)
  | resume (reading : R)

namespace Step

/-- Carry out a step. -/
def perform (instrument : Instrument R) : Step R → Session (Stage R) R Unit
  | act own => own.perform instrument
  | begin composition => do
      let _ ← instrument.beginPlaying composition
      pure ()
  | resume reading => do
      Stage.setClock reading
      instrument.stop

end Step

/-! ## Moves of a step -/

/-- The schedule of a composition, unless it is refused to be played. -/
def playable? (instrument : Instrument R) (composition : Value R) :
    Option (Schedule R) :=
  (instrument.scheduler.schedule composition).outcome.toOption

/-- The reading of the clock until which an instrument waits that has written a
schedule, unless it was refused to write all of it. -/
def waitsUntil? (instrument : Instrument R) (schedule : Schedule R)
    (stage : Stage R) : Option R :=
  if (instrument.scheduleWrites schedule (.real stage.nowMs)).all Except.isOk
  then stage.waitsUntil? schedule.duration
  else none

/-- The reading of the clock until which an instrument waits that has begun to play
a composition. -/
def wakes? (instrument : Instrument R) (composition : Value R)
    (stage : Stage R) : Option R :=
  (instrument.playable? composition).bind fun schedule =>
    instrument.waitsUntil? schedule stage

/-- The moves with which a play begins: it ends with them if there is nothing to
wait for. -/
def beginning (instrument : Instrument R) (composition : Value R)
    (stage : Stage R) : List (Move R) :=
  match instrument.playable? composition with
  | none => []
  | some schedule =>
      [.start, .write schedule] ++
        if (instrument.waitsUntil? schedule stage).isSome then [] else [.stop]

/-- The moves of a step. -/
def Step.moves (instrument : Instrument R) (stage : Stage R) :
    Step R → List (Move R)
  | act .start => [.start]
  | act .stop => [.stop]
  | act .destroy => [.stop, .silence]
  | act (.applySchedule composition) =>
      match (instrument.scheduler.schedule composition).outcome with
      | .ok schedule => [.write schedule]
      | .error _ => []
  | act (.play composition) =>
      instrument.beginning composition stage ++
        match instrument.wakes? composition stage with
        | some reading => [.wait reading, .stop]
        | none => []
  | act (.advance seconds) =>
      match (Value.real stage.clock).add seconds >>= Value.toScalar with
      | .ok reading => [.wait reading]
      | .error _ => []
  | begin composition => instrument.beginning composition stage
  | resume reading => [.wait reading, .stop]

/-! ## Starting and writing -/

section

variable {stage : Stage R}

theorem reaches_start
    (instrument : Instrument R)
    (onTape : stage.OnTape) :
    instrument.start.Reaches stage () (Move.start.result instrument stage) := by
  have told : instrument.start =
      Stage.performAll instrument.startScript >>= fun _ =>
        Stage.setPlaying instrument.number true := by
    simp only [start, Stage.start_eq, Stage.forM_performAll, startScript,
      Stage.performAll_append, bind_assoc]
  rw [told]
  exact Session.reaches_bind.2 ⟨(), _, Stage.reaches_performAll onTape _,
    Stage.reaches_setPlaying _ _ _⟩

omit stage in
/-- An instrument that plays is stopped by its fade and its script. -/
theorem stop_eq (instrument : Instrument R) :
    instrument.stop = Stage.isPlaying instrument.number >>= fun playing =>
      if playing then
        get >>= fun stage =>
          liftM ((Value.real stage.nowMs).add release) >>= fun silence =>
            Stage.writeAll (instrument.fadeWrites (.real stage.nowMs)) >>=
              fun _ => Stage.performAll (instrument.muteScript silence) >>=
                fun _ => Stage.setPlaying instrument.number false
      else pure () := by
  have fade (now : Value R) :
      writeSegment (instrument.oscillator.socket? .gain) (.int 0) (.int 0)
          release false now =
        Stage.writeAll (instrument.fadeWrites now) :=
    writeSegment_ramp _ fading now
  simp only [stop, fade, Stage.stop_eq, muteScript, Stage.performAll_append,
    bind_assoc]

/-- A schedule is applied as far as it can be written. -/
theorem run_applySchedule
    (instrument : Instrument R)
    (schedule : Schedule R)
    (onTape : stage.OnTape) :
    ((instrument.applySchedule schedule).run stage).1.outcome.isOk =
        (instrument.scheduleWrites schedule (.real stage.nowMs)).all
          Except.isOk ∧
      ((instrument.applySchedule schedule).run stage).2 =
        (Move.write schedule).result instrument stage := by
  rw [applySchedule_eq, Session.run_get_bind]
  exact Stage.run_writeAll onTape _

/-- Waiting is up to the clock, which no instrument moves before it waits. -/
theorem waitsUntil?_eq
    {left right : Stage R}
    (clock : left.clock = right.clock)
    (realtime : left.realtime = right.realtime) :
    left.waitsUntil? = right.waitsUntil? := by
  funext duration
  simp only [Stage.waitsUntil?, Stage.clockAfter, clock, realtime]

theorem nowMs_eq
    {left right : Stage R}
    (clock : left.clock = right.clock)
    (timebase : left.timebase = right.timebase) :
    left.nowMs = right.nowMs := by
  simp only [Stage.nowMs, Stage.now, clock, timebase]

end

/-! ## Stopping in double precision -/

/-- The fade of an instrument that stops ends at a time that can be computed. -/
theorem exists_fade (now : Float) :
    ∃ time, (fading : Segment Float).rampAfter (.real now) =
      .ok (.ramp leastValue (.real time)) := by
  obtain ⟨zero, start⟩ := Option.isSome_iff_exists.1
    (by decide +kernel : (Scalar.ofInt? 0 : Option Float).isSome = true)
  obtain ⟨length, release⟩ := Option.isSome_iff_exists.1
    (by decide +kernel : (Scalar.ofInt? 100 : Option Float).isSome = true)
  exact ⟨_, by
    rw [Segment.rampAfter, fading, Value.real_add_int start, Attempt.ok_bind,
      Instrument.release, Value.real_add_int release, Attempt.ok_bind,
      rampValue_zero]⟩

theorem exists_silence (now : Float) :
    ∃ silence, (Value.real now).add release = .ok (.real silence) := by
  obtain ⟨length, release⟩ := Option.isSome_iff_exists.1
    (by decide +kernel : (Scalar.ofInt? 100 : Option Float).isSome = true)
  exact ⟨_, Value.real_add_int release now⟩

section

variable {stage : Stage Float}

/-- All that an instrument writes to fade out can be written. -/
theorem all_fadeWrites (instrument : Instrument Float) (now : Float) :
    (instrument.fadeWrites (.real now)).all Except.isOk = true := by
  obtain ⟨time, faded⟩ := exists_fade now
  unfold fadeWrites
  cases instrument.socket? .oscillatorGain with
  | none => rfl
  | some socket =>
      simp [Socket.writes, faded, Except.map, Except.isOk, Except.toBool]

theorem reaches_stop
    (instrument : Instrument Float)
    (onTape : stage.OnTape) :
    instrument.stop.Reaches stage () (Move.stop.result instrument stage) := by
  cases playing : stage.playing instrument.number with
  | false =>
      have rests : Move.stop.result instrument stage = stage := by
        have same := stage.noted_self instrument.number
        rw [playing] at same
        simp only [Move.result, Move.script, playing, Bool.false_eq_true,
          if_false, Stage.performed_nil, same]
      rw [rests]
      exact ⟨by rw [run_stop_of_resting playing]; rfl,
        by rw [run_stop_of_resting playing]⟩
  | true =>
      obtain ⟨silence, added⟩ := exists_silence stage.nowMs
      have looked : (Stage.isPlaying instrument.number).Reaches stage true
          stage :=
        ⟨by rw [run_isPlaying, playing]; rfl, by rw [run_isPlaying]⟩
      have final : Move.stop.result instrument stage =
          ((stage.performed ((Attempt.granted
              (instrument.fadeWrites (.real stage.nowMs))).map .ofWrite)).performed
            (instrument.muteScript (some (.real silence)))).noted
              instrument.number false := by
        simp only [Move.result, Move.script, playing, if_true, stopScript,
          added, Stage.performed_performed]
        rfl
      rw [final, stop_eq, Session.reaches_bind]
      refine ⟨true, stage, looked, ?_⟩
      simp only [if_true, Session.reaches_bind]
      exact ⟨stage, stage, Session.reaches_get.2 ⟨rfl, rfl⟩, _, stage,
        Session.reaches_attempt.2 ⟨added, rfl⟩, (), _,
        Stage.reaches_writeAll onTape (instrument.all_fadeWrites stage.nowMs),
        (), _, Stage.reaches_performAll (onTape.performed _) _,
        Stage.reaches_setPlaying _ _ _⟩

/-- On a tape no instrument is refused to stop. -/
theorem completes_stop (instrument : Instrument Float) :
    instrument.stop.Completes Stage.OnTape :=
  fun _ onTape => ⟨(), _, instrument.reaches_stop onTape,
    onTape_result instrument .stop onTape⟩

theorem reaches_destroy
    (instrument : Instrument Float)
    (onTape : stage.OnTape) :
    instrument.destroy.Reaches stage ()
      (instrument.moved [.stop, .silence] stage) := by
  have stopped := instrument.reaches_stop onTape
  have silenced := Stage.reaches_performAll
    (onTape_result instrument .stop onTape) instrument.silenceScript
  simp only [destroy, Stage.stop_eq, Stage.forM_performAll]
  exact Session.reaches_bind.2 ⟨(), _, stopped, silenced⟩

theorem completes_destroy (instrument : Instrument Float) :
    instrument.destroy.Completes Stage.OnTape :=
  fun _ onTape => ⟨(), _, instrument.reaches_destroy onTape,
    instrument.onTape_moved _ onTape⟩

/-! ## Playing -/

variable [Limits]

theorem waitsUntil?_of_started
    (instrument : Instrument Float)
    (schedule : Schedule Float)
    (stage : Stage Float) :
    instrument.waitsUntil? schedule stage =
      if (instrument.scheduleWrites schedule
          (.real (Move.start.result instrument stage).nowMs)).all Except.isOk
      then ((Move.write schedule).result instrument
        (Move.start.result instrument stage)).waitsUntil? schedule.duration
      else none := by
  have now : (Move.start.result instrument stage).nowMs = stage.nowMs :=
    nowMs_eq (Stage.clock_performed _ _) (timebase_result _ _ _)
  have clock : ((Move.write schedule).result instrument
      (Move.start.result instrument stage)).clock = stage.clock :=
    (Stage.clock_performed _ _).trans (Stage.clock_performed _ _)
  rw [waitsUntil?, now, waitsUntil?_eq clock (by simp)]

/-- A play begins with its moves, and goes on when it has waited until its time. -/
theorem run_beginPlaying
    (instrument : Instrument Float)
    (composition : Value Float)
    (onTape : stage.OnTape) :
    ((instrument.beginPlaying composition).run stage).2 =
        instrument.moved (instrument.beginning composition stage) stage ∧
      ∀ reading,
        ((instrument.beginPlaying composition).run stage).1.outcome =
            .ok (some reading) ↔
          instrument.wakes? composition stage = some reading := by
  rw [beginPlaying, beginning, wakes?, playable?]
  rw [Session.run_logged_bind]
  cases scheduled : (instrument.scheduler.schedule composition).outcome with
  | error failure => simp [Except.toOption]
  | ok schedule =>
      simp only [Except.toOption, Option.bind_some, Logged.outcome_after]
      have reported : (Session.report (.playing schedule.duration) :
          Session (Stage Float) Float Unit).Reaches stage () stage :=
        Session.reaches_report.2 rfl
      have started := instrument.reaches_start onTape
      have onStarted := onTape_result instrument .start onTape
      have applied := instrument.run_applySchedule schedule onStarted
      have waits := waitsUntil?_of_started instrument schedule stage
      have onWritten := onTape_result instrument (.write schedule) onStarted
      have moves (rest : List (Move Float)) :=
        instrument.moved_append [.start, .write schedule] rest stage
      simp only [moved_cons, moved_nil] at moves
      generalize (Move.start.result instrument stage) = begun at *
      generalize ((Move.write schedule).result instrument begun) = written
        at *
      obtain ⟨outcome, same⟩ : ∃ outcome,
        ((instrument.applySchedule schedule).run begun).1.outcome = outcome :=
          ⟨_, rfl⟩
      have attempted : (Session.attempt
          (instrument.applySchedule schedule)).Reaches begun outcome
            written :=
        ⟨congrArg Except.ok same, applied.2⟩
      have stopped := instrument.reaches_stop onWritten
      rw [(reported.run_bind _).1, (reported.run_bind _).2,
        (started.run_bind _).1, (started.run_bind _).2,
        (attempted.run_bind _).1, (attempted.run_bind _).2, waits,
        ← applied.1, same, moves]
      cases outcome with
      | error failure =>
          simp only [(stopped.run_bind _).1, (stopped.run_bind _).2]
          exact ⟨rfl, fun _ => iff_of_false (by rintro ⟨⟩) (by rintro ⟨⟩)⟩
      | ok _ =>
          simp only [Session.run_get_bind, Except.isOk, Except.toBool,
            if_true]
          cases written.waitsUntil? schedule.duration with
          | some wake => simp
          | none =>
              simp only [(stopped.run_bind _).1, (stopped.run_bind _).2]
              exact ⟨rfl, fun _ =>
                iff_of_false (by rintro ⟨⟩) (by rintro ⟨⟩)⟩

omit [Limits] in
theorem reaches_setClock
    (instrument : Instrument Float)
    (reading : Float)
    (stage : Stage Float) :
    (Stage.setClock reading).Reaches stage ()
      ((Move.wait reading).result instrument stage) :=
  ⟨rfl, by simp only [Move.result, Move.script, Stage.performed_nil]; rfl⟩

omit [Limits] in
theorem run_resume
    (instrument : Instrument Float)
    (reading : Float)
    (onTape : stage.OnTape) :
    ((Stage.setClock reading >>= fun _ => instrument.stop).run stage).2 =
      instrument.moved [.wait reading, .stop] stage := by
  rw [((instrument.reaches_setClock reading stage).run_bind _).2]
  exact (instrument.reaches_stop
    (onTape_result instrument (.wait reading) onTape)).2

theorem run_play
    (instrument : Instrument Float)
    (composition : Value Float)
    (onTape : stage.OnTape) :
    ((instrument.play composition).run stage).2 =
      instrument.moved ((Step.act (.play composition)).moves instrument stage)
        stage := by
  obtain ⟨final, wakes⟩ := instrument.run_beginPlaying composition onTape
  have onBegun := instrument.onTape_moved
    (instrument.beginning composition stage) onTape
  rw [play, Session.run_bind_eq, final, Step.moves, moved_append]
  cases outcome : ((instrument.beginPlaying composition).run
      stage).1.outcome with
  | error failure =>
      have rests : instrument.wakes? composition stage = none :=
        Option.eq_none_iff_forall_ne_some.2 fun reading same => by
          rw [(wakes reading).2 same] at outcome
          cases outcome
      simp [rests]
  | ok wake =>
      have same : instrument.wakes? composition stage = wake := by
        cases wake with
        | some reading => exact (wakes reading).1 outcome
        | none =>
            refine Option.eq_none_iff_forall_ne_some.2 fun reading same => ?_
            rw [(wakes reading).2 same] at outcome
            cases outcome
      rw [same]
      cases wake with
      | none => rfl
      | some reading => exact instrument.run_resume reading onBegun

theorem run_advance
    (instrument : Instrument Float)
    (seconds : Value Float)
    (stage : Stage Float) :
    ((Stage.advance seconds).run stage).2 =
      instrument.moved ((Step.act (.advance seconds)).moves instrument stage)
        stage := by
  rw [Stage.advance, Session.run_get_bind, Step.moves]
  cases (Value.real stage.clock).add seconds with
  | error failure =>
      simp [Session.run_bind_eq, Session.liftM_attempt, Logged.ofAttempt]
  | ok total =>
      rw [liftM_ok_bind, Attempt.ok_bind]
      cases total.toScalar with
      | error failure =>
          simp [Session.run_bind_eq, Session.liftM_attempt, Logged.ofAttempt]
      | ok reading =>
          rw [liftM_ok_bind]
          exact (instrument.reaches_setClock reading stage).2

theorem run_scheduled
    (instrument : Instrument Float)
    (composition : Value Float)
    (onTape : stage.OnTape) :
    ((Act.perform instrument (.applySchedule composition)).run stage).2 =
      instrument.moved
        ((Step.act (.applySchedule composition)).moves instrument stage)
        stage := by
  rw [Act.perform, Session.run_logged_bind, Step.moves]
  cases (instrument.scheduler.schedule composition).outcome with
  | error failure => rfl
  | ok schedule => exact (instrument.run_applySchedule schedule onTape).2

/-- Every step is the sequence of its moves. -/
theorem run_step
    (instrument : Instrument Float)
    (step : Step Float)
    (onTape : stage.OnTape) :
    ((step.perform instrument).run stage).2 =
      instrument.moved (step.moves instrument stage) stage := by
  cases step with
  | resume reading => exact instrument.run_resume reading onTape
  | begin composition =>
      have begun := (instrument.run_beginPlaying composition onTape).1
      rw [Step.perform, Session.run_bind_eq]
      split <;> exact begun
  | act own =>
      cases own with
      | start => exact (instrument.reaches_start onTape).2
      | stop => exact (instrument.reaches_stop onTape).2
      | destroy => exact (instrument.reaches_destroy onTape).2
      | play composition => exact instrument.run_play composition onTape
      | applySchedule composition =>
          exact instrument.run_scheduled composition onTape
      | advance seconds => exact instrument.run_advance seconds stage

end

end Instrument
end MelodyAutomation

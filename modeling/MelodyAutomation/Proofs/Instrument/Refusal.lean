import MelodyAutomation.Proofs.Ensemble.Automation
import MelodyAutomation.Proofs.Envelope.Scalars
import MelodyAutomation.Proofs.Instrument.Agreement
import MelodyAutomation.Proofs.Yields

/-!
# What an instrument is refused for

On any engine, what an instrument does is refused only for what the segments that it
writes are refused for: starting and stopping always succeed. A schedule that holds
nothing but scalars can always be written. So when a play is refused, this happens
before anything has been started or written, unless an envelope was given with other
coordinates than scalars and the schedule made from it cannot be written.
-/

namespace MelodyAutomation

variable {R : Type} [Machine R] {causes : Failure R → Prop}

/-! ## Commands -/

namespace Link

/-- A command is refused when there is no message for it. -/
theorem refusedFor_perform
    {command : Command R}
    (understood : ∀ base, (message base command).RefusedFor causes) :
    (perform command).RefusedFor causes := by
  refine Session.yields_get_bind fun link _ => ?_
  refine (Session.yields_attempt (understood link.base)).bind fun sent _ => ?_
  exact fun _ _ => ⟨trivial, trivial⟩

/-- A value and a time are refused when one of them cannot be sent. -/
theorem refusedFor_writeArguments
    {value time : Value R}
    (sendable : value.toScalar.RefusedFor causes)
    (timely : Stage.IsTimely time) :
    (writeArguments value time).RefusedFor causes := by
  refine sendable.bind fun level _ => ?_
  exact (Attempt.refusedFor_of_isOk timely).bind fun _ _ => trivial

end Link

namespace Stage

variable {primitive : Primitive}

theorem refusedFor_perform
    {command : Command R}
    (understood : ∀ base, (Link.message base command).RefusedFor causes) :
    (perform command).RefusedFor causes := by
  have performed : (Engine.perform command).RefusedFor causes := by
    intro engine _
    cases engine with
    | tape own => exact ⟨trivial, trivial⟩
    | link own => exact Link.refusedFor_perform understood own trivial
  unfold perform onEngine
  exact performed.within (fun _ _ => trivial) fun _ _ _ _ => trivial

theorem refusedFor_start :
    (start primitive : Session (Stage R) R Unit).RefusedFor causes := by
  unfold start
  split
  · exact refusedFor_perform fun _ => trivial
  · exact Session.yields_pure trivial

theorem refusedFor_stop
    {time : Option (Value R)}
    (timely : ∀ moment ∈ time, IsTimely moment) :
    (stop primitive time).RefusedFor causes := by
  unfold stop
  split
  next active =>
      refine refusedFor_perform fun base => ?_
      cases time with
      | none => trivial
      | some moment =>
          exact (Attempt.refusedFor_of_isOk (timely moment rfl)).bind
            fun _ _ => trivial
  next => exact Session.yields_pure trivial

omit [Machine R] in
theorem refusedFor_setPlaying (number : Nat) (playing : Bool) :
    (setPlaying number playing : Session (Stage R) R Unit).RefusedFor causes :=
  Session.yields_modify fun _ _ => trivial

end Stage

/-! ## Segments -/

/-- Writing a segment is refused for none but some causes: adding its times to a
scalar, or sending its value. -/
structure Segment.RefusedFor (causes : Failure R → Prop) (segment : Segment R) :
    Prop where
  start : ∀ scalar : R,
    ((Value.real scalar).add segment.start).RefusedFor causes
  ramp : ∀ scalar : R,
    ((Value.real scalar).add segment.ramp).RefusedFor causes
  value : segment.value.toScalar.RefusedFor causes

/-- Nothing refuses to write a segment. -/
abbrev Segment.IsWritable (segment : Segment R) : Prop :=
  segment.RefusedFor fun _ => False

/-- A sum with a scalar is a scalar, or refused for what it is refused for. -/
theorem Value.yields_real_add
    {scalar : R}
    {summand : Value R}
    (refused : ((real scalar).add summand).RefusedFor causes) :
    ((real scalar).add summand).Yields (fun total => ∃ sum, total = .real sum)
      causes :=
  .of_refusedFor refused fun _ => real_of_add

/-- A segment of scalars can be written. -/
theorem Segment.IsScalar.isWritable
    {segment : Segment R}
    (scalar : segment.IsScalar) :
    segment.IsWritable := by
  obtain ⟨⟨start, isStart⟩, ⟨ramp, isRamp⟩, ⟨value, isValue⟩⟩ := scalar
  refine ⟨fun scalar => ?_, fun scalar => ?_, ?_⟩
  · rw [isStart, Value.real_add_real]
    trivial
  · rw [isRamp, Value.real_add_real]
    trivial
  · rw [isValue]
    trivial

namespace Instrument

/-- Every segment of a schedule for which there is a socket is one that is
accepted. -/
def AcceptsSegments (instrument : Instrument R) (accepts : Segment R → Prop)
    (schedule : Schedule R) : Prop :=
  ∀ target, (instrument.socket? target).isSome →
    ∀ block ∈ schedule.blocks.get target, ∀ segment ∈ block, accepts segment

/-- What ramps reach instead of zero can always be sent. -/
theorem refusedFor_rampValue
    {value : Value R}
    (sendable : value.toScalar.RefusedFor causes) :
    (rampValue value).toScalar.RefusedFor causes := by
  unfold rampValue
  split
  · trivial
  · exact sendable

section

variable {instrument : Instrument R}
variable (timely : ∀ time : R, Stage.IsTimely (.real time))

include timely

/-- Writing at a time is refused when the value cannot be sent. -/
theorem refusedFor_write
    {value : Value R}
    (sendable : value.toScalar.RefusedFor causes)
    (socket : Socket)
    (time : R) :
    (Stage.set socket value (.real time)).RefusedFor causes ∧
      (Stage.ramp socket value (.real time)).RefusedFor causes := by
  have written := Link.refusedFor_writeArguments sendable (timely time)
  exact ⟨Stage.refusedFor_perform fun _ => written.bind fun _ _ => trivial,
    Stage.refusedFor_perform fun _ => written.bind fun _ _ => trivial⟩

/-- A segment is written, or it is refused for a cause of its own. -/
theorem refusedFor_writeSegment
    {socket : Option Socket}
    {segment : Segment R}
    (own : socket.isSome → segment.RefusedFor causes)
    (isFirst : Bool)
    (now : R) :
    (writeSegment socket segment.value segment.start segment.ramp isFirst
      (.real now)).RefusedFor causes := by
  cases socket with
  | none => exact Session.yields_pure trivial
  | some socket =>
      obtain ⟨starts, ramps, sendable⟩ := own rfl
      refine (Session.yields_attempt
        (Value.yields_real_add (starts now))).bind ?_
      rintro _ ⟨begin, rfl⟩
      cases isFirst with
      | true => exact (refusedFor_write timely sendable socket begin).1
      | false =>
          refine (Session.yields_attempt
            (Value.yields_real_add (ramps begin))).bind ?_
          rintro _ ⟨time, rfl⟩
          exact (refusedFor_write timely (refusedFor_rampValue sendable)
            socket time).2

theorem refusedFor_writeBlock
    {socket : Option Socket}
    {block : Block R}
    (own : socket.isSome → ∀ segment ∈ block, segment.RefusedFor causes)
    (now : R) :
    (writeBlock socket (.real now) block).RefusedFor causes := by
  cases block with
  | nil => exact Session.yields_pure trivial
  | cons first rest =>
      refine (refusedFor_writeSegment timely (fun present =>
        own present first List.mem_cons_self) true now).bind fun _ _ => ?_
      exact Session.yields_forM fun segment member =>
        refusedFor_writeSegment timely (fun present =>
          own present segment (List.mem_cons_of_mem _ member)) false now

theorem refusedFor_applySchedule
    {schedule : Schedule R}
    (accepted : instrument.AcceptsSegments (Segment.RefusedFor causes) schedule) :
    (instrument.applySchedule schedule).RefusedFor causes := by
  refine Session.yields_get_bind fun stage _ => Session.yields_forM ?_
  rintro ⟨target, blocks⟩ member
  obtain rfl : schedule.blocks.get target = blocks := by
    obtain ⟨own, -, same⟩ := List.mem_map.1 member
    obtain ⟨rfl, rfl⟩ := Prod.mk.inj same
    rfl
  exact Session.yields_forM fun block inside =>
    refusedFor_writeBlock timely (fun present segment within =>
      accepted target present block inside segment within) stage.nowMs

omit timely in
theorem refusedFor_start : instrument.start.RefusedFor causes := by
  refine Stage.refusedFor_start.bind fun _ _ => ?_
  refine Stage.refusedFor_start.bind fun _ _ => ?_
  refine Session.Yields.bind
    (Session.yields_forM fun _ _ => Stage.refusedFor_start) fun _ _ => ?_
  exact Stage.refusedFor_setPlaying _ _

/-- A fade can always be written. -/
theorem refusedFor_stop
    {whole : R}
    (found : Scalar.ofInt? 100 = some whole)
    {start : R}
    (foundZero : Scalar.ofInt? 0 = some start) :
    instrument.stop.RefusedFor causes := by
  have fades : (fading : Segment R).RefusedFor causes := by
    refine ⟨fun scalar => ?_, fun scalar => ?_, ?_⟩
    · rw [fading, Value.real_add_int foundZero]
      trivial
    · rw [fading, release, Value.real_add_int found]
      trivial
    · simp [fading, Value.toScalar, Value.toNumber, Value.number?,
        Number.toScalar, foundZero]
  have plays : (Stage.isPlaying instrument.number :
      Session (Stage R) R Bool).RefusedFor causes := fun _ _ => ⟨trivial, trivial⟩
  refine plays.bind fun playing _ => ?_
  cases playing with
  | false => exact Session.yields_pure trivial
  | true =>
      refine Session.yields_get_bind fun stage _ => ?_
      refine (Session.yields_attempt
        (Value.yields_real_add (fades.ramp stage.nowMs))).bind ?_
      rintro _ ⟨silence, rfl⟩
      refine (refusedFor_writeSegment timely (fun _ => fades) false
        stage.nowMs).bind fun _ _ => ?_
      refine (Stage.refusedFor_stop ?_).bind fun _ _ => ?_
      · rintro _ ⟨rfl⟩
        exact timely silence
      refine (Stage.refusedFor_stop (by simp)).bind fun _ _ => ?_
      exact Stage.refusedFor_setPlaying _ _

/-! ## Playing -/

theorem refusedFor_beginPlaying
    (stops : instrument.stop.RefusedFor causes)
    {composition : Value R}
    (scheduled : (instrument.scheduler.schedule composition).outcome.Yields
      (instrument.AcceptsSegments (Segment.RefusedFor causes)) causes) :
    (instrument.beginPlaying composition).RefusedFor causes := by
  refine (Session.yields_logged scheduled).bind fun schedule accepted => ?_
  refine Session.yields_report.bind fun _ _ => ?_
  refine refusedFor_start.bind fun _ _ => ?_
  refine ((refusedFor_applySchedule timely accepted).attempt causes).bind
    fun outcome kept => ?_
  cases outcome with
  | error failure => exact stops.bind fun _ _ => Session.yields_throw kept
  | ok _ =>
      refine Session.yields_get_bind fun stage _ => ?_
      cases stage.waitsUntil? schedule.duration with
      | some wake => exact Session.yields_pure trivial
      | none => exact stops.bind fun _ _ => Session.yields_pure trivial

theorem refusedFor_play
    (stops : instrument.stop.RefusedFor causes)
    {composition : Value R}
    (scheduled : (instrument.scheduler.schedule composition).outcome.Yields
      (instrument.AcceptsSegments (Segment.RefusedFor causes)) causes) :
    (instrument.play composition).RefusedFor causes := by
  refine (refusedFor_beginPlaying timely stops scheduled).bind fun wake _ => ?_
  cases wake with
  | none => exact Session.yields_pure trivial
  | some wake =>
      exact (Session.yields_modify fun _ _ => trivial).bind fun _ _ => stops

end

/-- A composition that cannot be scheduled is not begun to be played. -/
theorem run_play_of_unscheduled
    {instrument : Instrument R}
    {composition : Value R}
    {failure : Failure R}
    (unscheduled : (instrument.scheduler.schedule composition).outcome =
      .error failure)
    (stage : Stage R) :
    ((instrument.play composition).run stage).2 = stage := by
  have begun : ((instrument.beginPlaying composition).run stage) =
      (⟨.error failure,
        (instrument.scheduler.schedule composition).notices⟩, stage) := by
    rw [beginPlaying, Session.run_logged_bind, unscheduled]
  rw [play, Session.run_bind_of_error begun]

/-- In double precision, stopping is never refused. -/
theorem stop_succeeds (instrument : Instrument Float) :
    instrument.stop.RefusedFor fun _ => False := by
  have whole (number : Int)
      (converts : (Scalar.ofInt? number : Option Float).isSome = true) :
      ∃ scalar : Float, Scalar.ofInt? number = some scalar :=
    Option.isSome_iff_exists.1 converts
  obtain ⟨fade, ofFade⟩ := whole 100 (by decide +kernel)
  obtain ⟨zero, ofZero⟩ := whole 0 (by decide +kernel)
  exact refusedFor_stop timely_double ofFade ofZero

/-- A play that is refused has left the whole stage as it was, with every node, every
socket, all that was sent, the clock, and what plays. The exception is a play whose
schedule was made, and not with envelopes of scalars alone, but cannot be written. -/
theorem stage_eq_of_refused_play
    [Limits]
    {instrument : Instrument Float}
    {composition : Value Float}
    {stage : Stage Float}
    {failure : Failure Float}
    (refused : ((instrument.play composition).run stage).1.outcome =
      .error failure) :
    ((instrument.play composition).run stage).2 = stage ∨
      ∃ schedule,
        (instrument.scheduler.schedule composition).outcome = .ok schedule ∧
        ¬ instrument.AcceptsSegments Segment.IsWritable schedule ∧
        ∃ target envelope,
          instrument.scheduler.envelopes.get target = some envelope ∧
          ¬ envelope.IsScalar := by
  cases scheduled : (instrument.scheduler.schedule composition).outcome with
  | error cause => exact .inl (run_play_of_unscheduled scheduled stage)
  | ok schedule =>
      have unwritable : ¬ instrument.AcceptsSegments Segment.IsWritable
          schedule := by
        intro accepted
        have played := refusedFor_play timely_double instrument.stop_succeeds
          (scheduled.symm ▸ Attempt.yields_ok.2 accepted) stage trivial
        rw [refused] at played
        exact played.1
      refine .inr ⟨schedule, rfl, unwritable, ?_⟩
      by_contra allScalar
      push Not at allScalar
      refine unwritable fun target _ block member segment inside => ?_
      exact (Scheduler.isScalar_of_schedule allScalar scheduled target block
        member segment inside).isWritable

/-- A note, and one that lasts for a word. -/
def noteAndWord : Value Float :=
  .list
    [.map [(.text "note", .text "A")],
      .map [(.text "note", .text "A"), (.text "duration", .text "long")]]

theorem stage_eq_of_refused_play_of_word :
    ∃ instrument stage failure,
      (make pluckedVoice []).Reaches voicesLink instrument stage ∧
      ((instrument.play noteAndWord).run stage).1.outcome = .error failure ∧
      ((instrument.play noteAndWord).run stage).2 = stage := by
  let built := (make pluckedVoice []).run voicesLink
  have refuses : built.1.outcome.toOption.any (fun instrument =>
      !(instrument.scheduler.schedule noteAndWord).outcome.isOk &&
        !((instrument.play noteAndWord).run built.2).1.outcome.isOk) = true := by
    decide +kernel
  obtain ⟨instrument, made, refuses⟩ := Attempt.exists_of_any refuses
  obtain ⟨unscheduled, unplayed⟩ := Bool.and_eq_true_iff.1 refuses
  cases outcome : ((instrument.play noteAndWord).run built.2).1.outcome with
  | ok _ =>
      rw [outcome] at unplayed
      cases unplayed
  | error failure =>
      refine ⟨instrument, built.2, failure, ⟨made, rfl⟩, outcome, ?_⟩
      rcases stage_eq_of_refused_play outcome with same | ⟨schedule, known, -⟩
      · exact same
      · rw [known] at unscheduled
        cases unscheduled

/-- A play that is refused while its schedule is written leaves what was written. -/
theorem refused_play_leaves_events :
    ∃ instrument stage socket,
      (make belatedVoice []).Reaches (Stage.openTape 0.0 .manual false)
        instrument stage ∧
      ((instrument.play oneNote).run stage).1.outcome = .error .overflow ∧
      ((instrument.play oneNote).run stage).2.events socket ≠
        stage.events socket := by
  let built := (make belatedVoice []).run (Stage.openTape 0.0 .manual false)
  have written : built.1.outcome.toOption.any (fun instrument =>
      (instrument.socket? .oscillatorFrequency).any fun socket =>
        let played := (instrument.play oneNote).run built.2
        Attempt.overflows played.1.outcome &&
          (played.2.events socket).length !=
            (built.2.events socket).length) = true := by
    decide +kernel
  obtain ⟨instrument, made, written⟩ := Attempt.exists_of_any written
  obtain ⟨socket, -, written⟩ := (Option.any_eq_true _ _).1 written
  simp only [Bool.and_eq_true, bne_iff_ne] at written
  refine ⟨instrument, built.2, socket, ⟨made, rfl⟩,
    Attempt.eq_of_overflows written.1, fun same => written.2 ?_⟩
  rw [same]

end Instrument
end MelodyAutomation

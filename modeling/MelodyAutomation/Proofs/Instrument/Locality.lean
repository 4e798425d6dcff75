import MelodyAutomation.Proofs.Instrument.Rules

/-!
# What an instrument reads and writes on a tape

On a tape, everything an instrument does depends on the time and on the records
of its own primitives only, and changes no others. So two stages that are alike
for an instrument stay alike whatever it does on both, and they do so whatever
instruments do on one of them that are apart from it.
-/

namespace MelodyAutomation

variable {R : Type}

/-- The place of a node among those that were created. -/
def Node.slot? : Node → Option Nat
  | destination => none
  | created _ number => some number

namespace Tape

theorem recording?_change
    (tape : Tape R)
    (node other : Node)
    (function : Recording R → Recording R) :
    (tape.change node function).recording? other =
      if node.slot? = other.slot? then (tape.recording? other).map function
      else tape.recording? other := by
  cases node with
  | destination => cases other <;> simp [change, recording?, Node.slot?]
  | created kind number =>
      cases other with
      | destination => simp [change, recording?, Node.slot?]
      | created otherKind otherNumber =>
          by_cases same : number = otherNumber
          · simp [change, recording?, Node.slot?, same]
          · simp [change, recording?, Node.slot?, same]

/-- A command changes the record of its own node only. -/
theorem recording?_perform
    (tape : Tape R)
    (command : Command R)
    (node : Node) :
    (tape.perform command).recording? node =
      if command.target.slot? = node.slot? then
        (tape.recording? node).map command.record
      else tape.recording? node := by
  rw [perform_eq_change, recording?_change]

@[simp] theorem length_perform (tape : Tape R) (command : Command R) :
    (tape.perform command).recordings.length = tape.recordings.length := by
  rw [perform_eq_change]
  cases command.target <;> simp [change]

end Tape

namespace Stage

/-- A stage is on a tape. -/
def OnTape (stage : Stage R) : Prop := ∃ tape, stage.engine = .tape tape

/-- How many nodes are recorded on a stage. -/
def slots (stage : Stage R) : Nat :=
  match stage.engine with
  | .tape tape => tape.recordings.length
  | .link _ => 0

/-- The record of a node, if the stage is on a tape. -/
def recording? (stage : Stage R) (node : Node) : Option (Recording R) :=
  match stage.engine with
  | .tape tape => tape.recording? node
  | .link _ => none

variable [Scalar R]

theorem run_perform
    {stage : Stage R}
    {tape : Tape R}
    (onTape : stage.engine = .tape tape)
    (command : Command R) :
    (perform command).run stage =
      (.succeed (), { stage with engine := .tape (tape.perform command) }) := by
  simp [perform, onEngine, Session.within, Engine.perform, onTape]

end Stage

namespace Instrument

/-- Two stages are alike for an instrument: on both tapes the records of its
primitives are the same, and it plays on both or on neither. -/
structure AlikeOn (instrument : Instrument R) (left right : Stage R) : Prop where
  onTape_left : left.OnTape
  onTape_right : right.OnTape
  recording_eq : ∀ primitive ∈ instrument.primitives,
    left.recording? primitive.node = right.recording? primitive.node
  playing_eq : left.playing instrument.number = right.playing instrument.number
  timebase_eq : left.timebase = right.timebase
  realtime_eq : left.realtime = right.realtime

/-- Two instruments have no node in common, nor are they one. -/
structure Apart (left right : Instrument R) : Prop where
  number_ne : left.number ≠ right.number
  slot_ne : ∀ first ∈ left.primitives, ∀ second ∈ right.primitives,
    first.node.slot? ≠ second.node.slot?

theorem Apart.symm
    {left right : Instrument R}
    (apart : Apart left right) :
    Apart right left :=
  ⟨apart.number_ne.symm, fun first ours second theirs =>
    (apart.slot_ne second theirs first ours).symm⟩

namespace AlikeOn

variable {instrument : Instrument R} {left middle right : Stage R}

theorem refl (onTape : left.OnTape) : instrument.AlikeOn left left :=
  ⟨onTape, onTape, fun _ _ => rfl, rfl, rfl, rfl⟩

theorem symm (alike : instrument.AlikeOn left right) :
    instrument.AlikeOn right left :=
  ⟨alike.onTape_right, alike.onTape_left,
    fun primitive member => (alike.recording_eq primitive member).symm,
    alike.playing_eq.symm, alike.timebase_eq.symm, alike.realtime_eq.symm⟩

theorem trans
    (first : instrument.AlikeOn left middle)
    (second : instrument.AlikeOn middle right) :
    instrument.AlikeOn left right :=
  ⟨first.onTape_left, second.onTape_right,
    fun primitive member => (first.recording_eq primitive member).trans
      (second.recording_eq primitive member),
    first.playing_eq.trans second.playing_eq,
    first.timebase_eq.trans second.timebase_eq,
    first.realtime_eq.trans second.realtime_eq⟩

end AlikeOn

variable [Scalar R]

/-! ## The same instrument on two stages -/

/-- Two stages are alike for an instrument, and their clocks show the same. -/
def AlikeAt (instrument : Instrument R) (left right : Stage R) : Prop :=
  instrument.AlikeOn left right ∧ left.clock = right.clock

theorem respects_perform
    (instrument : Instrument R)
    (command : Command R) :
    (Stage.perform command).Respects instrument.AlikeOn := by
  intro left right alike
  obtain ⟨tape, ofLeft⟩ := alike.onTape_left
  obtain ⟨other, ofRight⟩ := alike.onTape_right
  rw [Stage.run_perform ofLeft, Stage.run_perform ofRight]
  refine ⟨rfl, { alike with
    onTape_left := ⟨_, rfl⟩, onTape_right := ⟨_, rfl⟩, recording_eq := ?_ }⟩
  intro primitive member
  have same := alike.recording_eq primitive member
  simp only [Stage.recording?, ofLeft, ofRight] at same
  simp only [Stage.recording?, Tape.recording?_perform, same]

omit [Scalar R] in
theorem respects_setPlaying
    (instrument : Instrument R)
    (number : Nat)
    (playing : Bool) :
    (Stage.setPlaying number playing : Session (Stage R) R Unit).Respects
      instrument.AlikeOn :=
  Session.respects_modify fun _ _ alike =>
    { alike with playing_eq := by simp only [alike.playing_eq] }

omit [Scalar R] in
/-- What keeps two stages alike and does not move the clock. -/
theorem respects_alikeAt
    {α : Type}
    {instrument : Instrument R}
    {session : Session (Stage R) R α}
    (respects : session.Respects instrument.AlikeOn)
    (still : session.Keeps fun left right => left.clock = right.clock) :
    session.Respects instrument.AlikeAt :=
  respects.and_still Stage.clock still Eq

instance : IsPreorder (Stage R) fun left right => left.clock = right.clock where
  refl _ := rfl
  trans _ _ _ := Eq.trans

theorem keeps_clock_perform (command : Command R) :
    (Stage.perform command).Keeps fun left right => left.clock = right.clock :=
  fun _ => rfl

/-- An instrument does not move the clock before it waits. -/
theorem clock_rules (instrument : Instrument R) :
    OwnRules instrument (fun _ => True) fun _ session =>
      session.Keeps fun left right => left.clock = right.clock :=
  .ofPerform (Session.keeps_rules _)
    (fun _ continued => Session.keeps_get_bind continued)
    (Session.keeps_get_bind fun _ => (Session.keeps_rules _).pure _)
    (fun _ => Session.keeps_modify fun _ => rfl)
    (fun command _ => keeps_clock_perform command)

/-- Whatever an instrument does on two stages that are alike for it at one time has
the same outcome on both, and they stay so. -/
theorem alike_rules (instrument : Instrument R) :
    OwnRules instrument (fun _ => True) fun _ session =>
      session.Respects instrument.AlikeAt := by
  refine .ofPerform (Session.respects_rules _)
    (fun alike continued => Session.respects_get_bind ?_ continued) ?_ ?_ ?_
  · rintro left right ⟨same, clock⟩
    refine alike left right ?_ (funext fun duration => ?_)
    · simp only [Stage.nowMs, Stage.now, clock, same.timebase_eq]
    · simp only [Stage.waitsUntil?, Stage.clockAfter, clock, same.realtime_eq]
  · refine Session.respects_get_bind ?_ fun _ =>
      (Session.respects_rules _).pure _
    rintro left right ⟨same, -⟩
    rw [same.playing_eq]
  · exact fun playing => respects_alikeAt (respects_setPlaying _ _ _)
      (Session.keeps_modify fun _ => rfl)
  · exact fun command _ => respects_alikeAt (respects_perform _ _)
      (keeps_clock_perform command)

/-! ## Other instruments -/

/-- A run leaves a stage on a tape alike for an instrument. -/
def Spares (instrument : Instrument R) (left right : Stage R) : Prop :=
  left.OnTape → instrument.AlikeOn left right

instance (instrument : Instrument R) :
    IsPreorder (Stage R) instrument.Spares where
  refl _ onTape := .refl onTape
  trans _ _ _ first second onTape :=
    (first onTape).trans (second (first onTape).onTape_right)

omit [Scalar R] in
theorem keeps_setClock (instrument : Instrument R) (clock : R) :
    (Stage.setClock clock).Keeps instrument.Spares :=
  Session.keeps_modify fun _ onTape => { AlikeOn.refl onTape with
    onTape_right := onTape }

/-- What an instrument does leaves a stage alike for every other one that is apart
from it. -/
theorem spare_rules
    {instrument other : Instrument R}
    (apart : Apart instrument other) :
    OwnRules instrument (fun _ => True) fun _ session =>
      session.Keeps other.Spares := by
  refine .ofPerform (Session.keeps_rules _)
    (fun _ continued => Session.keeps_get_bind continued)
    (Session.keeps_get_bind fun _ => (Session.keeps_rules _).pure _) ?_ ?_
  · exact fun playing => Session.keeps_modify fun stage onTape =>
      { AlikeOn.refl onTape with
        onTape_right := onTape
        playing_eq := by simp [apart.number_ne.symm] }
  · rintro command ⟨primitive, member, target⟩ stage ⟨tape, onTape⟩
    rw [Stage.run_perform onTape]
    refine { AlikeOn.refl ⟨tape, onTape⟩ with
      onTape_right := ⟨_, rfl⟩, recording_eq := ?_ }
    intro own theirs
    have elsewhere := apart.slot_ne primitive member own theirs
    simp [Stage.recording?, onTape, Tape.recording?_perform, target, elsewhere]

/-! ## Coming to rest -/

/-- Two stages are alike for an instrument, which does not play. -/
def AlikeAtRest (instrument : Instrument R) (left right : Stage R) : Prop :=
  instrument.AlikeOn left right ∧ left.playing instrument.number = false

omit [Scalar R] in
theorem run_isPlaying (number : Nat) (stage : Stage R) :
    (Stage.isPlaying number : Session (Stage R) R Bool).run stage =
      (.succeed (stage.playing number), stage) := by
  rw [Stage.isPlaying, Session.run_get_bind]
  rfl

/-- An instrument that does not play is not stopped again. -/
theorem run_stop_of_resting
    {instrument : Instrument R}
    {stage : Stage R}
    (resting : stage.playing instrument.number = false) :
    instrument.stop.run stage = (.succeed (), stage) := by
  have looked := run_isPlaying instrument.number stage
  rw [resting] at looked
  rw [stop, Session.run_bind_of_ok looked]
  rfl

/-- A stopped instrument does not play. -/
theorem playing_of_stop
    {instrument : Instrument R}
    {stage final : Stage R}
    (stopped : instrument.stop.Reaches stage () final) :
    final.playing instrument.number = false := by
  cases playing : stage.playing instrument.number with
  | false =>
      rw [← stopped.2, run_stop_of_resting playing]
      exact playing
  | true =>
      obtain ⟨answer, _, looked, stopped⟩ := Session.reaches_bind.1 stopped
      obtain ⟨answered, rfl⟩ := looked
      rw [run_isPlaying, playing] at answered
      obtain rfl := Except.ok.inj answered
      simp only [if_true, Session.reaches_bind] at stopped
      obtain ⟨_, _, -, _, _, -, _, _, -, _, _, -, _, _, -, silenced⟩ := stopped
      rw [← silenced.2]
      simp [Stage.setPlaying, modify, modifyGet, MonadStateOf.modifyGet]

/-- An instrument at rest is destroyed alike at any time: what is left to stop, its
modulating oscillators, is stopped without one. -/
theorem respects_destroy (instrument : Instrument R) :
    instrument.destroy.Respects instrument.AlikeAtRest := by
  have rules := Session.respects_rules (R := R) instrument.AlikeAtRest
  refine rules.bind ?_ fun _ => rules.forM fun entry _ => ?_
  · rintro left right ⟨alike, resting⟩
    have restingToo := alike.playing_eq.symm.trans resting
    rw [run_stop_of_resting resting, run_stop_of_resting restingToo]
    exact ⟨rfl, alike, resting⟩
  · unfold Stage.stop
    split
    · exact (respects_perform instrument _).and_still
        (fun stage => stage.playing instrument.number) (fun _ => rfl)
        fun playing _ => playing = false
    · exact rules.pure _

end Instrument
end MelodyAutomation

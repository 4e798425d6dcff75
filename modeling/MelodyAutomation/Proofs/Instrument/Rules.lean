import MelodyAutomation.Instrument
import MelodyAutomation.Proofs.Engine.Commands
import MelodyAutomation.Proofs.Value.Scalars

/-!
# Rules for instruments

What an instrument does to its stage, it does through a few operations: it looks
at the time and at whether it plays itself, notes that it plays or does not, and
gives commands for its own primitives. So a property of sessions that has these
holds of everything an instrument does.
-/

namespace MelodyAutomation

variable {R : Type}

/-- An active primitive has a socket for each of its parameters. -/
theorem Primitive.socket?_eq_some
    {primitive : Primitive}
    {parameter : Parameter}
    {socket : Socket} :
    primitive.socket? parameter = some socket ↔
      primitive.active = true ∧ primitive.has parameter = true ∧
        socket = ⟨primitive.node, parameter⟩ := by
  unfold socket?
  split
  next present =>
      obtain ⟨active, has⟩ := Bool.and_eq_true_iff.1 present
      simp [active, has, eq_comm]
  next absent => simp_all

namespace Instrument

/-- The primitives of an instrument. -/
def primitives (instrument : Instrument R) : List Primitive :=
  [instrument.oscillator, instrument.noise, instrument.filter] ++
    instrument.modulators.map Prod.snd

theorem oscillator_mem (instrument : Instrument R) :
    instrument.oscillator ∈ instrument.primitives := by
  simp [primitives]

theorem noise_mem (instrument : Instrument R) :
    instrument.noise ∈ instrument.primitives := by
  simp [primitives]

theorem filter_mem (instrument : Instrument R) :
    instrument.filter ∈ instrument.primitives := by
  simp [primitives]

theorem modulator_mem
    {instrument : Instrument R}
    {entry : Target × Primitive}
    (member : entry ∈ instrument.modulators) :
    entry.2 ∈ instrument.primitives := by
  simp only [primitives, List.mem_append, List.mem_map]
  exact .inr ⟨entry, member, rfl⟩

/-- The sockets of an instrument are parameters of its active primitives. -/
theorem exists_of_socket?
    {instrument : Instrument R}
    {target : Target}
    {socket : Socket}
    (found : instrument.socket? target = some socket) :
    ∃ primitive ∈ instrument.primitives, primitive.active = true ∧
      primitive.has socket.parameter = true ∧
        socket.node = primitive.node := by
  have known {primitive : Primitive} {parameter : Parameter}
      (member : primitive ∈ instrument.primitives)
      (found : primitive.socket? parameter = some socket) :
      ∃ primitive ∈ instrument.primitives, primitive.active = true ∧
        primitive.has socket.parameter = true ∧
          socket.node = primitive.node := by
    obtain ⟨active, has, rfl⟩ := Primitive.socket?_eq_some.1 found
    exact ⟨primitive, member, active, has, rfl⟩
  cases target with
  | oscillatorFrequency => exact known (oscillator_mem instrument) found
  | oscillatorGain => exact known (oscillator_mem instrument) found
  | noiseGain => exact known (noise_mem instrument) found
  | filterFrequency => exact known (filter_mem instrument) found

section

variable [Scalar R]

/-- A fade goes to the least value. -/
theorem rampValue_zero : rampValue (.int 0 : Value R) = leastValue := by
  simp [rampValue, Value.same, Value.sameNumber, Value.reading?,
    Reading.compare?]

/-- What a property of sessions must satisfy to hold of everything an instrument
does, when it writes only values that are accepted. -/
structure OwnRules (instrument : Instrument R) (accepts : Value R → Prop)
    (holds : ∀ α : Type, Session (Stage R) R α → Prop) : Prop
    extends Session.Rules holds where
  /-- Looking at the stage decides nothing beyond what the time decides. -/
  look : ∀ {α : Type} {next : Stage R → Session (Stage R) R α},
    (∀ left right : Stage R, left.nowMs = right.nowMs →
      left.waitsUntil? = right.waitsUntil? → next left = next right) →
    (∀ stage, holds α (next stage)) → holds α (get >>= next)
  isPlaying : holds Bool (Stage.isPlaying instrument.number)
  setPlaying : ∀ playing : Bool,
    holds Unit (Stage.setPlaying instrument.number playing)
  start : ∀ primitive ∈ instrument.primitives,
    holds Unit (Stage.start primitive)
  stop : ∀ primitive ∈ instrument.primitives, ∀ time : Option R,
    holds Unit (Stage.stop primitive (time.map Value.real))
  set : ∀ (target : Target) (socket : Socket),
    instrument.socket? target = some socket → ∀ value time, accepts value →
      holds Unit (Stage.set socket value (.real time))
  ramp : ∀ (target : Target) (socket : Socket),
    instrument.socket? target = some socket → ∀ value time, accepts value →
      holds Unit (Stage.ramp socket value (.real time))
  /-- What ramps reach instead of zero is accepted. -/
  least : accepts leastValue

/-- Where every value is accepted, what is true of the commands for an instrument's
nodes is true of all that it does through them. -/
theorem OwnRules.ofPerform
    {instrument : Instrument R}
    {holds : ∀ α : Type, Session (Stage R) R α → Prop}
    (rules : Session.Rules holds)
    (look : ∀ {α : Type} {next : Stage R → Session (Stage R) R α},
      (∀ left right : Stage R, left.nowMs = right.nowMs →
        left.waitsUntil? = right.waitsUntil? → next left = next right) →
      (∀ stage, holds α (next stage)) → holds α (get >>= next))
    (isPlaying : holds Bool (Stage.isPlaying instrument.number))
    (setPlaying : ∀ playing : Bool,
      holds Unit (Stage.setPlaying instrument.number playing))
    (perform : ∀ command : Command R,
      (∃ primitive ∈ instrument.primitives,
        command.target = primitive.node) → holds Unit (Stage.perform command)) :
    OwnRules instrument (fun _ => True) holds where
  toRules := rules
  look := look
  isPlaying := isPlaying
  setPlaying := setPlaying
  start primitive member := by
    unfold Stage.start
    split
    · exact perform (.start primitive.node) ⟨primitive, member, rfl⟩
    · exact rules.pure _
  stop primitive member time := by
    unfold Stage.stop
    split
    · exact perform (.stop primitive.node _) ⟨primitive, member, rfl⟩
    · exact rules.pure _
  set target socket found value time _ := by
    obtain ⟨primitive, member, -, -, node⟩ := exists_of_socket? found
    exact perform (.set socket value _) ⟨primitive, member, node⟩
  ramp target socket found value time _ := by
    obtain ⟨primitive, member, -, -, node⟩ := exists_of_socket? found
    exact perform (.ramp socket value _) ⟨primitive, member, node⟩
  least := trivial

end

/-- A schedule writes only accepted values, where there is a socket for them. -/
def Accepts (instrument : Instrument R) (accepts : Value R → Prop)
    (schedule : Schedule R) : Prop :=
  ∀ entry ∈ schedule.blocks.entries, (instrument.socket? entry.1).isSome →
    ∀ block ∈ entry.2, ∀ segment ∈ block, accepts segment.value

theorem accepts_all (instrument : Instrument R) (schedule : Schedule R) :
    instrument.Accepts (fun _ => True) schedule :=
  fun _ _ _ _ _ _ _ => trivial

/-- Something done with an instrument: it is started, stopped or destroyed, plays a
composition, or writes the schedule that it makes of one; or time passes. -/
inductive Act (R : Type)
  | start
  | stop
  | destroy
  | play (composition : Value R)
  | applySchedule (composition : Value R)
  | advance (seconds : Value R)

namespace Act

variable [Machine R]

/-- Carry out an act. -/
def perform (instrument : Instrument R) : Act R → Session (Stage R) R Unit
  | start => instrument.start
  | stop => instrument.stop
  | destroy => instrument.destroy
  | play composition => instrument.play composition
  | applySchedule composition => do
      let schedule ← instrument.scheduler.schedule composition
      instrument.applySchedule schedule
  | advance seconds => Stage.advance seconds

/-- An act writes only accepted values. -/
def Accepts (instrument : Instrument R) (accepts : Value R → Prop) :
    Act R → Prop
  | play composition | applySchedule composition =>
      ∀ schedule,
        (instrument.scheduler.schedule composition).outcome = .ok schedule →
          instrument.Accepts accepts schedule
  | _ => True

theorem accepts_all (act : Act R) (instrument : Instrument R) :
    act.Accepts instrument fun _ => True := by
  cases act with
  | play composition => exact fun schedule _ => Instrument.accepts_all instrument schedule
  | applySchedule composition =>
      exact fun schedule _ => Instrument.accepts_all instrument schedule
  | _ => trivial

end Act

namespace OwnRules

variable {instrument : Instrument R} {accepts : Value R → Prop}
variable {holds : ∀ α : Type, Session (Stage R) R α → Prop}

section

variable [Scalar R]

theorem rampValue
    (rules : OwnRules instrument accepts holds)
    {value : Value R}
    (accepted : accepts value) :
    accepts (Instrument.rampValue value) := by
  unfold Instrument.rampValue
  split
  · exact rules.least
  · exact accepted

theorem setSegment
    (rules : OwnRules instrument accepts holds)
    (target : Target)
    {value : Value R}
    (accepted : (instrument.socket? target).isSome → accepts value)
    (start ramp : Value R)
    (now : R) :
    holds Unit (writeSegment (instrument.socket? target) value start ramp true
      (.real now)) := by
  cases found : instrument.socket? target with
  | none => exact rules.pure _
  | some socket =>
      refine rules.attempt_bind fun begin added => ?_
      obtain ⟨begin, rfl⟩ := Value.real_of_add added
      exact rules.set target socket found value begin
        (accepted (by simp [found]))

theorem rampSegment
    (rules : OwnRules instrument accepts holds)
    (target : Target)
    {value : Value R}
    (accepted : (instrument.socket? target).isSome →
      accepts (Instrument.rampValue value))
    (start ramp : Value R)
    (now : R) :
    holds Unit (writeSegment (instrument.socket? target) value start ramp false
      (.real now)) := by
  cases found : instrument.socket? target with
  | none => exact rules.pure _
  | some socket =>
      refine rules.attempt_bind fun begin added => ?_
      obtain ⟨begin, rfl⟩ := Value.real_of_add added
      refine rules.attempt_bind fun time added => ?_
      obtain ⟨time, rfl⟩ := Value.real_of_add added
      exact rules.ramp target socket found _ time
        (accepted (by simp [found]))

theorem writeBlock
    (rules : OwnRules instrument accepts holds)
    {target : Target}
    {block : Block R}
    (accepted : (instrument.socket? target).isSome →
      ∀ segment ∈ block, accepts segment.value)
    (now : R) :
    holds Unit (Instrument.writeBlock (instrument.socket? target) (.real now)
      block) := by
  cases block with
  | nil => exact rules.pure _
  | cons first rest =>
      refine rules.bind ?_ fun _ => rules.forM fun segment member => ?_
      · exact rules.setSegment target (fun present => accepted present first
          (by simp)) _ _ _
      · exact rules.rampSegment target (fun present => rules.rampValue
          (accepted present segment (by simp [member]))) _ _ _

theorem applySchedule
    (rules : OwnRules instrument accepts holds)
    {schedule : Schedule R}
    (accepted : instrument.Accepts accepts schedule) :
    holds Unit (instrument.applySchedule schedule) := by
  refine rules.look (fun left right now _ => by simp only [now]) fun stage => ?_
  refine rules.forM fun entry member => rules.forM fun block inside => ?_
  exact rules.writeBlock
    (fun present => accepted entry member present block inside) _

theorem startAll (rules : OwnRules instrument accepts holds) :
    holds Unit instrument.start := by
  refine rules.bind (rules.start _ (oscillator_mem instrument)) fun _ => ?_
  refine rules.bind (rules.start _ (noise_mem instrument)) fun _ => ?_
  refine rules.bind (rules.forM fun entry member =>
    rules.start _ (modulator_mem member)) fun _ => ?_
  exact rules.setPlaying true

theorem stopAll (rules : OwnRules instrument accepts holds) :
    holds Unit instrument.stop := by
  refine rules.bind rules.isPlaying fun playing => ?_
  cases playing with
  | false => exact rules.pure _
  | true =>
      refine rules.look (fun left right now _ => by simp only [now])
        fun stage => ?_
      refine rules.attempt_bind fun silence added => ?_
      obtain ⟨silence, rfl⟩ := Value.real_of_add added
      refine rules.bind ?_ fun _ => ?_
      · exact rules.rampSegment .oscillatorGain
          (fun _ => rampValue_zero (R := R) ▸ rules.least) _ _ _
      refine rules.bind (rules.stop _ (oscillator_mem instrument)
        (some silence)) fun _ => ?_
      refine rules.bind (rules.stop _ (noise_mem instrument) none) fun _ => ?_
      exact rules.setPlaying false

theorem destroy (rules : OwnRules instrument accepts holds) :
    holds Unit instrument.destroy :=
  rules.bind rules.stopAll fun _ => rules.forM fun _ member =>
    rules.stop _ (modulator_mem member) none

end

variable [Machine R]

theorem beginPlaying
    (rules : OwnRules instrument accepts holds)
    {composition : Value R}
    (accepted : ∀ schedule,
      (instrument.scheduler.schedule composition).outcome = .ok schedule →
        instrument.Accepts accepts schedule) :
    holds (Option R) (instrument.beginPlaying composition) := by
  refine rules.logged_bind fun schedule scheduled => ?_
  refine rules.bind (rules.report _) fun _ => ?_
  refine rules.bind rules.startAll fun _ => ?_
  refine rules.bind
    (rules.attempt (rules.applySchedule (accepted schedule scheduled)))
    fun outcome => ?_
  cases outcome with
  | error failure => exact rules.bind rules.stopAll fun _ => rules.throw _
  | ok _ =>
      refine rules.look (fun left right _ waits => by simp only [waits])
        fun stage => ?_
      cases stage.waitsUntil? schedule.duration with
      | none => exact rules.bind rules.stopAll fun _ => rules.pure _
      | some wake => exact rules.pure _

/-- An act also moves the clock. -/
theorem act
    (rules : OwnRules instrument accepts holds)
    (setClock : ∀ clock, holds Unit (Stage.setClock clock))
    (advance : ∀ seconds, holds Unit (Stage.advance seconds))
    {act : Act R}
    (accepted : act.Accepts instrument accepts) :
    holds Unit (act.perform instrument) := by
  cases act with
  | start => exact rules.startAll
  | stop => exact rules.stopAll
  | destroy => exact rules.destroy
  | play composition =>
      refine rules.bind (rules.beginPlaying accepted) fun wake => ?_
      cases wake with
      | none => exact rules.pure _
      | some wake => exact rules.bind (setClock wake) fun _ => rules.stopAll
  | applySchedule composition =>
      exact rules.logged_bind fun schedule scheduled =>
        rules.applySchedule (accepted schedule scheduled)
  | advance seconds => exact advance seconds

end OwnRules
end Instrument
end MelodyAutomation

import MelodyAutomation.Proofs.Ensemble.History
import MelodyAutomation.Proofs.Instrument.Automation

/-!
# The automation on a stage

Instruments that share a stage take turns, and each turn is a step of one of them.
Whatever is on the stage, the automation of a socket is what was there before,
followed by what the turns write to it; nobody writes to the sockets of another
instrument. No stage has a ramp to zero on it.
-/

namespace MelodyAutomation

variable {R : Type} [Machine R]

namespace Instrument

/-- The sockets of an instrument are those of its targets and those of its
modulators. -/
def HasAsSocket {R : Type} (instrument : Instrument R) (socket : Socket) : Prop :=
  (∃ target, instrument.socket? target = some socket) ∨
    ∃ entry ∈ instrument.modulators, ∃ parameter,
      entry.2.socket? parameter = some socket

/-- What an instrument adds to the automation on a stage. -/
structure Automates (instrument : Instrument R) (stage : Stage R) : Prop where
  /-- A schedule that is applied without a refusal is written to the sockets of the
  instrument's targets, block by block. -/
  applies : ∀ (schedule : Schedule R) (target : Target) (socket : Socket),
    instrument.socket? target = some socket →
    ((instrument.applySchedule schedule).run stage).1.outcome = .ok () →
    ∃ added : List (Event R),
      ((instrument.applySchedule schedule).run stage).2.events socket =
        stage.events socket ++ added ∧
      added.map .ok = (schedule.blocks.get target).flatMap
        (Block.eventsAfter (.real stage.nowMs))
  /-- One that is refused is written up to the write that cannot be made. -/
  appliesUntil : ∀ (schedule : Schedule R) (socket : Socket),
    stage.HasSocket socket →
    ((instrument.applySchedule schedule).run stage).2.events socket =
      stage.events socket ++ eventsAt socket (Attempt.granted
        (instrument.scheduleWrites schedule (.real stage.nowMs)))
  /-- An instrument that stops fades out if it plays. -/
  fades : ∃ time : Value R,
    fading.rampAfter (.real stage.nowMs) = .ok (.ramp leastValue time) ∧
    ∀ socket : Socket, stage.HasSocket socket →
      (instrument.stop.run stage).2.events socket = stage.events socket ++
        if stage.playing instrument.number = true ∧
            instrument.socket? .oscillatorGain = some socket
        then [.ramp leastValue time] else []
  /-- One that starts writes nothing. -/
  starts : ∀ socket : Socket, stage.HasSocket socket →
    (instrument.start.run stage).2.events socket = stage.events socket
  /-- Every step writes what its moves write. -/
  steps : ∀ (step : Step R) (socket : Socket), stage.HasSocket socket →
    ((step.perform instrument).run stage).2.events socket =
      stage.events socket ++ eventsAt socket
        (instrument.trace (step.moves instrument stage) stage)
  /-- No step writes to a socket that belongs to none of the targets. -/
  spares : ∀ (step : Step R) (socket : Socket), stage.HasSocket socket →
    (∀ target, instrument.socket? target ≠ some socket) →
    ((step.perform instrument).run stage).2.events socket = stage.events socket
  /-- The sockets of the modulators belong to none of the targets. -/
  modulators : ∀ entry ∈ instrument.modulators, ∀ parameter socket,
    entry.2.socket? parameter = some socket →
    ∀ target, instrument.socket? target ≠ some socket

section

omit [Machine R]

/-- A socket of an instrument is one of its primitives'. -/
theorem HasAsSocket.exists_primitive
    {instrument : Instrument R}
    {socket : Socket}
    (own : instrument.HasAsSocket socket) :
    ∃ primitive ∈ instrument.primitives,
      primitive.has socket.parameter = true ∧ socket.node = primitive.node := by
  rcases own with ⟨target, found⟩ | ⟨entry, member, parameter, found⟩
  · obtain ⟨primitive, known, -, present, node⟩ := exists_of_socket? found
    exact ⟨primitive, known, present, node⟩
  · obtain ⟨-, present, rfl⟩ := Primitive.socket?_eq_some.1 found
    exact ⟨entry.2, modulator_mem member, present, rfl⟩

/-- Instruments that are apart have no socket in common. -/
theorem Apart.not_hasAsSocket
    {left right : Instrument R}
    (apart : left.Apart right)
    {socket : Socket}
    (ofLeft : left.HasAsSocket socket) :
    ¬ right.HasAsSocket socket := by
  intro ofRight
  obtain ⟨first, ours, -, node⟩ := ofLeft.exists_primitive
  obtain ⟨second, theirs, -, other⟩ := ofRight.exists_primitive
  exact apart.slot_ne first ours second theirs (by rw [← node, other])

/-- The modulators of an instrument have nodes of their own. -/
theorem IsSpread.socket?_ne_of_modulator
    {instrument : Instrument R}
    (spread : instrument.IsSpread)
    {entry : Target × Primitive}
    (member : entry ∈ instrument.modulators)
    {parameter : Parameter}
    {socket : Socket}
    (found : entry.2.socket? parameter = some socket)
    (target : Target) :
    instrument.socket? target ≠ some socket := by
  have node {primitive : Primitive} {other : Parameter}
      (same : primitive.socket? other = some socket) :
      entry.2.node = primitive.node := by
    obtain ⟨-, -, rfl⟩ := Primitive.socket?_eq_some.1 found
    obtain ⟨-, -, equal⟩ := Primitive.socket?_eq_some.1 same
    exact congrArg Socket.node equal
  intro same
  cases target with
  | oscillatorFrequency | oscillatorGain =>
      exact spread.modulator_oscillator entry member
        (congrArg Node.slot? (node same))
  | noiseGain =>
      exact spread.modulator_noise entry member (congrArg Node.slot? (node same))
  | filterFrequency =>
      exact spread.modulator_filter entry member (congrArg Node.slot? (node same))

end

section

variable {instrument : Instrument Float} {life : Life} {stage : Stage Float}

theorem Lives.hasSocket
    (lives : instrument.Lives life stage)
    {socket : Socket}
    (found : instrument.HasAsSocket socket) :
    stage.HasSocket socket := by
  obtain ⟨primitive, member, present, node⟩ := found.exists_primitive
  obtain ⟨own, parameter⟩ := socket
  obtain rfl : own = primitive.node := node
  exact (lives.holds primitive member).hasSocket present

theorem events_stop
    (lives : instrument.Lives life stage)
    {time : Value Float}
    (fades : fading.rampAfter (.real stage.nowMs) = .ok (.ramp leastValue time))
    {socket : Socket}
    (has : stage.HasSocket socket) :
    (instrument.stop.run stage).2.events socket = stage.events socket ++
      if stage.playing instrument.number = true ∧
          instrument.socket? .oscillatorGain = some socket
      then [.ramp leastValue time] else [] := by
  rw [(instrument.reaches_stop lives.onTape).2,
    events_result lives.holds .stop has, Move.writes]
  by_cases playing : stage.playing instrument.number = true
  · rw [if_pos playing, fadeWrites, fades, eventsAt_granted_writes]
    simp only [playing, true_and]
    rfl
  · rw [if_neg playing, if_neg fun both => playing both.1]
    rfl

/-- An instrument that lives on a stage adds to its automation what is its own. -/
theorem Lives.automates [Limits] (lives : instrument.Lives life stage) :
    instrument.Automates stage := by
  have steps (step : Step Float) (socket : Socket)
      (has : stage.HasSocket socket) :
      ((step.perform instrument).run stage).2.events socket =
        stage.events socket ++ eventsAt socket
          (instrument.trace (step.moves instrument stage) stage) := by
    rw [instrument.run_step step lives.onTape]
    exact events_moved lives.holds _ has
  have applies (schedule : Schedule Float) (socket : Socket)
      (has : stage.HasSocket socket) :
      ((instrument.applySchedule schedule).run stage).2.events socket =
        stage.events socket ++ eventsAt socket (Attempt.granted
          (instrument.scheduleWrites schedule (.real stage.nowMs))) := by
    rw [(instrument.run_applySchedule schedule lives.onTape).2]
    exact events_result lives.holds (.write schedule) has
  refine ⟨fun schedule target socket found outcome => ?_, applies, ?_,
    fun socket has => ?_, steps, fun step socket has others => ?_,
    fun entry member _ _ found =>
      lives.spread.socket?_ne_of_modulator member found⟩
  · have all := (instrument.run_applySchedule schedule lives.onTape).1
    rw [outcome] at all
    exact ⟨_, applies schedule socket (lives.hasSocket (.inl ⟨target, found⟩)),
      map_eventsAt_scheduleWrites lives.spread all.symm found⟩
  · obtain ⟨time, fades⟩ := exists_fade stage.nowMs
    exact ⟨_, fades, fun socket has => events_stop lives fades has⟩
  · rw [(instrument.reaches_start lives.onTape).2,
      events_result lives.holds .start has]
    exact List.append_nil _
  · rw [steps step socket has, eventsAt_eq_nil, List.append_nil]
    intro write member same
    obtain ⟨target, found⟩ := exists_target_of_mem_trace member
    exact others target (same ▸ found)

end

end Instrument

namespace Stage

/-! ## Turns -/

/-- What turns leave of a stage, one after another and whether or not one is
refused. -/
def followed (stage : Stage R)
    (turns : List (Instrument R × Instrument.Step R)) : Stage R :=
  turns.foldl (fun reached turn => ((turn.2.perform turn.1).run reached).2) stage

/-- What turns write, one after another. -/
def trace : List (Instrument R × Instrument.Step R) → Stage R →
    List (Socket × Event R)
  | [], _ => []
  | (instrument, step) :: rest, stage =>
      instrument.trace (step.moves instrument stage) stage ++
        trace rest ((step.perform instrument).run stage).2

theorem History.followed
    {opened stage : Stage R}
    {known : List (Instrument R)}
    (history : History opened known stage)
    {turns : List (Instrument R × Instrument.Step R)}
    (members : ∀ turn ∈ turns, turn.1 ∈ known) :
    History opened known (stage.followed turns) := by
  induction turns generalizing stage with
  | nil => exact history
  | cons turn rest hypothesis =>
      exact hypothesis
        (history.turned (.stepped turn.2 (members turn List.mem_cons_self)))
        fun later member => members later (List.mem_cons_of_mem _ member)

/-- Turns add to the automation of a socket what they write to it. -/
theorem events_followed
    [Limits]
    {opened stage : Stage Float}
    {known : List (Instrument Float)}
    (onTape : opened.OnTape)
    (history : History opened known stage)
    {turns : List (Instrument Float × Instrument.Step Float)}
    (members : ∀ turn ∈ turns, turn.1 ∈ known)
    {socket : Socket}
    (has : stage.HasSocket socket) :
    (stage.followed turns).events socket =
      stage.events socket ++ eventsAt socket (trace turns stage) := by
  induction turns generalizing stage with
  | nil => simp [Stage.followed, trace]
  | cons turn rest hypothesis =>
      obtain ⟨instrument, step⟩ := turn
      have member := members (instrument, step) List.mem_cons_self
      have populated := history.populated onTape
      obtain ⟨life, lives⟩ := populated.lives instrument member
      have still : ((step.perform instrument).run stage).2.HasSocket socket := by
        rw [instrument.run_step step populated.onTape]
        exact Instrument.hasSocket_moved has _
      have continued := hypothesis (history.turned (.stepped step member))
        (fun later inside => members later (List.mem_cons_of_mem _ inside)) still
      rw [lives.automates.steps step socket has, List.append_assoc,
        ← eventsAt_append] at continued
      exact continued

/-! ## Ramps -/

omit [Machine R] in
/-- Nothing was written yet to a node that was just created. -/
theorem events_of_ofBlueprint
    {number : Nat}
    {blueprint : Blueprint R}
    {parameter : Parameter}
    {lane : Lane R}
    (present :
      (Recording.ofBlueprint number blueprint).lane? parameter = some lane) :
    lane.events = [] := by
  cases parameter <;>
  · simp only [Recording.lane?, Recording.ofBlueprint, Recording.fresh] at present
    split at present
    · cases present
    · cases present
    · obtain rfl := Option.some.inj present
      rfl

/-- Creating a node writes nothing. -/
theorem IsAudible.create
    {stage : Stage R}
    {tape : Tape R}
    (onTape : stage.engine = .tape tape)
    (audible : stage.IsAudible)
    (blueprint : Blueprint R) :
    IsAudible { stage with engine := .tape (tape.create blueprint).2 } := by
  intro socket event member
  by_cases earlier : ∀ number ∈ socket.node.slot?, number < stage.slots
  · refine audible socket event ?_
    rwa [events, recording?_create_of_earlier onTape blueprint earlier]
      at member
  · rw [events] at member
    split at member
    next lane found =>
        obtain ⟨recording, recorded, present⟩ := Option.bind_eq_some_iff.1 found
        obtain ⟨node, parameter⟩ := socket
        cases node with
        | destination => exact (earlier fun _ slot => by cases slot).elim
        | created kind number =>
            have beyond : ¬ number < tape.recordings.length := by
              rw [slots, onTape] at earlier
              exact fun before => earlier fun _ same =>
                Option.some.inj same ▸ before
            have last : recording =
                Recording.ofBlueprint tape.recordings.length blueprint := by
              change (tape.recordings ++ [_])[number]? = some recording
                at recorded
              rw [List.getElem?_append_right (Nat.le_of_not_lt beyond)]
                at recorded
              obtain ⟨_, same⟩ := List.getElem?_eq_some_iff.1 recorded
              simpa using same.symm
            rw [last] at present
            rw [events_of_ofBlueprint present] at member
            cases member
    next => cases member

theorem IsAudible.rules :
    BuildRules fun _ stage => stage.OnTape ∧ stage.IsAudible (R := R) where
  perm _ kept := kept
  create known blueprint := by
    rintro stage ⟨⟨tape, onTape⟩, audible⟩
    rw [run_create onTape]
    exact ⟨rfl, ⟨_, rfl⟩, audible.create onTape blueprint⟩
  connect known primitive member inlet within stage kept := by
    rw [connect_eq, (reaches_performAll kept.1 _).2]
    refine ⟨kept.1.performed _, kept.2.performed ?_⟩
    rw [Instrument.filterMap_told _ fun _ => rfl]
    exact List.forall_mem_nil _

/-- No instrument, and no other one beside it, was ever made to ramp to zero. -/
theorem History.isAudible
    [Limits]
    {opened stage : Stage Float}
    {known : List (Instrument Float)}
    (onTape : opened.OnTape)
    (audible : opened.IsAudible)
    (history : History opened known stage) :
    stage.IsAudible := by
  induction history with
  | opened => exact audible
  | @turned known more stage final history turn hypothesis =>
      have kept := And.intro (history.populated onTape).onTape hypothesis
      have numbered : (takeNumber : Session (Stage Float) Float Nat).Keeps
          (Session.Maintains fun stage => stage.OnTape ∧ stage.IsAudible) :=
        fun _ kept => kept
      have made (configuration : Value Float) (options : Entries Float) :=
        IsAudible.rules.keeps_make numbered configuration options stage kept
      cases turn with
      | built reaches =>
          obtain ⟨-, rfl⟩ := reaches
          exact (made _ _).2
      | refused _ => exact (made _ _).2
      | stepped step member =>
          rw [Instrument.run_step _ step kept.1]
          exact Instrument.isAudible_moved hypothesis _
      | clocked reading => exact hypothesis

/-! ## Runs -/

/-- Whatever has become of a tape, and whatever turns instruments then take on it:
the automation of every socket goes on with what the turns write to it, in order. A
schedule is written block by block, or up to the write that is refused; an instrument
that stops fades out if it plays; nothing else is written, and nothing to the
sockets of another instrument or to those of any modulator. So no ramp reaches
zero. -/
theorem automation_follows_turns
    [Limits]
    {clock : Float}
    {timebase : Timebase Float}
    {realtime : Bool}
    {known : List (Instrument Float)}
    {stage : Stage Float}
    (history : History (openTape clock timebase realtime) known stage)
    {turns : List (Instrument Float × Instrument.Step Float)}
    (members : ∀ turn ∈ turns, turn.1 ∈ known) :
    (∀ socket, stage.HasSocket socket →
      (stage.followed turns).events socket =
        stage.events socket ++ eventsAt socket (trace turns stage)) ∧
    (∀ instrument ∈ known,
      instrument.Automates (stage.followed turns) ∧
      ∀ other ∈ known, other ≠ instrument → ∀ socket, other.HasAsSocket socket →
        ¬ instrument.HasAsSocket socket ∧
        ∀ step : Instrument.Step Float,
          ((step.perform instrument).run (stage.followed turns)).2.events socket =
            (stage.followed turns).events socket) ∧
    ∀ socket value time, .ramp value time ∈ (stage.followed turns).events socket →
      value.same (.int 0) = false := by
  have onTape : (openTape clock timebase realtime).OnTape := ⟨Tape.blank, rfl⟩
  have silent : (openTape clock timebase realtime).IsAudible := by
    intro socket event member
    obtain ⟨node | ⟨kind, number⟩, parameter⟩ := socket <;> cases parameter <;>
      cases member
  have followed := history.followed members
  have populated := followed.populated onTape
  refine ⟨fun socket has => events_followed onTape history members has,
    fun instrument member => ⟨?_, ?_⟩, ?_⟩
  · obtain ⟨life, lives⟩ := populated.lives instrument member
    exact lives.automates
  · intro other inside different socket theirs
    have apart := (populated.eq_or_apart inside member).resolve_left different
    have foreign := apart.not_hasAsSocket theirs
    obtain ⟨_, living⟩ := populated.lives other inside
    obtain ⟨_, lives⟩ := populated.lives instrument member
    exact ⟨foreign, fun step => lives.automates.spares step socket
      (living.hasSocket theirs) fun own found => foreign (.inl ⟨own, found⟩)⟩
  · intro socket value time written
    exact followed.isAudible onTape silent socket _ written

/-- Two voices by turns: both play at once, and the one that is done first is given
another schedule while the other one still plays. -/
def exchange (first second : Instrument Float) :
    List (Instrument Float × Instrument.Step Float) :=
  [(first, .begin (.list [.map [(.text "note", .text "A")]])),
    (second, .begin (.list [.map [(.text "note", .text "C")]])),
    (first, .resume 1.0),
    (first, .act (.applySchedule (.list [.map [(.text "note", .text "E")]]))),
    (second, .act .destroy),
    (first, .act .stop)]

theorem automation_follows_exchange :
    ∃ first second stage,
      History (openTape 0.0 .manual true) [second, first] stage ∧
      (∀ turn ∈ exchange first second, turn.1 ∈ [second, first]) ∧
      (∀ socket, stage.HasSocket socket →
        (stage.followed (exchange first second)).events socket =
          stage.events socket ++
            eventsAt socket (trace (exchange first second) stage)) ∧
      (∀ instrument ∈ [second, first],
        instrument.Automates (stage.followed (exchange first second)) ∧
        ∀ other ∈ [second, first], other ≠ instrument →
          ∀ socket, other.HasAsSocket socket →
            ¬ instrument.HasAsSocket socket ∧
            ∀ step : Instrument.Step Float,
              ((step.perform instrument).run
                (stage.followed (exchange first second))).2.events socket =
                  (stage.followed (exchange first second)).events socket) ∧
      ∀ socket value time,
        .ramp value time ∈
          (stage.followed (exchange first second)).events socket →
        value.same (.int 0) = false := by
  have builds : (((Instrument.make Instrument.wavering []) >>= fun first =>
      (Instrument.make .null []) >>= fun second => pure (first, second)).run
        (openTape 0.0 .manual true)).1.outcome.isOk = true := by
    decide +kernel
  obtain ⟨_, outcome⟩ := Attempt.exists_of_isOk builds
  obtain ⟨first, between, made, continues⟩ :=
    Session.reaches_bind.1 ⟨outcome, rfl⟩
  obtain ⟨second, stage, madeSecond, -⟩ := Session.reaches_bind.1 continues
  have history : History (openTape 0.0 .manual true) [second, first] stage :=
    (History.opened.turned (.built made)).turned (.built madeSecond)
  have members : ∀ turn ∈ exchange first second, turn.1 ∈ [second, first] := by
    simp [exchange]
  exact ⟨first, second, stage, history, members,
    automation_follows_turns history members⟩

end Stage

namespace Instrument

/-- A voice whose pitch is to be reached at a time that no scalar is near to. -/
def belatedVoice : Value Float :=
  .map
    [(.text "envelopes", .map
      [(.text "osc.freq", .record .explicit
        [.tuple [.tuple [.int 0, .int 1],
          .tuple [.int (Int.ofNat (Nat.pow 10 400)), .int 1]]])])]

/-- One note. -/
def oneNote : Value Float := .list [.map [(.text "note", .text "A")]]

/-- A schedule that cannot be written as a whole leaves out even those of its blocks
that could be. -/
theorem refused_schedule_leaves_out_blocks :
    ∃ instrument stage schedule socket,
      (make belatedVoice []).Reaches (Stage.openTape 0.0 .manual false)
        instrument stage ∧
      (instrument.scheduler.schedule oneNote).outcome = .ok schedule ∧
      instrument.socket? .oscillatorGain = some socket ∧
      ((schedule.blocks.get .oscillatorGain).flatMap
        (Block.eventsAfter (.real stage.nowMs))).all Except.isOk = true ∧
      ¬ ∃ added,
        ((Act.perform instrument (.applySchedule oneNote)).run stage).2.events
          socket = stage.events socket ++ added ∧
        added.map .ok = (schedule.blocks.get .oscillatorGain).flatMap
          (Block.eventsAfter (.real stage.nowMs)) := by
  let built := (make belatedVoice []).run (Stage.openTape 0.0 .manual false)
  have cut : built.1.outcome.toOption.any (fun instrument =>
      (instrument.scheduler.schedule oneNote).outcome.toOption.any fun schedule =>
        (instrument.socket? .oscillatorGain).any fun socket =>
          let planned := (schedule.blocks.get .oscillatorGain).flatMap
            (Block.eventsAfter (.real built.2.nowMs))
          let left :=
            ((Act.perform instrument (.applySchedule oneNote)).run built.2).2
          planned.all Except.isOk && planned.length != 0 &&
            (left.events socket).length == (built.2.events socket).length) =
      true := by
    decide +kernel
  obtain ⟨instrument, made, cut⟩ := Attempt.exists_of_any cut
  obtain ⟨schedule, scheduled, cut⟩ := Attempt.exists_of_any cut
  obtain ⟨socket, found, cut⟩ := (Option.any_eq_true _ _).1 cut
  simp only [Bool.and_eq_true, bne_iff_ne, beq_iff_eq] at cut
  obtain ⟨⟨planned, present⟩, unchanged⟩ := cut
  refine ⟨instrument, built.2, schedule, socket, ⟨made, rfl⟩, scheduled, found,
    planned, ?_⟩
  rintro ⟨added, written, same⟩
  have lengths := congrArg List.length written
  have counted := congrArg List.length same
  rw [List.length_append, unchanged] at lengths
  rw [List.length_map] at counted
  omega

end Instrument
end MelodyAutomation

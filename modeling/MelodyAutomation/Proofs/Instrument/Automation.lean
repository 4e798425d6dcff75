import MelodyAutomation.Proofs.Instrument.Lifecycle

/-!
# Automation

Of all that is done with an instrument, only two moves write to sockets: one that
writes a schedule, and one that stops an instrument which plays, for that fades out.
They write to the sockets of the instrument's own targets and to no other ones, in
the order of the targets, and of their blocks and segments; so every socket gets
exactly what was scheduled for it. No ramp reaches zero.
-/

namespace MelodyAutomation

variable {R : Type}

/-! ## What is granted -/

namespace Attempt

variable {α β : Type}

theorem granted_append
    {first : List (Attempt R α)}
    (all : first.all Except.isOk = true)
    (second : List (Attempt R α)) :
    granted (first ++ second) = granted first ++ granted second := by
  induction first with
  | nil => rfl
  | cons attempt rest hypothesis =>
      rw [List.all_cons, Bool.and_eq_true] at all
      obtain ⟨result, rfl⟩ := exists_of_isOk all.1
      simp [granted, hypothesis all.2]

theorem granted_flatMap
    {attempts : β → List (Attempt R α)}
    {items : List β}
    (all : (items.flatMap attempts).all Except.isOk = true) :
    granted (items.flatMap attempts) =
      items.flatMap fun item => granted (attempts item) := by
  induction items with
  | nil => rfl
  | cons item rest hypothesis =>
      rw [List.flatMap_cons, List.all_append, Bool.and_eq_true] at all
      rw [List.flatMap_cons, List.flatMap_cons, granted_append all.1,
        hypothesis all.2]

theorem granted_map (function : α → β) (attempts : List (Attempt R α)) :
    granted (attempts.map (Except.map function)) =
      (granted attempts).map function := by
  induction attempts with
  | nil => rfl
  | cons attempt rest hypothesis =>
      cases attempt with
      | error failure => rfl
      | ok result => simp [granted, Except.map, hypothesis]

end Attempt

/-! ## What goes to a socket -/

theorem eventsAt_flatMap
    {α : Type}
    (socket : Socket)
    (writes : α → List (Socket × Event R))
    (items : List α) :
    eventsAt socket (items.flatMap writes) =
      items.flatMap fun item => eventsAt socket (writes item) := by
  induction items with
  | nil => rfl
  | cons item rest hypothesis =>
      rw [List.flatMap_cons, eventsAt_append, hypothesis, List.flatMap_cons]

theorem eventsAt_eq_nil
    {socket : Socket}
    {writes : List (Socket × Event R)}
    (elsewhere : ∀ write ∈ writes, write.1 ≠ socket) :
    eventsAt socket writes = [] :=
  List.filterMap_eq_nil_iff.2 fun write member => if_neg (elsewhere write member)

/-- What is granted of the writes to one socket, if there is one, goes there. -/
theorem eventsAt_granted_writes
    (socket : Socket)
    (own : Option Socket)
    (events : List (Attempt R (Event R))) :
    eventsAt socket (Attempt.granted (Socket.writes own events)) =
      if own = some socket then Attempt.granted events else [] := by
  cases own with
  | none => rfl
  | some own =>
      rw [Socket.writes, Attempt.granted_map, eventsAt, List.filterMap_map]
      by_cases same : own = socket
      · simp [same]
      · simp [same]

namespace Instrument

/-- The targets of an instrument have sockets of their own. -/
theorem IsSpread.eq_of_socket?_eq
    {instrument : Instrument R}
    (spread : instrument.IsSpread)
    {left right : Target}
    {socket : Socket}
    (ofLeft : instrument.socket? left = some socket)
    (ofRight : instrument.socket? right = some socket) :
    left = right := by
  have node {primitive : Primitive} {parameter : Parameter}
      (found : primitive.socket? parameter = some socket) :
      socket = ⟨primitive.node, parameter⟩ :=
    (Primitive.socket?_eq_some.1 found).2.2
  obtain ⟨first, second, third, -, -, -, -⟩ := spread
  cases left <;> cases right <;>
    first
    | rfl
    | have same := (node ofLeft).symm.trans (node ofRight)
      simp_all

variable [Scalar R]

/-! ## What a move writes -/

/-- What a move writes. -/
def Move.writes (instrument : Instrument R) (stage : Stage R) :
    Move R → List (Socket × Event R)
  | stop =>
      if stage.playing instrument.number then
        Attempt.granted (instrument.fadeWrites (.real stage.nowMs))
      else []
  | write schedule =>
      Attempt.granted (instrument.scheduleWrites schedule (.real stage.nowMs))
  | start | silence | wait _ => []

/-- What moves write, one after another. -/
def trace (instrument : Instrument R) :
    List (Move R) → Stage R → List (Socket × Event R)
  | [], _ => []
  | move :: rest, stage =>
      move.writes instrument stage ++
        instrument.trace rest (move.result instrument stage)

omit [Scalar R] in
theorem filterMap_told
    (primitive : Primitive)
    {command : Node → Command R}
    (writesNothing : ∀ node, (command node).write? = none) :
    (primitive.told command).filterMap Command.write? = [] := by
  unfold Primitive.told
  split <;> simp [writesNothing]

omit [Scalar R] in
theorem filterMap_ofWrite (writes : List (Socket × Event R)) :
    (writes.map Command.ofWrite).filterMap Command.write? = writes := by
  simp [List.filterMap_map]

omit [Scalar R] in
theorem filterMap_modulators
    (entries : List (Target × Primitive))
    {command : Node → Command R}
    (writesNothing : ∀ node, (command node).write? = none) :
    (entries.flatMap fun entry => entry.2.told command).filterMap
      Command.write? = [] := by
  simp [List.filterMap_flatMap, filterMap_told _ writesNothing]

/-- The script of a move writes what the move writes. -/
theorem Move.filterMap_script
    (instrument : Instrument R)
    (stage : Stage R)
    (move : Move R) :
    (move.script instrument stage).filterMap Command.write? =
      move.writes instrument stage := by
  cases move with
  | start =>
      have nothing (node : Node) :
          (Command.start node : Command R).write? = none := rfl
      simp only [script, startScript, List.filterMap_append,
        filterMap_told _ nothing, filterMap_modulators _ nothing, writes,
        List.append_nil]
  | stop =>
      have nothing (time : Option (Value R)) (node : Node) :
          (Command.stop node time).write? = none := rfl
      rw [script, writes]
      split
      · simp only [stopScript, muteScript, List.filterMap_append,
          filterMap_ofWrite, filterMap_told _ (nothing _), List.append_nil]
      · rfl
  | silence =>
      exact filterMap_modulators _ fun _ => rfl
  | write schedule => exact filterMap_ofWrite _
  | wait reading => rfl

omit [Scalar R] in
/-- A granted write is one of those to the sockets of an instrument. -/
theorem exists_of_mem_writes
    {socket : Option Socket}
    {events : List (Attempt R (Event R))}
    {write : Socket × Event R}
    (member : .ok write ∈ Socket.writes socket events) :
    socket = some write.1 ∧ .ok write.2 ∈ events := by
  cases socket with
  | none => cases member
  | some own =>
      obtain ⟨attempt, inside, same⟩ := List.mem_map.1 member
      cases attempt with
      | error failure => cases same
      | ok event =>
          obtain rfl := Except.ok.inj same
          exact ⟨rfl, inside⟩

/-- A move writes to the sockets of its instrument's targets. -/
theorem Move.exists_target_of_mem_writes
    {instrument : Instrument R}
    {stage : Stage R}
    {move : Move R}
    {write : Socket × Event R}
    (member : write ∈ move.writes instrument stage) :
    ∃ target, instrument.socket? target = some write.1 := by
  cases move with
  | stop =>
      rw [writes] at member
      split at member
      · exact ⟨_, (exists_of_mem_writes
          (Attempt.mem_of_mem_granted member)).1⟩
      · cases member
  | write schedule =>
      obtain ⟨entry, -, inside⟩ :=
        List.mem_flatMap.1 (Attempt.mem_of_mem_granted member)
      exact ⟨_, (exists_of_mem_writes inside).1⟩
  | _ => cases member

/-- So do any number of moves. -/
theorem exists_target_of_mem_trace
    {instrument : Instrument R}
    {moves : List (Move R)}
    {stage : Stage R}
    {write : Socket × Event R}
    (member : write ∈ instrument.trace moves stage) :
    ∃ target, instrument.socket? target = some write.1 := by
  induction moves generalizing stage with
  | nil => cases member
  | cons move rest hypothesis =>
      rcases List.mem_append.1 member with first | later
      · exact move.exists_target_of_mem_writes first
      · exact hypothesis later

/-- A schedule that is written as a whole is written to the socket of every target
exactly as its blocks say. -/
theorem map_eventsAt_scheduleWrites
    {instrument : Instrument R}
    (spread : instrument.IsSpread)
    {schedule : Schedule R}
    {now : Value R}
    (all : (instrument.scheduleWrites schedule now).all Except.isOk = true)
    {target : Target}
    {socket : Socket}
    (found : instrument.socket? target = some socket) :
    (eventsAt socket (Attempt.granted
        (instrument.scheduleWrites schedule now))).map .ok =
      (schedule.blocks.get target).flatMap (Block.eventsAfter now) := by
  have own (other : Target) :
      instrument.socket? other = some socket ↔ other = target :=
    ⟨fun same => spread.eq_of_socket?_eq same found, fun same => same ▸ found⟩
  have written : eventsAt socket (Attempt.granted
      (instrument.scheduleWrites schedule now)) = Attempt.granted
        ((schedule.blocks.get target).flatMap (Block.eventsAfter now)) := by
    rw [scheduleWrites, Attempt.granted_flatMap all, eventsAt_flatMap]
    simp only [eventsAt_granted_writes, own]
    cases target <;> simp [PerTarget.entries, Target.all, PerTarget.get]
  rw [written, Attempt.map_granted]
  refine List.all_eq_true.2 fun attempt member => ?_
  have inside : attempt.map (Prod.mk socket) ∈
      instrument.scheduleWrites schedule now := by
    refine List.mem_flatMap.2 ⟨(target, schedule.blocks.get target), ?_, ?_⟩
    · exact List.mem_map_of_mem target.mem_all
    · rw [found]
      exact List.mem_map_of_mem member
  have granted := List.all_eq_true.1 all _ inside
  cases attempt with
  | error failure => exact granted
  | ok event => rfl

/-! ## What becomes of a socket -/

omit [Scalar R] in
/-- An instrument owns a command: it is for one of its nodes. -/
def Owns (instrument : Instrument R) (command : Command R) : Prop :=
  ∃ primitive ∈ instrument.primitives, command.target = primitive.node

omit [Scalar R] in
theorem owns_of_mem_told
    {instrument : Instrument R}
    {primitive : Primitive}
    (known : primitive ∈ instrument.primitives)
    {order : Node → Command R}
    (own : ∀ node, (order node).target = node)
    {command : Command R}
    (member : command ∈ primitive.told order) :
    instrument.Owns command := by
  unfold Primitive.told at member
  split at member
  · obtain rfl := List.mem_singleton.1 member
    exact ⟨primitive, known, own _⟩
  · cases member

omit [Scalar R] in
theorem owns_of_mem_modulators
    {instrument : Instrument R}
    {order : Node → Command R}
    (own : ∀ node, (order node).target = node)
    {command : Command R}
    (member : command ∈
      instrument.modulators.flatMap fun entry => entry.2.told order) :
    instrument.Owns command := by
  obtain ⟨entry, known, ordered⟩ := List.mem_flatMap.1 member
  exact owns_of_mem_told (modulator_mem known) own ordered

/-- What a move writes is commanded of its instrument's nodes. -/
theorem Move.owns_of_mem_writes
    {instrument : Instrument R}
    {stage : Stage R}
    {move : Move R}
    {command : Command R}
    (member : command ∈ (move.writes instrument stage).map .ofWrite) :
    instrument.Owns command := by
  obtain ⟨write, inside, rfl⟩ := List.mem_map.1 member
  obtain ⟨target, found⟩ := exists_target_of_mem_writes inside
  obtain ⟨primitive, known, -, -, node⟩ := exists_of_socket? found
  exact ⟨primitive, known, (Command.target_ofWrite write).trans node⟩

/-- A move gives commands for its instrument's own nodes. -/
theorem Move.owns_of_mem_script
    {instrument : Instrument R}
    {stage : Stage R}
    {move : Move R}
    {command : Command R}
    (member : command ∈ move.script instrument stage) :
    instrument.Owns command := by
  have oscillator := oscillator_mem instrument
  have noise := noise_mem instrument
  cases move with
  | start =>
      rcases List.mem_append.1 member with first | later
      · exact owns_of_mem_told oscillator (fun _ => rfl) first
      rcases List.mem_append.1 later with second | third
      · exact owns_of_mem_told noise (fun _ => rfl) second
      · exact owns_of_mem_modulators (fun _ => rfl) third
  | stop =>
      by_cases playing : stage.playing instrument.number
      · rw [script, if_pos playing] at member
        rcases List.mem_append.1 member with fade | mute
        · have fades : command ∈
              (Move.stop.writes instrument stage).map .ofWrite := by
            rwa [writes, if_pos playing]
          exact owns_of_mem_writes fades
        rcases List.mem_append.1 mute with first | second
        · exact owns_of_mem_told oscillator (fun _ => rfl) first
        · exact owns_of_mem_told noise (fun _ => rfl) second
      · rw [script, if_neg playing] at member
        cases member
  | silence => exact owns_of_mem_modulators (fun _ => rfl) member
  | write schedule =>
      have written : command ∈
          ((Move.write schedule).writes instrument stage).map .ofWrite := member
      exact owns_of_mem_writes written
  | wait reading => cases member

section

variable {instrument : Instrument R} {stage : Stage R}

/-- A move adds to the automation of a socket what it writes to it. -/
theorem events_result
    (holds : ∀ primitive ∈ instrument.primitives, stage.Holds primitive)
    (move : Move R)
    {socket : Socket}
    (has : stage.HasSocket socket) :
    (move.result instrument stage).events socket =
      stage.events socket ++
        eventsAt socket (move.writes instrument stage) := by
  rw [Stage.events, recording?_result, ← move.filterMap_script]
  refine Stage.events_performed has fun command member => ?_
  obtain ⟨primitive, known, node⟩ := move.owns_of_mem_script member
  exact node ▸ (holds primitive known).hasNode

theorem holds_result
    {primitive : Primitive}
    (holds : stage.Holds primitive)
    (move : Move R) :
    (move.result instrument stage).Holds primitive := by
  rw [Stage.Holds, recording?_result]
  exact holds.performed _

theorem hasSocket_result
    {socket : Socket}
    (has : stage.HasSocket socket)
    (move : Move R) :
    (move.result instrument stage).HasSocket socket := by
  rw [Stage.HasSocket, recording?_result]
  exact has.performed _

/-- Moves add to the automation of a socket what they write to it. -/
theorem events_moved
    (holds : ∀ primitive ∈ instrument.primitives, stage.Holds primitive)
    (moves : List (Move R))
    {socket : Socket}
    (has : stage.HasSocket socket) :
    (instrument.moved moves stage).events socket =
      stage.events socket ++
        eventsAt socket (instrument.trace moves stage) := by
  induction moves generalizing stage with
  | nil => simp [trace]
  | cons move rest hypothesis =>
      have continued (primitive : Primitive)
          (member : primitive ∈ instrument.primitives) :
          (move.result instrument stage).Holds primitive :=
        holds_result (holds primitive member) move
      rw [moved_cons, hypothesis continued (hasSocket_result has move),
        events_result holds move has, trace, eventsAt_append, List.append_assoc]

theorem hasSocket_moved
    {socket : Socket}
    (has : stage.HasSocket socket)
    (moves : List (Move R)) :
    (instrument.moved moves stage).HasSocket socket := by
  induction moves generalizing stage with
  | nil => exact has
  | cons move rest hypothesis => exact hypothesis (hasSocket_result has move)

end

end Instrument

/-! ## Ramps -/

/-- A write is no ramp to zero. -/
def Event.IsAudible [Scalar R] : Event R → Prop
  | .set _ _ => True
  | .ramp value _ => value.same (.int 0) = false

/-- No ramp to zero was written to any socket of a stage. -/
def Stage.IsAudible [Scalar R] (stage : Stage R) : Prop :=
  ∀ socket : Socket, ∀ event ∈ stage.events socket, event.IsAudible

/-- What is on a stage after a command was there before, or was written by it. -/
theorem Stage.mem_events_performed_one
    {stage : Stage R}
    {command : Command R}
    {socket : Socket}
    {event : Event R}
    (member : event ∈ (stage.performed [command]).events socket) :
    event ∈ stage.events socket ∨
      ∃ written, command.write? = some (written, event) := by
  rw [events, recording?_performed] at member
  cases found : stage.recording? socket.node with
  | none => simp [found] at member
  | some recording =>
      by_cases concerned : command.concerns socket.node
      · cases present : recording.lane? socket.parameter with
        | none => simp [found, concerned, Command.lane?_record, present] at member
        | some lane =>
            cases write : command.write? with
            | none =>
                simp [found, concerned, Command.lane?_record, present, write]
                  at member
                exact .inl (by simpa [events, found, present] using member)
            | some written =>
                simp only [found, concerned, Command.lane?_record, present,
                  write, List.filter_cons, if_true, List.filter_nil,
                  List.foldl_cons, List.foldl_nil, Option.map_some,
                  Option.bind_some] at member
                split at member
                · rw [Lane.events_write, List.mem_append,
                    List.mem_singleton] at member
                  rcases member with earlier | rfl
                  · exact .inl (by simpa [events, found, present] using earlier)
                  · exact .inr ⟨written.1, rfl⟩
                · exact .inl (by simpa [events, found, present] using member)
      · simp [found, concerned] at member
        exact .inl (by simpa [events, found] using member)

theorem Stage.IsAudible.performed
    [Scalar R]
    {stage : Stage R}
    (audible : stage.IsAudible)
    {script : List (Command R)}
    (writes : ∀ write ∈ script.filterMap Command.write?, write.2.IsAudible) :
    (stage.performed script).IsAudible := by
  induction script generalizing stage with
  | nil => simpa
  | cons command rest hypothesis =>
      have first : (stage.performed [command]).IsAudible := by
        intro socket event member
        rcases mem_events_performed_one member with earlier | ⟨written, same⟩
        · exact audible socket event earlier
        · exact writes (written, event)
            (List.mem_filterMap.2 ⟨command, List.mem_cons_self, same⟩)
      have continued := hypothesis first fun write member => by
        obtain ⟨later, inside, same⟩ := List.mem_filterMap.1 member
        exact writes write (List.mem_filterMap.2
          ⟨later, List.mem_cons_of_mem _ inside, same⟩)
      rwa [performed_performed] at continued

namespace Instrument

/-- Ramps never reach zero. -/
theorem same_rampValue (value : Value Float) :
    (rampValue value).same (.int 0) = false := by
  unfold rampValue
  split
  next => decide +kernel
  next different => exact Bool.eq_false_iff.2 different

theorem isAudible_of_rampAfter
    {segment : Segment Float}
    {now : Value Float}
    {event : Event Float}
    (written : segment.rampAfter now = .ok event) :
    event.IsAudible := by
  simp only [Segment.rampAfter, Attempt.bind_eq_ok] at written
  obtain ⟨_, -, _, -, same⟩ := written
  obtain rfl := Except.ok.inj same
  exact same_rampValue _

theorem isAudible_of_eventsAfter
    {block : Block Float}
    {now : Value Float}
    {event : Event Float}
    (member : .ok event ∈ Block.eventsAfter now block) :
    event.IsAudible := by
  cases block with
  | nil => cases member
  | cons first rest =>
      rcases List.mem_cons.1 member with same | later
      · simp only [Segment.setAfter] at same
        obtain ⟨_, -, same⟩ := Attempt.bind_eq_ok.1 same.symm
        obtain rfl := Except.ok.inj same
        trivial
      · obtain ⟨segment, -, written⟩ := List.mem_map.1 later
        exact isAudible_of_rampAfter written

/-- No move writes a ramp to zero. -/
theorem Move.isAudible_of_mem_writes
    {instrument : Instrument Float}
    {stage : Stage Float}
    {move : Move Float}
    {write : Socket × Event Float}
    (member : write ∈ move.writes instrument stage) :
    write.2.IsAudible := by
  cases move with
  | stop =>
      rw [writes] at member
      split at member
      · have inside := (exists_of_mem_writes
          (Attempt.mem_of_mem_granted member)).2
        exact isAudible_of_rampAfter (List.mem_singleton.1 inside).symm
      · cases member
  | write schedule =>
      obtain ⟨entry, -, inside⟩ :=
        List.mem_flatMap.1 (Attempt.mem_of_mem_granted member)
      obtain ⟨block, -, written⟩ :=
        List.mem_flatMap.1 (exists_of_mem_writes inside).2
      exact isAudible_of_eventsAfter written
  | _ => cases member

theorem isAudible_moved
    {instrument : Instrument Float}
    {stage : Stage Float}
    (audible : stage.IsAudible)
    (moves : List (Move Float)) :
    (instrument.moved moves stage).IsAudible := by
  induction moves generalizing stage with
  | nil => exact audible
  | cons move rest hypothesis =>
      refine hypothesis fun socket event member => ?_
      rw [Stage.events, recording?_result] at member
      refine audible.performed ?_ socket event member
      rw [move.filterMap_script]
      exact fun write inside => move.isAudible_of_mem_writes inside

end Instrument
end MelodyAutomation

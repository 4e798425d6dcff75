import MelodyAutomation.Proofs.Instrument.Locality

/-!
# Scripts

A script is a list of commands. On a tape it is carried out without a refusal, and
what becomes of a node is decided by the commands for the node alone: its ledger,
which counts how often it was started and stopped, takes an entry for each of them,
and the automation of a socket goes on with what they write to it.
-/

namespace MelodyAutomation

variable {R : Type}

/-! ## Ledgers -/

/-- What counts of a node: whether it is active, whether it was last started or
stopped, and how often either was done. -/
structure Ledger where
  active : Bool
  started : Bool
  starts : Nat
  stops : Nat
  deriving DecidableEq, Repr

/-- The ledger of a node for which no command was given. -/
def Ledger.fresh (active : Bool) : Ledger := ⟨active, false, 0, 0⟩

/-- Enter a command for the node of a ledger. -/
def Ledger.enter (ledger : Ledger) : Command R → Ledger
  | .start _ => { ledger with started := true, starts := ledger.starts + 1 }
  | .stop _ _ => { ledger with started := false, stops := ledger.stops + 1 }
  | _ => ledger

/-- The ledger that a recording keeps. -/
def Recording.ledger (recording : Recording R) : Ledger where
  active := recording.active
  started := recording.started
  starts := recording.startCount
  stops := recording.stopTimes.length

@[simp] theorem Recording.ledger_record
    (recording : Recording R)
    (command : Command R) :
    (command.record recording).ledger = recording.ledger.enter command := by
  have write (event : Event R) (parameter : Parameter) :
      (recording.write event parameter).ledger = recording.ledger := by
    cases parameter <;> rfl
  cases command with
  | stop node time => simp [Command.record, stop, ledger, Ledger.enter]
  | set socket value time => exact write _ _
  | ramp socket value time => exact write _ _
  | _ => rfl

/-! ## Writes -/

namespace Command

/-- Whether a command changes what is recorded in the place of a node. -/
def concerns (node : Node) (command : Command R) : Bool :=
  command.target.slot? = node.slot?

/-- What a command writes, and the socket it writes it to. -/
def write? : Command R → Option (Socket × Event R)
  | set socket value time => some (socket, .set value time)
  | ramp socket value time => some (socket, .ramp value time)
  | _ => none

/-- A command changes a lane only by what it writes to it. -/
theorem lane?_record
    (command : Command R)
    (recording : Recording R)
    (parameter : Parameter) :
    (command.record recording).lane? parameter =
      (recording.lane? parameter).map fun lane =>
        match command.write? with
        | some (socket, event) =>
            if socket.parameter = parameter then lane.write event else lane
        | none => lane := by
  have write (event : Event R) (written : Parameter) :
      (recording.write event written).lane? parameter =
        (recording.lane? parameter).map fun lane =>
          if written = parameter then lane.write event else lane := by
    rw [Recording.lane?_write]
    by_cases same : parameter = written
    · simp [same]
    · simp [same, Ne.symm same]
  cases command with
  | set socket value time => exact write _ _
  | ramp socket value time => exact write _ _
  | _ => cases parameter <;> simp [record, write?, Recording.start,
      Recording.stop, Recording.connect, Recording.lane?]

theorem node_of_write?
    {command : Command R}
    {socket : Socket}
    {event : Event R}
    (written : command.write? = some (socket, event)) :
    socket.node = command.target := by
  cases command <;> simp_all [write?, target]

end Command

/-- What goes to a socket of all that is written. -/
def eventsAt (socket : Socket) (writes : List (Socket × Event R)) :
    List (Event R) :=
  writes.filterMap fun write => if write.1 = socket then some write.2 else none

@[simp] theorem eventsAt_nil (socket : Socket) :
    eventsAt socket ([] : List (Socket × Event R)) = [] := rfl

@[simp] theorem eventsAt_append
    (socket : Socket)
    (first second : List (Socket × Event R)) :
    eventsAt socket (first ++ second) =
      eventsAt socket first ++ eventsAt socket second :=
  List.filterMap_append

namespace Stage

/-! ## Scripts on a tape -/

/-- Carry out a script. -/
def performAll [Scalar R] (script : List (Command R)) :
    Session (Stage R) R Unit :=
  script.forM perform

/-- A stage on whose tape a script was carried out. -/
def performed (stage : Stage R) (script : List (Command R)) : Stage R :=
  match stage.engine with
  | .tape tape =>
      { stage with engine := .tape (script.foldl Tape.perform tape) }
  | .link _ => stage

theorem performed_of_tape
    {stage : Stage R}
    {tape : Tape R}
    (onTape : stage.engine = .tape tape)
    (script : List (Command R)) :
    stage.performed script =
      { stage with engine := .tape (script.foldl Tape.perform tape) } := by
  simp [performed, onTape]

section

variable (stage : Stage R) (script : List (Command R))

@[simp] theorem performed_nil : stage.performed [] = stage := by
  obtain ⟨clock, timebase, realtime, engine, built, playing⟩ := stage
  cases engine <;> rfl

@[simp] theorem performed_performed (more : List (Command R)) :
    (stage.performed script).performed more =
      stage.performed (script ++ more) := by
  obtain ⟨clock, timebase, realtime, engine, built, playing⟩ := stage
  cases engine <;> simp [performed]

@[simp] theorem clock_performed :
    (stage.performed script).clock = stage.clock := by
  unfold performed
  split <;> rfl

@[simp] theorem timebase_performed :
    (stage.performed script).timebase = stage.timebase := by
  unfold performed
  split <;> rfl

@[simp] theorem realtime_performed :
    (stage.performed script).realtime = stage.realtime := by
  unfold performed
  split <;> rfl

@[simp] theorem playing_performed :
    (stage.performed script).playing = stage.playing := by
  unfold performed
  split <;> rfl

@[simp] theorem built_performed :
    (stage.performed script).built = stage.built := by
  unfold performed
  split <;> rfl

@[simp] theorem slots_performed :
    (stage.performed script).slots = stage.slots := by
  obtain ⟨clock, timebase, realtime, engine, built, playing⟩ := stage
  cases engine with
  | link own => rfl
  | tape tape =>
      simp only [performed, slots]
      induction script generalizing tape with
      | nil => rfl
      | cons command rest hypothesis => simp [hypothesis]

variable {stage} in
theorem OnTape.performed (onTape : stage.OnTape) :
    (stage.performed script).OnTape := by
  obtain ⟨tape, onTape⟩ := onTape
  exact ⟨_, by rw [performed_of_tape onTape]⟩

/-- A node's record after a script: every command for it is recorded in order. -/
theorem recording?_performed (node : Node) :
    (stage.performed script).recording? node =
      (stage.recording? node).map fun recording =>
        (script.filter (Command.concerns node)).foldl
          (fun recorded command => command.record recorded) recording := by
  obtain ⟨clock, timebase, realtime, engine, built, playing⟩ := stage
  cases engine with
  | link own => rfl
  | tape tape =>
      simp only [performed, recording?]
      induction script generalizing tape with
      | nil => simp
      | cons command rest hypothesis =>
          rw [List.foldl_cons, hypothesis, Tape.recording?_perform]
          by_cases concerned : command.target.slot? = node.slot?
          · cases tape.recording? node <;> simp [Command.concerns, concerned]
          · simp [Command.concerns, concerned]

end

/-- The ledger of a node. -/
def ledger? (stage : Stage R) (node : Node) : Option Ledger :=
  (stage.recording? node).map Recording.ledger

theorem ledger?_performed
    (stage : Stage R)
    (script : List (Command R))
    (node : Node) :
    (stage.performed script).ledger? node =
      (stage.ledger? node).map fun ledger =>
        (script.filter (Command.concerns node)).foldl Ledger.enter ledger := by
  have entered (commands : List (Command R)) (recording : Recording R) :
      (commands.foldl (fun recorded command => command.record recorded)
        recording).ledger =
          commands.foldl Ledger.enter recording.ledger := by
    induction commands generalizing recording with
    | nil => rfl
    | cons command rest hypothesis => simp [hypothesis]
  rw [ledger?, recording?_performed, ledger?, Option.map_map, Option.map_map]
  exact congrArg (Option.map · _) (funext fun recording => entered _ recording)

/-! ## Automation -/

/-- What was written to a socket so far. -/
def events (stage : Stage R) (socket : Socket) : List (Event R) :=
  match (stage.recording? socket.node).bind
      fun recording => recording.lane? socket.parameter with
  | some lane => lane.events
  | none => []

/-- A node is recorded on a stage. -/
def HasNode (stage : Stage R) (node : Node) : Prop :=
  ∃ recording, stage.recording? node = some recording ∧ recording.node = node

/-- A stage has a socket: its node is recorded with a lane for the parameter. -/
def HasSocket (stage : Stage R) (socket : Socket) : Prop :=
  ∃ recording lane, stage.recording? socket.node = some recording ∧
    recording.node = socket.node ∧
    recording.lane? socket.parameter = some lane

/-- Two nodes that are recorded in one place are one. -/
theorem HasNode.eq_of_slot_eq
    {stage : Stage R}
    {left right : Node}
    (hasLeft : stage.HasNode left)
    (hasRight : stage.HasNode right)
    (same : left.slot? = right.slot?) :
    left = right := by
  have found : stage.recording? left = stage.recording? right := by
    cases left <;> cases right <;> simp_all [Node.slot?, recording?,
      Tape.recording?]
  obtain ⟨recording, foundLeft, rfl⟩ := hasLeft
  obtain ⟨other, foundRight, rfl⟩ := hasRight
  rw [foundLeft, foundRight] at found
  rw [Option.some.inj found]

/-- A stage holds a primitive: its node is recorded, and is what an instrument knows
as the primitive. -/
def Holds (stage : Stage R) (primitive : Primitive) : Prop :=
  ∃ recording, stage.recording? primitive.node = some recording ∧
    recording.primitive = primitive

theorem Holds.hasNode
    {stage : Stage R}
    {primitive : Primitive}
    (holds : stage.Holds primitive) :
    stage.HasNode primitive.node := by
  obtain ⟨recording, found, rfl⟩ := holds
  exact ⟨recording, found, rfl⟩

/-- What a primitive that is held has, the stage has too. -/
theorem Holds.hasSocket
    {stage : Stage R}
    {primitive : Primitive}
    (holds : stage.Holds primitive)
    {parameter : Parameter}
    (present : primitive.has parameter = true) :
    stage.HasSocket ⟨primitive.node, parameter⟩ := by
  obtain ⟨recording, found, rfl⟩ := holds
  rw [recording.has_primitive] at present
  obtain ⟨lane, written⟩ := Option.isSome_iff_exists.1 present
  exact ⟨recording, lane, found, rfl, written⟩

theorem Holds.performed
    {stage : Stage R}
    {primitive : Primitive}
    (holds : stage.Holds primitive)
    (script : List (Command R)) :
    (stage.performed script).Holds primitive := by
  obtain ⟨recording, found, rfl⟩ := holds
  have same (commands : List (Command R)) (recorded : Recording R) :
      (commands.foldl (fun recorded command => command.record recorded)
        recorded).primitive = recorded.primitive := by
    induction commands generalizing recorded with
    | nil => rfl
    | cons command rest hypothesis => simp [hypothesis]
  exact ⟨_, by rw [recording?_performed, found]; rfl, same _ _⟩

theorem HasNode.performed
    {stage : Stage R}
    {node : Node}
    (has : stage.HasNode node)
    (script : List (Command R)) :
    (stage.performed script).HasNode node := by
  obtain ⟨recording, found, rfl⟩ := has
  exact (Holds.performed ⟨recording, found, rfl⟩ script).hasNode

theorem HasSocket.performed_one
    {stage : Stage R}
    {socket : Socket}
    (has : stage.HasSocket socket)
    (command : Command R) :
    (stage.performed [command]).HasSocket socket := by
  obtain ⟨recording, lane, found, node, present⟩ := has
  rw [HasSocket, recording?_performed, found]
  by_cases concerned : command.concerns socket.node
  · exact ⟨command.record recording, _, by simp [concerned], by simpa,
      by rw [Command.lane?_record, present]; rfl⟩
  · exact ⟨recording, lane, by simp [concerned], node, present⟩

theorem HasSocket.performed
    {stage : Stage R}
    {socket : Socket}
    (has : stage.HasSocket socket)
    (script : List (Command R)) :
    (stage.performed script).HasSocket socket := by
  induction script generalizing stage with
  | nil => simpa
  | cons command rest hypothesis =>
      have continued := hypothesis (has.performed_one command)
      rwa [performed_performed] at continued

/-- A command for a recorded node adds what it writes to the socket it writes to. -/
theorem events_performed_one
    {stage : Stage R}
    {socket : Socket}
    (has : stage.HasSocket socket)
    {command : Command R}
    (recorded : stage.HasNode command.target) :
    (stage.performed [command]).events socket =
      stage.events socket ++ eventsAt socket command.write?.toList := by
  obtain ⟨recording, lane, found, node, present⟩ := has
  have before : stage.events socket = lane.events := by
    simp [events, found, present]
  rw [before, events, recording?_performed, found]
  -- A command for another node leaves the recording of this one alone.
  by_cases concerned : command.target.slot? = socket.node.slot?
  · have target := recorded.eq_of_slot_eq ⟨recording, found, node⟩ concerned
    simp only [List.filter_cons, Command.concerns, concerned, decide_true,
      if_true, List.filter_nil, List.foldl_cons, List.foldl_nil,
      Option.map_some, Option.bind_some, Command.lane?_record, present]
    cases written : command.write? with
    | none => simp
    | some write =>
        obtain ⟨other, event⟩ := write
        have same : other = socket ↔ other.parameter = socket.parameter := by
          have node := (Command.node_of_write? written).trans target
          cases other
          cases socket
          simp_all
        by_cases parameter : other.parameter = socket.parameter <;>
          simp [eventsAt, same, parameter]
  · have elsewhere (write : Socket × Event R)
        (written : command.write? = some write) : write.1 ≠ socket := by
      rintro rfl
      exact concerned (congrArg Node.slot? (Command.node_of_write? written)).symm
    cases written : command.write? with
    | none => simp [Command.concerns, concerned, present]
    | some write =>
        simp [Command.concerns, concerned, present, eventsAt,
          elsewhere write written]

/-- The automation of a socket after a script for recorded nodes. -/
theorem events_performed
    {stage : Stage R}
    {socket : Socket}
    (has : stage.HasSocket socket)
    {script : List (Command R)}
    (recorded : ∀ command ∈ script, stage.HasNode command.target) :
    (stage.performed script).events socket =
      stage.events socket ++
        eventsAt socket (script.filterMap Command.write?) := by
  induction script generalizing stage with
  | nil => simp
  | cons command rest hypothesis =>
      have continued := hypothesis (has.performed_one command)
        fun later member =>
          (recorded later (List.mem_cons_of_mem _ member)).performed _
      rw [performed_performed,
        events_performed_one has (recorded command List.mem_cons_self)]
        at continued
      rw [List.append_assoc, ← eventsAt_append] at continued
      simpa only [List.filterMap_cons, List.singleton_append, Option.toList]
        using continued.trans (by cases command.write? <;> rfl)

/-! ## Sessions that follow a script -/

variable [Scalar R]

/-- A script is carried out on a tape without a refusal. -/
theorem reaches_performAll
    {stage : Stage R}
    (onTape : stage.OnTape)
    (script : List (Command R)) :
    (performAll script).Reaches stage () (stage.performed script) := by
  induction script generalizing stage with
  | nil => simp [performAll]
  | cons command rest hypothesis =>
      have first : (perform command).Reaches stage ()
          (stage.performed [command]) := by
        obtain ⟨tape, engine⟩ := onTape
        have ran := run_perform engine command
        exact ⟨by rw [ran]; rfl, by rw [ran, performed_of_tape engine]; rfl⟩
      have continued := hypothesis (onTape.performed [command])
      rw [performed_performed] at continued
      exact Session.reaches_bind.2 ⟨(), _, first, continued⟩

end Stage
end MelodyAutomation

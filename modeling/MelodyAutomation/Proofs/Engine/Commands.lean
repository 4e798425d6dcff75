import MelodyAutomation.Proofs.Engine.Image

/-!
# Commands on a tape and on a link

A command is for one node and goes to one channel of it. Its message and what it
does to the recording of the node say the same, so a command that is understood
keeps a link the image of a tape.
-/

namespace MelodyAutomation

variable {R : Type} [Scalar R]

/-! ## Commands -/

namespace Command

omit [Scalar R] in
/-- The node that a command is for. -/
def target : Command R → Node
  | start node => node
  | stop node _ => node
  | connect node _ => node
  | set socket _ _ => socket.node
  | ramp socket _ _ => socket.node

omit [Scalar R] in
/-- The channel that a command goes to. -/
def channel : Command R → Channel
  | start _ => .start
  | stop _ _ => .stop
  | connect _ _ => .connect
  | set socket _ _ => .write socket.parameter
  | ramp socket _ _ => .write socket.parameter

omit [Scalar R] in
/-- What a command does to the recording of its node. -/
def record (command : Command R) (recording : Recording R) : Recording R :=
  match command with
  | start _ => recording.start
  | stop _ time => recording.stop time
  | connect _ inlet => recording.connect inlet
  | set socket value time => recording.write (.set value time) socket.parameter
  | ramp socket value time =>
      recording.write (.ramp value time) socket.parameter

end Command

omit [Scalar R] in
theorem Tape.perform_eq_change (tape : Tape R) (command : Command R) :
    tape.perform command = tape.change command.target command.record := by
  cases command <;> rfl

omit [Scalar R] in
/-- A tape holds a primitive: some node is recorded that an instrument knows as
it. -/
def Tape.Holds (tape : Tape R) (primitive : Primitive) : Prop :=
  ∃ (number : Nat) (recording : Recording R),
    tape.recordings[number]? = some recording ∧
      recording.primitive = primitive

/-- The message of a command goes to its channel of its node. -/
theorem Command.exists_tail_of_message
    {base address : String}
    {arguments : List (Value R)}
    {command : Command R}
    (understood : Link.message base command = .ok (address, arguments)) :
    ∃ tail ∈ command.channel.tails,
      address = route base (command.target.parts ++ tail) := by
  have listed : address ∈
      command.channel.addresses (command.target.address base) := by
    cases command with
    | start node =>
        simp_all [Link.message, channel, target, Channel.addresses]
    | stop node time =>
        cases time with
        | none => simp_all [Link.message, channel, target, Channel.addresses]
        | some moment =>
            obtain ⟨_, _, same⟩ := Attempt.bind_eq_ok.1 understood
            simp_all [channel, target, Channel.addresses]
    | connect node inlet =>
        simp_all [Link.message, channel, target, Channel.addresses]
    | set socket value time =>
        obtain ⟨_, _, same⟩ := Attempt.bind_eq_ok.1 understood
        simp_all [channel, target, Channel.addresses, Socket.address]
    | ramp socket value time =>
        obtain ⟨_, _, same⟩ := Attempt.bind_eq_ok.1 understood
        simp_all [channel, target, Channel.addresses, Socket.address]
  rw [Channel.addresses_eq, List.mem_map] at listed
  obtain ⟨tail, member, rfl⟩ := listed
  exact ⟨tail, member, rfl⟩

/-- The message of a command is the next one on its channel of its node, and on no
other one. -/
theorem Link.sentTo_understood
    {base address : String}
    {arguments : List (Value R)}
    {command : Command R}
    (understood : Link.message base command = .ok (address, arguments))
    (link : Link R)
    (node : Node)
    (channel : Channel) :
    (link.delivered address arguments).sentTo
        (channel.addresses (node.address base)) =
      link.sentTo (channel.addresses (node.address base)) ++
        if command.target = node ∧ channel = command.channel then
          [(address, arguments)]
        else [] := by
  obtain ⟨tail, inTails, rfl⟩ := Command.exists_tail_of_message understood
  have ours : tail ∈ channel.tails ↔ channel = command.channel :=
    ⟨fun member => Channel.eq_of_mem_tails member inTails,
      fun same => same ▸ inTails⟩
  simp only [Link.sentTo_delivered,
    route_mem_addresses (Channel.isPart_of_mem_tails inTails), ours]

omit [Scalar R] in
/-- A command is for a primitive: for its node, and if it writes to a parameter, the
primitive has it. -/
structure Command.IsFor (command : Command R) (primitive : Primitive) : Prop where
  target_eq : command.target = primitive.node
  has_written : ∀ parameter, command.channel = .write parameter →
    primitive.has parameter = true

/-- An inlet belongs to the destination or to an active one of some primitives,
which has the parameter if it is a socket. -/
def Inlet.Within (known : List Primitive) : Inlet → Prop
  | .node .destination => True
  | .node target =>
      ∃ primitive ∈ known, primitive.active = true ∧ target = primitive.node
  | .socket target =>
      ∃ primitive ∈ known, primitive.active = true ∧
        primitive.has target.parameter = true ∧ target.node = primitive.node

namespace Recording

omit [Scalar R] in
@[simp] theorem lane?_write
    (recording : Recording R)
    (event : Event R)
    (written parameter : Parameter) :
    (recording.write event written).lane? parameter =
      if parameter = written then
        (recording.lane? parameter).map fun lane => lane.write event
      else recording.lane? parameter := by
  cases written <;> cases parameter <;> simp [write, lane?]

omit [Scalar R] in
@[simp] theorem node_write
    (recording : Recording R)
    (event : Event R)
    (written : Parameter) :
    (recording.write event written).node = recording.node := by
  cases written <;> rfl

omit [Scalar R] in
@[simp] theorem active_write
    (recording : Recording R)
    (event : Event R)
    (written : Parameter) :
    (recording.write event written).active = recording.active := by
  cases written <;> rfl

omit [Scalar R] in
@[simp] theorem node_record (recording : Recording R) (command : Command R) :
    (command.record recording).node = recording.node := by
  cases command <;> simp [Command.record, start, stop, connect]

omit [Scalar R] in
@[simp] theorem active_record (recording : Recording R) (command : Command R) :
    (command.record recording).active = recording.active := by
  cases command <;> simp [Command.record, start, stop, connect]

omit [Scalar R] in
theorem has_primitive (recording : Recording R) (parameter : Parameter) :
    recording.primitive.has parameter =
      (recording.lane? parameter).isSome := by
  cases parameter <;> rfl

omit [Scalar R] in
/-- What an instrument knows of a node does not change. -/
@[simp] theorem primitive_record
    (recording : Recording R)
    (command : Command R) :
    (command.record recording).primitive = recording.primitive := by
  have write (event : Event R) (parameter : Parameter) :
      (recording.write event parameter).primitive = recording.primitive := by
    cases parameter <;> simp [Recording.write, primitive]
  cases command with
  | set socket value time => exact write _ _
  | ramp socket value time => exact write _ _
  | _ => rfl

theorem messages_start
    (recording : Recording R)
    (base : String)
    (channel : Channel) :
    recording.start.messages base channel =
      recording.messages base channel ++
        if channel = .start then
          [.ok (recording.node.address base ++ "/start", [])]
        else [] := by
  cases channel with
  | start => exact List.replicate_succ'
  | _ => exact (List.append_nil _).symm

theorem messages_stop
    (recording : Recording R)
    (time : Option (Value R))
    (base : String)
    (channel : Channel) :
    (recording.stop time).messages base channel =
      recording.messages base channel ++
        if channel = .stop then
          [stopMessage (recording.node.address base) time]
        else [] := by
  cases channel with
  | stop => exact List.map_append
  | _ => exact (List.append_nil _).symm

theorem messages_connect
    (recording : Recording R)
    (inlet : Inlet)
    (base : String)
    (channel : Channel) :
    (recording.connect inlet).messages base channel =
      recording.messages base channel ++
        if channel = .connect then
          [.ok (recording.node.address base ++ "/connect",
            [.text (inlet.address base)])]
        else [] := by
  cases channel with
  | connect => exact List.map_append
  | _ => exact (List.append_nil _).symm

theorem messages_write
    {recording : Recording R}
    {written : Parameter}
    (present : (recording.lane? written).isSome)
    (event : Event R)
    (base : String)
    (channel : Channel) :
    (recording.write event written).messages base channel =
      recording.messages base channel ++
        if channel = .write written then
          [event.message (Socket.address base ⟨recording.node, written⟩)]
        else [] := by
  cases channel with
  | write parameter =>
      by_cases same : parameter = written
      · subst same
        obtain ⟨lane, found⟩ := Option.isSome_iff_exists.1 present
        simp [messages, found]
      · simp [messages, same]
  | _ => cases written <;> exact (List.append_nil _).symm

end Recording

namespace Link

theorem message_stop (base : String) (node : Node) (time : Option (Value R)) :
    message base (.stop node time) = stopMessage (node.address base) time := by
  cases time with
  | none => rfl
  | some moment =>
      simp only [message, stopMessage, seconds]
      cases moment.div (.int 1000) <;> rfl

theorem message_set (base : String) (socket : Socket) (value time : Value R) :
    message base (.set socket value time) =
      (Event.set value time).message (socket.address base) := by
  simp only [message, writeArguments, Event.message, Event.value, Event.time,
    seconds]
  cases value.toScalar with
  | error failure => rfl
  | ok level => cases time.div (.int 1000) with
    | error failure => rfl
    | ok moment => simp [Event.name, ← appended_part]

theorem message_ramp (base : String) (socket : Socket) (value time : Value R) :
    message base (.ramp socket value time) =
      (Event.ramp value time).message (socket.address base) := by
  simp only [message, writeArguments, Event.message, Event.value, Event.time,
    seconds]
  cases value.toScalar with
  | error failure => rfl
  | ok level => cases time.div (.int 1000) with
    | error failure => rfl
    | ok moment => simp [Event.name, ← appended_part]

end Link

/-- A command that can be sent over a link that delivers everything. -/
theorem Link.run_perform
    {link : Link R}
    (reachable : link.outage = fun _ => none)
    {command : Command R}
    {address : String}
    {arguments : List (Value R)}
    (understood : message link.base command = .ok (address, arguments)) :
    (perform command).run link =
      (.succeed (), link.delivered address arguments) := by
  have looked : (get : Session (Link R) R (Link R)).run link =
      (⟨.ok link, []⟩, link) := rfl
  have answered : (liftM (message link.base command) :
      Session (Link R) R (Message R)).run link =
        (⟨.ok (address, arguments), []⟩, link) := by
    rw [understood]
    rfl
  rw [perform, Session.run_bind_of_ok looked, Session.run_bind_of_ok answered,
    run_send reachable]
  simp

/-- A command adds its own message to its channel of a recording. -/
theorem Recording.messages_record
    {recording : Recording R}
    {command : Command R}
    (own : command.IsFor recording.primitive)
    (base : String)
    (channel : Channel) :
    (command.record recording).messages base channel =
      recording.messages base channel ++
        if channel = command.channel then [Link.message base command]
        else [] := by
  have node : recording.node = command.target := own.target_eq.symm
  have written (parameter : Parameter)
      (same : command.channel = .write parameter) :
      (recording.lane? parameter).isSome = true :=
    recording.has_primitive parameter ▸ own.has_written parameter same
  cases command with
  | start target =>
      rw [Command.record, messages_start, node]
      rfl
  | stop target time =>
      rw [Command.record, messages_stop, node, Link.message_stop]
      rfl
  | connect target inlet =>
      rw [Command.record, messages_connect, node]
      rfl
  | set socket value time =>
      rw [Command.record, messages_write (written _ rfl), node,
        Link.message_set]
      rfl
  | ramp socket value time =>
      rw [Command.record, messages_write (written _ rfl), node,
        Link.message_ramp]
      rfl

/-! ## Steps -/

omit [Scalar R] in
theorem Tape.Holds.perform
    {tape : Tape R}
    {primitive : Primitive}
    (holds : tape.Holds primitive)
    (command : Command R) :
    (tape.perform command).Holds primitive := by
  obtain ⟨number, recording, found, rfl⟩ := holds
  rw [Tape.perform_eq_change]
  cases command.target with
  | destination => exact ⟨number, recording, found, rfl⟩
  | created kind other =>
      refine ⟨number,
        if other = number then command.record recording else recording, ?_, ?_⟩
      · simp [Tape.change, List.getElem?_modify, found]
      · split <;> simp

namespace Image

variable {base : String} {tape : Tape R} {link : Link R}

/-- A recorded node is found at its number. -/
theorem number_eq
    (image : Image base tape link)
    {number other : Nat}
    {recording : Recording R}
    {kind : PrimitiveKind}
    (found : tape.recordings[number]? = some recording)
    (node : recording.node = .created kind other) :
    other = number := by
  obtain ⟨ownKind, own⟩ := image.numbered number recording found
  rw [own] at node
  exact (Node.created.inj node).2.symm

/-- Two recordings of one node are one. -/
theorem number_eq_of_node_eq
    (image : Image base tape link)
    {number other : Nat}
    {left right : Recording R}
    (leftFound : tape.recordings[number]? = some left)
    (rightFound : tape.recordings[other]? = some right)
    (same : left.node = right.node) :
    number = other := by
  obtain ⟨kind, own⟩ := image.numbered number left leftFound
  rw [same] at own
  exact image.number_eq rightFound own

/-- A message to a recorded, active node mentions no other one. -/
theorem active_of_mentions_delivered
    (image : Image base tape link)
    {tail : List String}
    {number : Nat}
    {recording : Recording R}
    (found : tape.recordings[number]? = some recording)
    (active : recording.active = true)
    (slashless : ∀ part ∈ tail, IsPart part)
    {arguments : List (Value R)}
    {kind : PrimitiveKind}
    {other : Nat}
    (mentioned : (link.delivered (route base (recording.node.parts ++ tail))
      arguments).Mentions (Node.address base (.created kind other))) :
    ∃ before, tape.recordings[other]? = some before ∧
      before.node = .created kind other ∧ before.active = true := by
  rcases Link.mentions_delivered.1 mentioned with earlier | ⟨below, same⟩
  · exact image.active_of_mentions kind other earlier
  · have node := eq_of_route_below slashless same
    obtain rfl := image.number_eq found node
    exact ⟨recording, found, node, active⟩

/-- A command for a recorded, active node adds its message to the link and the same
to the tape. -/
theorem perform
    (image : Image base tape link)
    {primitive : Primitive}
    (holds : tape.Holds primitive)
    (active : primitive.active = true)
    {command : Command R}
    (own : command.IsFor primitive)
    {address : String}
    {arguments : List (Value R)}
    (understood : Link.message base command = .ok (address, arguments)) :
    Image base (tape.perform command) (link.delivered address arguments) := by
  obtain ⟨number, recording, found, rfl⟩ := holds
  obtain ⟨kind, node⟩ := image.numbered number recording found
  have ours : command.target = recording.node := own.target_eq
  have target := ours.trans node
  have recordings : (tape.perform command).recordings =
      tape.recordings.modify number command.record := by
    rw [Tape.perform_eq_change, target]
    rfl
  -- The command changes one recording; its message concerns the same node.
  refine ⟨image.base_eq, image.reachable, ?_, ?_, ?_, ?_⟩
  · rw [recordings, List.length_modify]
    exact image.issued_eq
  · intro other changed foundChanged
    rw [recordings, List.getElem?_modify] at foundChanged
    obtain ⟨before, foundBefore, rfl⟩ := Option.map_eq_some_iff.1 foundChanged
    obtain ⟨otherKind, otherNode⟩ := image.numbered other before foundBefore
    refine ⟨otherKind, ?_⟩
    split <;> simp [otherNode]
  · intro other changed foundChanged channel
    rw [recordings, List.getElem?_modify] at foundChanged
    obtain ⟨before, foundBefore, rfl⟩ := Option.map_eq_some_iff.1 foundChanged
    have heard := image.messages_eq other before foundBefore channel
    rw [Link.sentTo_understood understood]
    by_cases same : number = other
    · subst same
      obtain rfl : recording = before :=
        Option.some.inj (found.symm.trans foundBefore)
      rw [if_pos rfl, Recording.node_record,
        Recording.messages_record own, List.map_append, heard]
      by_cases same : channel = command.channel
      · simp [same, ours, understood]
      · simp [same]
    · have elsewhere : command.target ≠ before.node := fun equal =>
        same (image.number_eq_of_node_eq found foundBefore
          (ours.symm.trans equal))
      simp [same, elsewhere, heard]
  · intro otherKind other mentioned
    obtain ⟨tail, inTails, rfl⟩ := Command.exists_tail_of_message understood
    rw [ours] at mentioned
    obtain ⟨before, foundBefore, otherNode, otherActive⟩ :=
      image.active_of_mentions_delivered found active
        (Channel.isPart_of_mem_tails inTails) mentioned
    rw [recordings, List.getElem?_modify, foundBefore]
    refine ⟨_, rfl, ?_, ?_⟩
    · split <;> simp [otherNode]
    · split <;> simp [otherActive]

/-- What is sent about an active node beside its channels leaves the image as it
is. -/
theorem delivered_beside
    (image : Image base tape link)
    (tail : List String)
    {number : Nat}
    {recording : Recording R}
    (found : tape.recordings[number]? = some recording)
    (active : recording.active = true)
    (slashless : ∀ part ∈ tail, IsPart part)
    (beside : ∀ channel : Channel, tail ∉ channel.tails)
    (arguments : List (Value R)) :
    Image base tape
      (link.delivered (route base (recording.node.parts ++ tail)) arguments) := by
  refine ⟨image.base_eq, image.reachable, image.issued_eq, image.numbered, ?_,
    fun kind other mentioned =>
      image.active_of_mentions_delivered found active slashless mentioned⟩
  intro other before foundBefore channel
  rw [Link.sentTo_delivered, if_neg, List.append_nil]
  · exact image.messages_eq other before foundBefore channel
  · intro member
    exact beside channel ((route_mem_addresses slashless).1 member).2

end Image

end MelodyAutomation

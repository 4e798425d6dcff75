import MelodyAutomation.Engine
import MelodyAutomation.Proofs.Engine.Address
import MelodyAutomation.Proofs.SessionRules

/-!
# Messages as the image of a recording

What goes over a link is the image of what a tape records. Whatever is said about
a node goes to addresses below its own, one channel for each kind of thing that
can be said; on each channel the messages are, in order, those that the record of
the node calls for. A command that is understood adds one message to one channel
of one node, and the same to its record.
-/

namespace MelodyAutomation

/-- What can be said about a node. -/
inductive Channel
  | start
  | stop
  | connect
  | write (parameter : Parameter)
  deriving DecidableEq, Repr

namespace Channel

/-- What follows a node's address on a channel, in parts. -/
def tails : Channel → List (List String)
  | start => [["start"]]
  | stop => [["stop"]]
  | connect => [["connect"]]
  | write parameter => [[parameter.name, "set"], [parameter.name, "ramp"]]

/-- The addresses of a channel of the node whose own address is given. -/
def addresses (home : String) : Channel → List String
  | start => [home ++ "/start"]
  | stop => [home ++ "/stop"]
  | connect => [home ++ "/connect"]
  | write parameter =>
      [home ++ "/" ++ parameter.name ++ "/set",
        home ++ "/" ++ parameter.name ++ "/ramp"]

end Channel

/-- A message: an address and what is sent there. -/
abbrev Message (R : Type) := String × List (Value R)

namespace Link

variable {R : Type}

/-- The messages sent to some addresses so far, in order. -/
def sentTo (link : Link R) (addresses : List String) : List (Message R) :=
  (link.transmissions.filter fun sent => addresses.contains sent.address).map
    fun sent => (sent.address, sent.arguments)

/-- Whether anything was sent below the address of a node. -/
def Mentions (link : Link R) (home : String) : Prop :=
  ∃ sent ∈ link.transmissions, ∃ tail, sent.address = home ++ "/" ++ tail

end Link

variable {R : Type} [Scalar R]

/-- The message for one write to the socket at an address: the value as a scalar
and the time in seconds. -/
def Event.message (home : String) (event : Event R) : Attempt R (Message R) := do
  let level ← event.value.toScalar
  let seconds ← event.time.div (.int 1000)
  .ok (home ++ "/" ++ event.name, [.real level, .real seconds])

/-- The message for one stop of the node at an address: the time in seconds, if
there is one. -/
def stopMessage (home : String) : Option (Value R) → Attempt R (Message R)
  | none => .ok (home ++ "/stop", [])
  | some time => do
      let seconds ← time.div (.int 1000)
      .ok (home ++ "/stop", [.real seconds])

/-- The messages that a recording calls for on a channel, when addresses start
with a base. -/
def Recording.messages (recording : Recording R) (base : String) :
    Channel → List (Attempt R (Message R))
  | .start =>
      List.replicate recording.startCount
        (.ok (recording.node.address base ++ "/start", []))
  | .stop =>
      recording.stopTimes.map (stopMessage (recording.node.address base))
  | .connect =>
      recording.outputs.map fun inlet =>
        .ok (recording.node.address base ++ "/connect",
          [.text (inlet.address base)])
  | .write parameter =>
      match recording.lane? parameter with
      | none => []
      | some lane =>
          lane.events.map
            (Event.message (Socket.address base ⟨recording.node, parameter⟩))

/-- A link mirrors a tape. Nodes are numbered alike; on every channel of every
node the messages sent are the ones that its recording calls for; and nothing is
sent about a node that is not recorded as an active one. -/
structure Image (base : String) (tape : Tape R) (link : Link R) : Prop where
  base_eq : link.base = base
  /-- Every message is delivered. -/
  reachable : link.outage = fun _ => none
  issued_eq : link.issued = tape.recordings.length
  numbered : ∀ (number : Nat) (recording : Recording R),
    tape.recordings[number]? = some recording →
      ∃ kind, recording.node = .created kind number
  messages_eq : ∀ (number : Nat) (recording : Recording R),
    tape.recordings[number]? = some recording → ∀ channel : Channel,
      (link.sentTo (channel.addresses (recording.node.address base))).map .ok =
        recording.messages base channel
  active_of_mentions : ∀ (kind : PrimitiveKind) (number : Nat),
    link.Mentions (Node.address base (.created kind number)) →
      ∃ recording, tape.recordings[number]? = some recording ∧
        recording.node = .created kind number ∧ recording.active = true

/-! ## Addresses of channels -/

namespace Channel

theorem addresses_eq (base : String) (node : Node) (channel : Channel) :
    channel.addresses (node.address base) =
      channel.tails.map fun tail => route base (node.parts ++ tail) := by
  cases channel <;>
    simp [addresses, tails, route_append, Node.address_eq_route,
      ← appended_part]

/-- The addresses of a channel are below that of the node. -/
theorem exists_below
    {home address : String}
    {channel : Channel}
    (member : address ∈ channel.addresses home) :
    ∃ tail, address = home ++ "/" ++ tail := by
  cases channel with
  | start =>
      exact ⟨"start", (List.mem_singleton.1 member).trans
        (appended_part home "start")⟩
  | stop =>
      exact ⟨"stop", (List.mem_singleton.1 member).trans
        (appended_part home "stop")⟩
  | connect =>
      exact ⟨"connect", (List.mem_singleton.1 member).trans
        (appended_part home "connect")⟩
  | write parameter =>
      rcases List.mem_cons.1 member with rfl | member
      · exact ⟨parameter.name ++ "/set", String.append_assoc⟩
      · rw [List.mem_singleton.1 member]
        exact ⟨parameter.name ++ "/ramp", String.append_assoc⟩

theorem isPart_of_mem_tails
    {channel : Channel}
    {tail : List String}
    (member : tail ∈ channel.tails) :
    ∀ part ∈ tail, IsPart part := by
  cases channel with
  | write parameter => cases parameter <;> revert tail <;> decide
  | _ => revert tail; decide

/-- A tail belongs to one channel. -/
theorem eq_of_mem_tails
    {left right : Channel}
    {tail : List String}
    (inLeft : tail ∈ left.tails)
    (inRight : tail ∈ right.tails) :
    left = right := by
  revert tail
  rcases left with _ | _ | _ | (_ | _) <;>
    rcases right with _ | _ | _ | (_ | _) <;> decide

end Channel

theorem isPart_of_mem_append
    {node : Node}
    {tail : List String}
    (slashless : ∀ part ∈ tail, IsPart part) :
    ∀ part ∈ node.parts ++ tail, IsPart part := by
  intro part member
  rcases List.mem_append.1 member with inNode | inTail
  · exact Node.isPart_of_mem_parts inNode
  · exact slashless part inTail

/-- What is sent about a node is on a channel of another node only if the two are
one and the channel has the tail. -/
theorem route_mem_addresses
    {base : String}
    {node other : Node}
    {tail : List String}
    {channel : Channel}
    (slashless : ∀ part ∈ tail, IsPart part) :
    route base (node.parts ++ tail) ∈ channel.addresses (other.address base) ↔
      node = other ∧ tail ∈ channel.tails := by
  rw [Channel.addresses_eq, List.mem_map]
  constructor
  · rintro ⟨own, member, same⟩
    have parts := route_injective
      (isPart_of_mem_append (Channel.isPart_of_mem_tails member))
      (isPart_of_mem_append slashless) same
    obtain ⟨rfl, rfl⟩ := Node.eq_of_parts_append_eq parts
    exact ⟨rfl, member⟩
  · rintro ⟨rfl, member⟩
    exact ⟨tail, member, rfl⟩

/-- What is sent about a node is below the address of no other one. -/
theorem eq_of_route_below
    {base below : String}
    {node other : Node}
    {tail : List String}
    (slashless : ∀ part ∈ tail, IsPart part)
    (same : route base (node.parts ++ tail) =
      other.address base ++ "/" ++ below) :
    node = other := by
  rw [Node.address_eq_route] at same
  obtain ⟨rest, parts⟩ := prefix_of_route_eq (isPart_of_mem_append slashless)
    (fun _ => Node.isPart_of_mem_parts) same
  exact (Node.eq_of_parts_append_eq parts).1.symm

/-! ## Sending -/

namespace Link

omit [Scalar R] in
/-- A link over which one more message was delivered. -/
def delivered (link : Link R) (address : String) (arguments : List (Value R)) :
    Link R :=
  { link with latest := ⟨address, arguments, true⟩ :: link.latest }

omit [Scalar R] in
theorem run_send
    {link : Link R}
    (reachable : link.outage = fun _ => none)
    (address : String)
    (arguments : List (Value R)) :
    (send address arguments).run link =
      (.succeed (), link.delivered address arguments) := by
  simp [send, delivered, reachable, Logged.succeed]

omit [Scalar R] in
theorem reaches_send
    {link final : Link R}
    (reachable : link.outage = fun _ => none)
    {address : String}
    {arguments : List (Value R)}
    {result : Unit} :
    (send address arguments).Reaches link result final ↔
      link.delivered address arguments = final := by
  simp [Session.Reaches, run_send reachable, Logged.succeed]

omit [Scalar R] in
theorem sentTo_delivered
    (link : Link R)
    (address : String)
    (arguments : List (Value R))
    (addresses : List String) :
    (link.delivered address arguments).sentTo addresses =
      link.sentTo addresses ++
        if address ∈ addresses then [(address, arguments)] else [] := by
  by_cases member : address ∈ addresses <;>
    simp [sentTo, delivered, transmissions, List.filter_append, member]

omit [Scalar R] in
theorem mentions_delivered
    {link : Link R}
    {address home : String}
    {arguments : List (Value R)} :
    (link.delivered address arguments).Mentions home ↔
      link.Mentions home ∨ ∃ tail, address = home ++ "/" ++ tail := by
  simp [Mentions, delivered, transmissions, or_and_right, exists_or, or_comm]

omit [Scalar R] in
/-- What is not mentioned was sent nothing. -/
theorem sentTo_of_not_mentions
    {link : Link R}
    {base : String}
    {node : Node}
    (silent : ¬ link.Mentions (node.address base))
    (channel : Channel) :
    link.sentTo (channel.addresses (node.address base)) = [] := by
  rw [sentTo, List.map_eq_nil_iff, List.filter_eq_nil_iff]
  intro sent member contained
  exact silent ⟨sent, member,
    Channel.exists_below (List.contains_iff_mem.1 contained)⟩

end Link

end MelodyAutomation

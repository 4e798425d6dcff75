import MelodyAutomation.Proofs.Engine.Creation
import Mathlib.Data.List.Nodup

/-!
# Conversations over a link

What is said over a link begins with a reset. Then nodes are created, each under an
address of its own and an inactive one without a word; those that are active are told
what to do, by commands which connect them to each other or to the destination. A
conversation is a log that comes about in this way, with the roster of the nodes
created so far, and its order can be read off the texts of its messages alone.
-/

namespace MelodyAutomation

/-! ## Addresses -/

/-- An address is another one or goes on behind it. -/
def IsAtOrBelow (home address : String) : Prop :=
  address = home ∨ ∃ tail, address = home ++ "/" ++ tail

/-- The last part of an address is behind its last slash. -/
theorem part_injective
    {left right leftPart rightPart : String}
    (ofLeft : IsPart leftPart)
    (ofRight : IsPart rightPart)
    (same : left ++ "/" ++ leftPart = right ++ "/" ++ rightPart) :
    left = right ∧ leftPart = rightPart := by
  have texts := congrArg String.toList same
  simp only [String.toList_append, List.append_assoc] at texts
  change left.toList ++ '/' :: leftPart.toList =
    right.toList ++ '/' :: rightPart.toList at texts
  rcases List.append_eq_append_iff.1 texts with
    ⟨rest, longer, behind⟩ | ⟨rest, longer, behind⟩
  · cases rest with
    | nil =>
        exact ⟨(String.toList_inj.1 (by simpa using longer)).symm,
          String.toList_inj.1 (List.cons.inj behind).2⟩
    | cons first rest =>
        have inside : '/' ∈ leftPart.toList := by
          rw [(List.cons.inj behind).2]
          simp
        exact (ofLeft inside).elim
  · cases rest with
    | nil =>
        exact ⟨String.toList_inj.1 (by simpa using longer),
          (String.toList_inj.1 (List.cons.inj behind).2).symm⟩
    | cons first rest =>
        have inside : '/' ∈ rightPart.toList := by
          rw [(List.cons.inj behind).2]
          simp
        exact (ofRight inside).elim

/-- An address with another last part is not one at which a node is created. -/
theorem ne_create_of_part
    {place part : String}
    (isPart : IsPart part)
    (other : part ≠ "create")
    (home : String) :
    place ++ "/" ++ part ≠ home ++ "/create" :=
  fun same => other (part_injective isPart (by decide)
    (same.trans (appended_part home "create"))).2

theorem Node.address_injective
    {base : String}
    {left right : Node}
    (same : left.address base = right.address base) :
    left = right := by
  rw [Node.address_eq_route, Node.address_eq_route] at same
  have parts := route_injective (fun _ => isPart_of_mem_parts)
    (fun _ => isPart_of_mem_parts) same
  rw [← List.append_nil left.parts, ← List.append_nil right.parts] at parts
  exact (eq_of_parts_append_eq parts).1

/-- What goes on behind the address of a node is at or below that of no other
one. -/
theorem Node.eq_of_isAtOrBelow
    {base : String}
    {node other : Node}
    {tail : List String}
    (slashless : ∀ part ∈ tail, IsPart part)
    (below : IsAtOrBelow (other.address base)
      (route base (node.parts ++ tail))) :
    node = other := by
  rcases below with same | ⟨rest, same⟩
  · rw [Node.address_eq_route] at same
    have parts := route_injective (isPart_of_mem_append slashless)
      (fun _ => Node.isPart_of_mem_parts) same
    rw [← List.append_nil other.parts] at parts
    exact (Node.eq_of_parts_append_eq parts).1
  · exact eq_of_route_below slashless same

theorem Node.eq_of_isAtOrBelow_address
    {base : String}
    {node other : Node}
    (below : IsAtOrBelow (other.address base) (node.address base)) :
    node = other := by
  rw [node.address_eq_route, ← List.append_nil node.parts] at below
  exact eq_of_isAtOrBelow (List.forall_mem_nil _) below

theorem Socket.node_eq_of_isAtOrBelow_address
    {base : String}
    {socket : Socket}
    {other : Node}
    (below : IsAtOrBelow (other.address base) (socket.address base)) :
    socket.node = other := by
  have address : socket.address base =
      route base (socket.node.parts ++ [socket.parameter.name]) := by
    rw [← Node.address_part, appended_part]
    rfl
  rw [address] at below
  refine Node.eq_of_isAtOrBelow ?_ below
  cases socket.parameter <;> decide

/-! ## The order of messages -/

/-- What is permitted at every place of a list, given what is in front of it. -/
def EachAfter {α : Type} (permitted : List α → α → Prop) (log : List α) : Prop :=
  ∀ earlier message later, log = earlier ++ message :: later →
    permitted earlier message

theorem EachAfter.concat
    {α : Type}
    {permitted : List α → α → Prop}
    {log : List α}
    (each : EachAfter permitted log)
    {message : α}
    (last : permitted log message) :
    EachAfter permitted (log ++ [message]) := by
  intro earlier other later same
  rcases List.eq_nil_or_concat later with rfl | ⟨before, final, rfl⟩
  · obtain ⟨rfl, final⟩ := List.append_inj' same rfl
    obtain rfl := List.singleton_inj.1 final
    exact last
  · rw [List.concat_eq_append, ← List.cons_append, ← List.append_assoc] at same
    obtain ⟨front, -⟩ := List.append_inj' same rfl
    exact each earlier other before front

variable {R : Type}

/-- The messages sent over a link so far, in order. -/
def Link.messages (link : Link R) : List (Message R) :=
  link.transmissions.map fun sent => (sent.address, sent.arguments)

@[simp] theorem Link.messages_delivered
    (link : Link R)
    (address : String)
    (arguments : List (Value R)) :
    (link.delivered address arguments).messages =
      link.messages ++ [(address, arguments)] := by
  simp [messages, delivered, transmissions]

/-- A message that creates a node was sent. -/
def Announced (base : String) (log : List (Message R)) (node : Node) : Prop :=
  ∃ arguments, (node.address base ++ "/create", arguments) ∈ log

/-- A message refers to a node: it goes to an address at or below that of the node,
or has one in its arguments. The text with which a node is created is no address, but
says what type of node it is. -/
def Message.RefersTo (base : String) (message : Message R) (node : Node) : Prop :=
  IsAtOrBelow (node.address base) message.1 ∨
    (∀ home, message.1 ≠ home ++ "/create") ∧
      ∃ text, .text text ∈ message.2 ∧ IsAtOrBelow (node.address base) text

/-- A message may follow others. -/
structure IsPermitted (base : String) (earlier : List (Message R))
    (message : Message R) : Prop where
  /-- What creates a node goes to an address to which nothing was sent. -/
  creates : ∀ home, message.1 = home ++ "/create" →
    ∀ other ∈ earlier, other.1 ≠ message.1
  /-- What is told to a node is told to one that was created. -/
  told : ∀ home, ∀ verb ∈ ["start", "stop", "connect", "wave"],
    message.1 = home ++ "/" ++ verb →
      ∃ node : Node, home = node.address base ∧ Announced base earlier node
  /-- What is written is written to a socket of one. -/
  writes : ∀ home, ∀ verb ∈ ["set", "ramp"], message.1 = home ++ "/" ++ verb →
    ∃ socket : Socket, home = socket.address base ∧
      Announced base earlier socket.node
  /-- A node is connected to the destination, to one that was created, or to a
  socket of one. -/
  connects : ∀ home, message.1 = home ++ "/connect" →
    ∃ place, message.2 = [.text place] ∧
      (place = base ++ "/destination" ∨
        (∃ node : Node, place = node.address base ∧
          Announced base earlier node) ∨
        ∃ socket : Socket, place = socket.address base ∧
          Announced base earlier socket.node)

/-- The messages of a log are in order, given the nodes that were created. -/
structure Orderly (base : String) (made : List Primitive)
    (log : List (Message R)) : Prop where
  permitted : EachAfter (IsPermitted base) log
  /-- All active nodes are created by a message, and no other ones. -/
  announced_iff : ∀ node : Node, Announced base log node ↔
    ∃ primitive ∈ made, primitive.active = true ∧ primitive.node = node
  /-- Nothing refers to an inactive node. -/
  silent : ∀ primitive ∈ made, primitive.active = false →
    ∀ message ∈ log, ¬ message.RefersTo base primitive.node

/-- A message is permitted by what its last part calls for. -/
theorem isPermitted_of_part
    {base place part : String}
    {earlier : List (Message R)}
    {arguments : List (Value R)}
    (isPart : IsPart part)
    (creates : part = "create" →
      ∀ other ∈ earlier, other.1 ≠ place ++ "/" ++ part)
    (told : part ∈ ["start", "stop", "connect", "wave"] →
      ∃ node : Node, place = node.address base ∧ Announced base earlier node)
    (writes : part ∈ ["set", "ramp"] →
      ∃ socket : Socket, place = socket.address base ∧
        Announced base earlier socket.node)
    (connects : part = "connect" → ∃ place, arguments = [.text place] ∧
      (place = base ++ "/destination" ∨
        (∃ node : Node, place = node.address base ∧
          Announced base earlier node) ∨
        ∃ socket : Socket, place = socket.address base ∧
          Announced base earlier socket.node)) :
    IsPermitted base earlier (place ++ "/" ++ part, arguments) := by
  have reads {home verb : String} (isVerb : IsPart verb)
      (same : place ++ "/" ++ part = home ++ "/" ++ verb) :
      place = home ∧ part = verb :=
    part_injective isPart isVerb same
  have orders : ∀ verb ∈ ["start", "stop", "connect", "wave"], IsPart verb := by
    decide
  have edits : ∀ verb ∈ ["set", "ramp"], IsPart verb := by
    decide
  refine ⟨fun home same => ?_, fun home verb among same => ?_,
    fun home verb among same => ?_, fun home same => ?_⟩
  · exact creates (reads (by decide)
      (same.trans (appended_part home "create"))).2
  · obtain ⟨rfl, rfl⟩ := reads (orders verb among) same
    exact told among
  · obtain ⟨rfl, rfl⟩ := reads (edits verb among) same
    exact writes among
  · exact connects (reads (by decide)
      (same.trans (appended_part home "connect"))).2

/-- A message to an address behind that of a node refers to no other one by its
address. -/
theorem Message.eq_or_of_refersTo
    {base : String}
    {own node : Node}
    {tail : List String}
    {arguments : List (Value R)}
    (slashless : ∀ part ∈ tail, IsPart part)
    (refers : Message.RefersTo base (route base (own.parts ++ tail), arguments)
      node) :
    own = node ∨
      (∀ home, route base (own.parts ++ tail) ≠ home ++ "/create") ∧
        ∃ text, .text text ∈ arguments ∧
          IsAtOrBelow (node.address base) text :=
  refers.imp_left (Node.eq_of_isAtOrBelow slashless)

/-! ## What stays true -/

/-- What stays true of a conversation: every node that a message refers to was
created as an active one. -/
structure Kept (base : String) (made : List Primitive)
    (log : List (Message R)) : Prop where
  distinct : (made.map Primitive.node).Nodup
  created : ∀ primitive ∈ made, primitive.node ≠ .destination
  permitted : EachAfter (IsPermitted base) log
  announced_iff : ∀ node : Node, Announced base log node ↔
    ∃ primitive ∈ made, primitive.active = true ∧ primitive.node = node
  refers : ∀ message ∈ log, ∀ node : Node, node ≠ .destination →
    message.RefersTo base node →
      ∃ primitive ∈ made, primitive.active = true ∧ primitive.node = node

namespace Kept

variable {base : String} {made : List Primitive} {log : List (Message R)}

/-- The order of a log can be read off what stays true. -/
theorem orderly (kept : Kept base made log) : Orderly base made log where
  permitted := kept.permitted
  announced_iff := kept.announced_iff
  silent primitive member inactive message inside refers := by
    obtain ⟨other, inMade, active, same⟩ := kept.refers message inside
      primitive.node (kept.created primitive member) refers
    obtain rfl := List.inj_on_of_nodup_map kept.distinct inMade member same
    rw [active] at inactive
    cases inactive

/-- One more message that creates nothing announces nothing. -/
theorem announced_concat
    {message : Message R}
    (ordinary : ∀ home, message.1 ≠ home ++ "/create")
    (node : Node) :
    Announced base (log ++ [message]) node ↔ Announced base log node := by
  simp only [Announced, List.mem_append, List.mem_singleton]
  refine exists_congr fun arguments => or_iff_left ?_
  rintro rfl
  exact ordinary _ rfl

/-- A message that creates a node announces this one. -/
theorem announced_create
    (created : Node)
    (arguments : List (Value R))
    (node : Node) :
    Announced base (log ++ [(created.address base ++ "/create", arguments)]) node ↔
      Announced base log node ∨ created = node := by
  have last : (∃ own, (node.address base ++ "/create", own) =
      (created.address base ++ "/create", arguments)) ↔ created = node := by
    refine ⟨fun ⟨own, same⟩ => ?_, fun same => ⟨arguments, by rw [same]⟩⟩
    have addresses := (Prod.mk.inj same).1
    exact (Node.address_injective ((String.append_left_inj _).1 addresses)).symm
  simp only [Announced, List.mem_append, List.mem_singleton, exists_or, last]

/-- A message that is permitted, creates nothing and refers to active nodes. -/
theorem concat
    (kept : Kept base made log)
    {message : Message R}
    (permitted : IsPermitted base log message)
    (ordinary : ∀ home, message.1 ≠ home ++ "/create")
    (refers : ∀ node : Node, node ≠ .destination → message.RefersTo base node →
      ∃ primitive ∈ made, primitive.active = true ∧ primitive.node = node) :
    Kept base made (log ++ [message]) where
  distinct := kept.distinct
  created := kept.created
  permitted := kept.permitted.concat permitted
  announced_iff node :=
    (announced_concat ordinary node).trans (kept.announced_iff node)
  refers other member node := by
    rcases List.mem_append.1 member with earlier | last
    · exact kept.refers other earlier node
    · obtain rfl := List.mem_singleton.1 last
      exact refers node

theorem leave
    (kept : Kept base made log)
    {primitive : Primitive}
    (inactive : primitive.active = false)
    (created : primitive.node ≠ .destination)
    (fresh : ∀ other ∈ made, other.node ≠ primitive.node) :
    Kept base (primitive :: made) log where
  distinct := List.nodup_cons.2 ⟨by simpa using fresh, kept.distinct⟩
  created := List.forall_mem_cons.2 ⟨created, kept.created⟩
  permitted := kept.permitted
  announced_iff node := by
    rw [kept.announced_iff]
    simp [inactive]
  refers message member node isCreated refers := by
    obtain ⟨other, inside, active, same⟩ :=
      kept.refers message member node isCreated refers
    exact ⟨other, List.mem_cons_of_mem _ inside, active, same⟩

theorem create
    (kept : Kept base made log)
    {primitive : Primitive}
    (active : primitive.active = true)
    (created : primitive.node ≠ .destination)
    (fresh : ∀ other ∈ made, other.node ≠ primitive.node)
    (arguments : List (Value R)) :
    Kept base (primitive :: made)
      (log ++ [(primitive.node.address base ++ "/create", arguments)]) := by
  have address : primitive.node.address base ++ "/create" =
      primitive.node.address base ++ "/" ++ "create" :=
    appended_part _ "create"
  -- A fresh node has not been announced, so that this is its first message.
  have unannounced : ¬ Announced base log primitive.node := by
    rw [kept.announced_iff]
    rintro ⟨other, inside, -, same⟩
    exact fresh other inside same
  refine ⟨List.nodup_cons.2 ⟨by simpa using fresh, kept.distinct⟩,
    List.forall_mem_cons.2 ⟨created, kept.created⟩, kept.permitted.concat ?_, ?_,
    ?_⟩
  · rw [address]
    refine isPermitted_of_part (by decide) (fun _ other inside same => ?_)
      (absurd · (by decide)) (absurd · (by decide)) (absurd · (by decide))
    exact unannounced ⟨other.2, by rw [address, ← same]; exact inside⟩
  · intro node
    rw [announced_create, kept.announced_iff]
    simp [active, or_comm]
  · intro message member node isCreated refers
    rcases List.mem_append.1 member with earlier | last
    · obtain ⟨other, inside, active, same⟩ :=
        kept.refers message earlier node isCreated refers
      exact ⟨other, List.mem_cons_of_mem _ inside, active, same⟩
    · obtain rfl := List.mem_singleton.1 last
      have parts := primitive.node.address_part base "create"
      change primitive.node.address base ++ "/create" = _ at parts
      rw [parts] at refers
      rcases Message.eq_or_of_refersTo (by decide) refers with
        same | ⟨ordinary, -⟩
      · exact ⟨primitive, List.mem_cons_self, active, same⟩
      · exact (ordinary _ parts.symm).elim

end Kept

/-! ## Conversations -/

variable [Scalar R]

/-- A log of messages that comes about by creating nodes and giving commands for
those that are active, with the roster of the nodes. -/
inductive Conversation (base : String) : List Primitive → List (Message R) → Prop
  | reset : Conversation base [] [(base ++ "/reset", [])]
  | leave {made : List Primitive} {log : List (Message R)}
      {primitive : Primitive} :
      Conversation base made log → primitive.active = false →
        primitive.node ≠ .destination →
        (∀ other ∈ made, other.node ≠ primitive.node) →
        Conversation base (primitive :: made) log
  | create {made : List Primitive} {log : List (Message R)}
      {primitive : Primitive} (arguments : List (Value R)) :
      Conversation base made log → primitive.active = true →
        primitive.node ≠ .destination →
        (∀ other ∈ made, other.node ≠ primitive.node) →
        Conversation base (primitive :: made)
          (log ++ [(primitive.node.address base ++ "/create", arguments)])
  | wave {made : List Primitive} {log : List (Message R)}
      {primitive : Primitive} (amplitudes : List R) :
      Conversation base made log → primitive ∈ made → primitive.active = true →
        Conversation base made
          (log ++ [(primitive.node.address base ++ "/wave",
            amplitudes.map .real)])
  | command {made : List Primitive} {log : List (Message R)}
      {primitive : Primitive} {command : Command R} {message : Message R} :
      Conversation base made log → primitive ∈ made → primitive.active = true →
        command.IsFor primitive →
        (∀ node inlet, command = .connect node inlet → inlet.Within made) →
        Link.message base command = .ok message →
        Conversation base made (log ++ [message])

namespace Conversation

variable {base : String} {made : List Primitive} {log : List (Message R)}

omit [Scalar R] in
theorem kept_nil : Kept base [] ([] : List (Message R)) where
  distinct := List.nodup_nil
  created := List.forall_mem_nil _
  permitted := fun earlier message later same => by simp at same
  announced_iff := by simp [Announced]
  refers := List.forall_mem_nil _

omit [Scalar R] in
/-- A reset refers to no node. -/
theorem not_refersTo_reset (node : Node) :
    ¬ Message.RefersTo base ((base ++ "/reset", []) : Message R) node := by
  have address : base ++ "/reset" = route base ["reset"] :=
    appended_part base "reset"
  have slashless : ∀ part ∈ ["reset"], IsPart part := by
    decide
  rintro ((same | ⟨tail, same⟩) | ⟨-, text, inside, -⟩)
  · rw [address, Node.address_eq_route] at same
    have parts := route_injective slashless
      (fun _ => Node.isPart_of_mem_parts) same
    cases node <;> simp [Node.parts] at parts
  · rw [address, Node.address_eq_route] at same
    obtain ⟨rest, parts⟩ := prefix_of_route_eq slashless
      (fun _ => Node.isPart_of_mem_parts) same
    cases node <;> simp [Node.parts] at parts
  · cases inside

omit [Scalar R] in
theorem kept_reset : Kept base [] [((base ++ "/reset", []) : Message R)] := by
  have address : base ++ "/reset" = base ++ "/" ++ "reset" :=
    appended_part base "reset"
  refine kept_nil.concat ?_ ?_ fun node _ refers =>
    (not_refersTo_reset node refers).elim <;> rw [address]
  · exact isPermitted_of_part (by decide) (absurd · (by decide))
      (absurd · (by decide)) (absurd · (by decide)) (absurd · (by decide))
  · exact ne_create_of_part (by decide) (by decide)

omit [Scalar R] in
/-- The harmonics of a node that was created refer to this node. -/
theorem kept_wave
    (kept : Kept base made log)
    {primitive : Primitive}
    (member : primitive ∈ made)
    (active : primitive.active = true)
    (amplitudes : List R) :
    Kept base made
      (log ++ [(primitive.node.address base ++ "/wave",
        amplitudes.map .real)]) := by
  have address : primitive.node.address base ++ "/wave" =
      primitive.node.address base ++ "/" ++ "wave" :=
    appended_part _ "wave"
  have announced := (kept.announced_iff primitive.node).2
    ⟨primitive, member, active, rfl⟩
  refine kept.concat ?_ ?_ fun node _ refers => ?_
  · rw [address]
    exact isPermitted_of_part (by decide) (absurd · (by decide))
      (fun _ => ⟨_, rfl, announced⟩) (absurd · (by decide))
      (absurd · (by decide))
  · rw [address]
    exact ne_create_of_part (by decide) (by decide)
  · have parts := primitive.node.address_part base "wave"
    change primitive.node.address base ++ "/wave" = _ at parts
    rw [parts] at refers
    rcases Message.eq_or_of_refersTo (by decide) refers with
      same | ⟨-, text, inside, -⟩
    · exact ⟨primitive, member, active, same⟩
    · obtain ⟨_, -, same⟩ := List.mem_map.1 inside
      cases same

/-- The message of a command by its last part: what is told to a node, with the place
to which it is connected if it is, or what is written to a socket of it. -/
theorem exists_part_of_message
    {command : Command R}
    {message : Message R}
    (understood : Link.message base command = .ok message) :
    ∃ place part arguments, message = (place ++ "/" ++ part, arguments) ∧
      (place = command.target.address base ∧ part ∈ ["start", "stop"] ∧
          (∀ text, .text text ∉ arguments) ∨
        place = command.target.address base ∧ part = "connect" ∧
          (∃ inlet, command = .connect command.target inlet ∧
            arguments = [.text (inlet.address base)]) ∨
        (∃ socket : Socket, socket.node = command.target ∧
          place = socket.address base) ∧ part ∈ ["set", "ramp"] ∧
          ∀ text, .text text ∉ arguments) := by
  have written {value time : Value R} {arguments : List (Value R)}
      (read : Link.writeArguments value time = .ok arguments) (text : String) :
      .text text ∉ arguments := by
    simp only [Link.writeArguments, Link.seconds, Attempt.bind_eq_ok] at read
    obtain ⟨level, -, moment, ⟨scalar, -, same⟩, read⟩ := read
    obtain rfl := Except.ok.inj same
    obtain rfl := Except.ok.inj read
    simp
  cases command with
  | start node =>
      obtain rfl := Except.ok.inj understood
      exact ⟨_, "start", _, Prod.ext (appended_part _ "start") rfl,
        .inl ⟨rfl, by decide, by simp⟩⟩
  | stop node time =>
      cases time with
      | none =>
          obtain rfl := Except.ok.inj understood
          exact ⟨_, "stop", _, Prod.ext (appended_part _ "stop") rfl,
            .inl ⟨rfl, by decide, by simp⟩⟩
      | some time =>
          simp only [Link.message, Link.seconds, Attempt.bind_eq_ok]
            at understood
          obtain ⟨moment, ⟨scalar, -, same⟩, understood⟩ := understood
          obtain rfl := Except.ok.inj same
          obtain rfl := Except.ok.inj understood
          exact ⟨_, "stop", _, Prod.ext (appended_part _ "stop") rfl,
            .inl ⟨rfl, by decide, by simp⟩⟩
  | connect node inlet =>
      obtain rfl := Except.ok.inj understood
      exact ⟨_, "connect", _, Prod.ext (appended_part _ "connect") rfl,
        .inr (.inl ⟨rfl, rfl, inlet, rfl, rfl⟩)⟩
  | set socket value time =>
      obtain ⟨arguments, read, understood⟩ := Attempt.bind_eq_ok.1 understood
      obtain rfl := Except.ok.inj understood
      exact ⟨_, "set", _, Prod.ext (appended_part _ "set") rfl,
        .inr (.inr ⟨⟨socket, rfl, rfl⟩, by decide, written read⟩)⟩
  | ramp socket value time =>
      obtain ⟨arguments, read, understood⟩ := Attempt.bind_eq_ok.1 understood
      obtain rfl := Except.ok.inj understood
      exact ⟨_, "ramp", _, Prod.ext (appended_part _ "ramp") rfl,
        .inr (.inr ⟨⟨socket, rfl, rfl⟩, by decide, written read⟩)⟩

omit [Scalar R] in
/-- What is in the reach of some nodes is the destination, or one of them that is
active, or a socket of one. -/
theorem exists_of_within
    {inlet : Inlet}
    (within : inlet.Within made) :
    inlet = .node .destination ∨ ∃ primitive ∈ made, primitive.active = true ∧
      (inlet = .node primitive.node ∨
        ∃ parameter, inlet = .socket ⟨primitive.node, parameter⟩) := by
  match inlet, within with
  | .node .destination, _ => exact .inl rfl
  | .node (.created kind number), ⟨primitive, member, active, same⟩ =>
      exact .inr ⟨primitive, member, active, .inl (congrArg Inlet.node same)⟩
  | .socket ⟨node, parameter⟩, ⟨primitive, member, active, _, same⟩ =>
      obtain rfl : node = primitive.node := same
      exact .inr ⟨primitive, member, active, .inr ⟨parameter, rfl⟩⟩

/-- No command creates a node. -/
theorem ne_create_of_message
    {command : Command R}
    {message : Message R}
    (understood : Link.message base command = .ok message)
    (home : String) :
    message.1 ≠ home ++ "/create" := by
  obtain ⟨place, part, arguments, rfl, kinds⟩ :=
    exists_part_of_message understood
  have orders : ∀ part ∈ ["start", "stop"],
      IsPart part ∧ part ≠ "create" := by
    decide
  have edits : ∀ part ∈ ["set", "ramp"], IsPart part ∧ part ≠ "create" := by
    decide
  have ordinary : IsPart part ∧ part ≠ "create" := by
    rcases kinds with ⟨-, order, -⟩ | ⟨-, rfl, -⟩ | ⟨-, edit, -⟩
    · exact orders part order
    · decide
    · exact edits part edit
  exact ne_create_of_part ordinary.1 ordinary.2 home

/-- A command is permitted if its node was announced, and that to which it is
connected. -/
theorem isPermitted_of_message
    {command : Command R}
    {message : Message R}
    (understood : Link.message base command = .ok message)
    (announced : Announced base log command.target)
    (within : ∀ node inlet, command = .connect node inlet →
      inlet = .node .destination ∨ ∃ own : Node, Announced base log own ∧
        (inlet = .node own ∨ ∃ parameter, inlet = .socket ⟨own, parameter⟩)) :
    IsPermitted base log message := by
  obtain ⟨place, part, arguments, rfl, kinds⟩ :=
    exists_part_of_message understood
  rcases kinds with ⟨rfl, order, -⟩ | ⟨rfl, rfl, inlet, connects, rfl⟩ |
    ⟨⟨socket, node, rfl⟩, edit, -⟩
  · have apart : ∀ part ∈ ["start", "stop"], IsPart part ∧ part ≠ "create" ∧
        part ∉ ["set", "ramp"] ∧ part ≠ "connect" := by
      decide
    obtain ⟨isPart, creates, writes, connects⟩ := apart part order
    exact isPermitted_of_part isPart (absurd · creates)
      (fun _ => ⟨_, rfl, announced⟩) (absurd · writes) (absurd · connects)
  · refine isPermitted_of_part (by decide) (absurd · (by decide))
      (fun _ => ⟨_, rfl, announced⟩) (absurd · (by decide))
      fun _ => ⟨_, rfl, ?_⟩
    rcases within _ _ connects with
      rfl | ⟨own, isOwn, rfl | ⟨parameter, rfl⟩⟩
    · exact .inl rfl
    · exact .inr (.inl ⟨_, rfl, isOwn⟩)
    · exact .inr (.inr ⟨_, rfl, isOwn⟩)
  · have apart : ∀ part ∈ ["set", "ramp"], IsPart part ∧ part ≠ "create" ∧
        part ∉ ["start", "stop", "connect", "wave"] ∧ part ≠ "connect" := by
      decide
    obtain ⟨isPart, creates, told, connects⟩ := apart part edit
    exact isPermitted_of_part isPart (absurd · creates) (absurd · told)
      (fun _ => ⟨socket, rfl, node ▸ announced⟩) (absurd · connects)

/-- A command refers to its own node, and to that to which it is connected. -/
theorem eq_or_of_refersTo_message
    {command : Command R}
    {message : Message R}
    (understood : Link.message base command = .ok message)
    {node : Node}
    (refers : message.RefersTo base node) :
    command.target = node ∨ ∃ inlet, command = .connect command.target inlet ∧
      (inlet = .node node ∨ ∃ parameter, inlet = .socket ⟨node, parameter⟩) := by
  obtain ⟨place, part, arguments, rfl, kinds⟩ :=
    exists_part_of_message understood
  obtain ⟨tail, inTails, address⟩ := Command.exists_tail_of_message understood
  rw [address] at refers
  rcases Message.eq_or_of_refersTo (Channel.isPart_of_mem_tails inTails)
    refers with same | ⟨-, text, inside, below⟩
  · exact .inl same
  rcases kinds with ⟨-, -, textless⟩ | ⟨-, -, inlet, connects, rfl⟩ |
    ⟨-, -, textless⟩
  · exact (textless text inside).elim
  · obtain rfl := Value.text.inj (List.mem_singleton.1 inside)
    refine .inr ⟨inlet, connects, ?_⟩
    cases inlet with
    | node own =>
        exact .inl (congrArg Inlet.node (Node.eq_of_isAtOrBelow_address below))
    | socket own =>
        obtain rfl := Socket.node_eq_of_isAtOrBelow_address below
        exact .inr ⟨own.parameter, rfl⟩
  · exact (textless text inside).elim

/-- A command for an active node goes on with a conversation. -/
theorem kept_command
    (kept : Kept base made log)
    {primitive : Primitive}
    (member : primitive ∈ made)
    (active : primitive.active = true)
    {command : Command R}
    (own : command.IsFor primitive)
    (within : ∀ node inlet, command = .connect node inlet → inlet.Within made)
    {message : Message R}
    (understood : Link.message base command = .ok message) :
    Kept base made (log ++ [message]) := by
  have announced {other : Primitive} (inside : other ∈ made)
      (isActive : other.active = true) : Announced base log other.node :=
    (kept.announced_iff other.node).2 ⟨other, inside, isActive, rfl⟩
  have permitted : IsPermitted base log message := by
    refine isPermitted_of_message understood
      (own.target_eq ▸ announced member active) fun node inlet connects => ?_
    rcases exists_of_within (within node inlet connects) with
      destination | ⟨other, inside, isActive, reaches⟩
    · exact .inl destination
    · exact .inr ⟨other.node, announced inside isActive, reaches⟩
  refine kept.concat permitted (ne_create_of_message understood)
    fun node isCreated refers => ?_
  rcases eq_or_of_refersTo_message understood refers with
    same | ⟨inlet, connects, reaches⟩
  · exact ⟨primitive, member, active, own.target_eq.symm.trans same⟩
  rcases exists_of_within (within _ _ connects) with
    rfl | ⟨other, inside, isActive, ofOther⟩
  · rcases reaches with destination | ⟨parameter, socket⟩
    · exact (isCreated (Inlet.node.inj destination).symm).elim
    · cases socket
  · refine ⟨other, inside, isActive, ?_⟩
    rcases ofOther with rfl | ⟨parameter, rfl⟩ <;>
      rcases reaches with same | ⟨_, same⟩ <;> cases same <;> rfl

end Conversation

/-- Every conversation is in order. -/
theorem Conversation.orderly
    {base : String}
    {made : List Primitive}
    {log : List (Message R)}
    (conversation : Conversation base made log) :
    Orderly base made log := by
  have kept : Kept base made log := by
    induction conversation with
    | reset => exact kept_reset
    | leave _ inactive created fresh kept =>
        exact kept.leave inactive created fresh
    | create arguments _ active created fresh kept =>
        exact kept.create active created fresh arguments
    | wave amplitudes _ member active kept =>
        exact kept_wave kept member active amplitudes
    | command _ member active own within understood kept =>
        exact kept_command kept member active own within understood
  exact kept.orderly

end MelodyAutomation

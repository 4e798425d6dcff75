import MelodyAutomation.Proofs.Engine.Creation
import MelodyAutomation.Stage

/-!
# Stages on a tape and on a link

Two stages mirror each other: one is on a tape and one on a link that is its
image, and they agree on everything else, the clock included. Creating a node
keeps them so, and so does every command for a node that the tape holds, as long
as the link can send it.
-/

namespace MelodyAutomation
namespace Stage

variable {R : Type} [Scalar R]

/-- A stage on a link mirrors a stage on a tape, which holds some primitives. -/
structure Mirrors (base : String) (known : List Primitive)
    (onTape onLink : Stage R) : Prop where
  clock_eq : onTape.clock = onLink.clock
  timebase_eq : onTape.timebase = onLink.timebase
  realtime_eq : onTape.realtime = onLink.realtime
  built_eq : onTape.built = onLink.built
  playing_eq : onTape.playing = onLink.playing
  engines : ∃ tape link, onTape.engine = .tape tape ∧
    onLink.engine = .link link ∧ Image base tape link ∧
      ∀ primitive ∈ known, tape.Holds primitive

namespace Mirrors

variable {base : String} {known : List Primitive} {onTape onLink : Stage R}

theorem nowMs_eq (mirrors : Mirrors base known onTape onLink) :
    onTape.nowMs = onLink.nowMs := by
  simp only [nowMs, now, mirrors.clock_eq, mirrors.timebase_eq]

theorem waitsUntil?_eq
    (mirrors : Mirrors base known onTape onLink)
    (duration : R) :
    onTape.waitsUntil? duration = onLink.waitsUntil? duration := by
  simp only [waitsUntil?, clockAfter, mirrors.clock_eq, mirrors.realtime_eq]

theorem mono
    (mirrors : Mirrors base known onTape onLink)
    {fewer : List Primitive}
    (subset : ∀ primitive ∈ fewer, primitive ∈ known) :
    Mirrors base fewer onTape onLink := by
  obtain ⟨tape, link, ofTape, ofLink, image, holds⟩ := mirrors.engines
  exact { mirrors with
    engines := ⟨tape, link, ofTape, ofLink, image,
      fun primitive member => holds primitive (subset primitive member)⟩ }

end Mirrors

/-! ## Operations -/

variable {base : String} {known : List Primitive}

theorem respects_setClock (clock : R) :
    (setClock clock).Respects (Mirrors base known) :=
  Session.respects_modify fun _ _ mirrors => { mirrors with clock_eq := rfl }

theorem respects_setPlaying (number : Nat) (playing : Bool) :
    (setPlaying number playing : Session (Stage R) R Unit).Respects
      (Mirrors base known) :=
  Session.respects_modify fun _ _ mirrors =>
    { mirrors with
      playing_eq := by simp only [mirrors.playing_eq] }

theorem respects_isPlaying (number : Nat) :
    (isPlaying number : Session (Stage R) R Bool).Respects
      (Mirrors base known) :=
  Session.respects_get_bind
    (fun _ _ mirrors => by simp only [mirrors.playing_eq])
    fun _ => (Session.respects_rules _).pure _

theorem respects_takeNumber :
    (takeNumber : Session (Stage R) R Nat).Respects (Mirrors base known) := by
  refine Session.respects_get_bind
    (fun _ _ mirrors => by simp only [mirrors.built_eq]) fun stage => ?_
  refine (Session.respects_rules _).bind ?_ fun _ => ?_
  · exact Session.respects_modify fun _ _ mirrors =>
      { mirrors with built_eq := rfl }
  · exact (Session.respects_rules _).bind (respects_setPlaying _ _) fun _ =>
      (Session.respects_rules _).pure _

theorem respects_advance (seconds : Value R) :
    (advance seconds).Respects (Mirrors base known) := by
  refine Session.respects_get_bind
    (fun _ _ mirrors => by simp only [mirrors.clock_eq]) fun stage => ?_
  refine (Session.respects_rules _).attempt_bind fun moved _ => ?_
  exact (Session.respects_rules _).attempt_bind fun clock _ =>
    respects_setClock clock

/-! ## Commands -/

/-- A command that the link can send and that is for an active, known primitive. -/
theorem respects_perform
    {primitive : Primitive}
    (member : primitive ∈ known)
    (active : primitive.active = true)
    {command : Command R}
    (own : command.IsFor primitive)
    (understood : (Link.message base command).isOk = true) :
    (perform command).Respects (Mirrors base known) := by
  intro onTape onLink mirrors
  obtain ⟨tape, link, ofTape, ofLink, image, holds⟩ := mirrors.engines
  obtain ⟨⟨address, arguments⟩, understood⟩ := Attempt.exists_of_isOk understood
  have sent := Link.run_perform image.reachable (image.base_eq ▸ understood)
  constructor
  · simp [perform, onEngine, Session.within, Engine.perform, ofTape, ofLink, sent]
  · refine { mirrors with engines :=
      ⟨tape.perform command, link.delivered address arguments, ?_, ?_, ?_, ?_⟩ }
    · simp [perform, onEngine, Session.within, Engine.perform, ofTape]
    · simp [perform, onEngine, Session.within, Engine.perform, ofLink, sent]
    · exact image.perform (holds primitive member) active own understood
    · exact fun other known => (holds other known).perform command

/-- Whether a time can be sent: in seconds it is a scalar. -/
def IsTimely (time : Value R) : Prop := (Link.seconds time).isOk = true

theorem respects_start
    {primitive : Primitive}
    (member : primitive ∈ known) :
    (start primitive : Session (Stage R) R Unit).Respects
      (Mirrors base known) := by
  unfold start
  split
  next active => exact respects_perform member active ⟨rfl, nofun⟩ rfl
  next => exact (Session.respects_rules _).pure _

theorem respects_connect
    {primitive : Primitive}
    (member : primitive ∈ known)
    (inlet : Inlet) :
    (connect primitive inlet : Session (Stage R) R Unit).Respects
      (Mirrors base known) := by
  unfold connect
  split
  next active => exact respects_perform member active ⟨rfl, nofun⟩ rfl
  next => exact (Session.respects_rules _).pure _

theorem respects_stop
    {primitive : Primitive}
    (member : primitive ∈ known)
    {time : Option (Value R)}
    (timely : ∀ moment ∈ time, IsTimely moment) :
    (stop primitive time).Respects (Mirrors base known) := by
  unfold stop
  split
  next active =>
      refine respects_perform member active ⟨rfl, nofun⟩ ?_
      cases time with
      | none => rfl
      | some moment =>
          obtain ⟨seconds, sendable⟩ :=
            Attempt.exists_of_isOk (timely moment rfl)
          simp [Link.message, sendable, Except.isOk, Except.toBool]
  next => exact (Session.respects_rules _).pure _

/-- A socket of an active, known primitive. -/
def IsKnown (known : List Primitive) (socket : Socket) : Prop :=
  ∃ primitive ∈ known, primitive.active = true ∧
    primitive.has socket.parameter = true ∧ socket.node = primitive.node

theorem isOk_writeArguments
    {value time : Value R}
    (sendable : value.toScalar.isOk = true)
    (timely : IsTimely time) :
    ∃ arguments, Link.writeArguments value time = .ok arguments := by
  obtain ⟨level, read⟩ := Attempt.exists_of_isOk sendable
  obtain ⟨moment, converted⟩ := Attempt.exists_of_isOk timely
  exact ⟨[.real level, moment], by simp [Link.writeArguments, read, converted]⟩

theorem respects_set
    {socket : Socket}
    (ours : IsKnown known socket)
    {value time : Value R}
    (sendable : value.toScalar.isOk = true)
    (timely : IsTimely time) :
    (set socket value time).Respects (Mirrors base known) := by
  obtain ⟨primitive, member, active, has, node⟩ := ours
  refine respects_perform member active ⟨node, ?_⟩ ?_
  · rintro parameter ⟨rfl⟩
    exact has
  · obtain ⟨arguments, written⟩ := isOk_writeArguments sendable timely
    simp [Link.message, written, Except.isOk, Except.toBool]

theorem respects_ramp
    {socket : Socket}
    (ours : IsKnown known socket)
    {value time : Value R}
    (sendable : value.toScalar.isOk = true)
    (timely : IsTimely time) :
    (ramp socket value time).Respects (Mirrors base known) := by
  obtain ⟨primitive, member, active, has, node⟩ := ours
  refine respects_perform member active ⟨node, ?_⟩ ?_
  · rintro parameter ⟨rfl⟩
    exact has
  · obtain ⟨arguments, written⟩ := isOk_writeArguments sendable timely
    simp [Link.message, written, Except.isOk, Except.toBool]

/-! ## Creation -/

/-- A node that the link creates is created on the tape, and held by it. -/
theorem simulates_create (blueprint : Blueprint R) :
    (create blueprint).Simulates (Mirrors base known)
      fun primitive => Mirrors base (primitive :: known) := by
  rintro onTape onLink mirrors primitive final ⟨outcome, rfl⟩
  obtain ⟨tape, link, ofTape, ofLink, image, holds⟩ := mirrors.engines
  have created : (Link.create blueprint).Reaches link primitive
      ((Link.create blueprint).run link).2 := by
    refine ⟨?_, rfl⟩
    simpa [create, onEngine, Session.within, Engine.create, ofLink]
      using outcome
  obtain ⟨rfl, extended⟩ := image.create created
  refine ⟨((create blueprint).run onTape).2, ⟨?_, rfl⟩,
    { mirrors with engines :=
      ⟨(tape.create blueprint).2, ((Link.create blueprint).run link).2,
        ?_, ?_, extended, ?_⟩ }⟩
  · simp [create, onEngine, Session.within, Engine.create, ofTape,
      Logged.succeed]
  · simp [create, onEngine, Session.within, Engine.create, ofTape]
  · simp [create, onEngine, Session.within, Engine.create, ofLink]
  · intro other member
    rcases List.mem_cons.1 member with rfl | earlier
    · exact tape.holds_create blueprint
    · exact (holds other earlier).create blueprint

/-! ## Opening -/

/-- A link that only announced itself is the image of a blank tape. -/
theorem image_blank (base : String) :
    Image base Tape.blank
      ((Link.idle (R := R) base fun _ => none).delivered (base ++ "/reset")
        []) := by
  refine ⟨rfl, rfl, rfl, nofun, nofun, ?_⟩
  intro kind number mentioned
  rcases Link.mentions_delivered.1 mentioned with ⟨_, member, _⟩ | ⟨tail, same⟩
  · cases member
  · have below : route base ["reset"] =
        route base (Node.created kind number).parts ++ "/" ++ tail := by
      rw [← Node.address_eq_route, ← same]
      exact (appended_part base "reset").symm
    have parts := prefix_of_route_eq (by decide)
      (fun _ => Node.isPart_of_mem_parts) below
    exact absurd parts.length_le (by simp [Node.parts])

omit [Scalar R] in
/-- A link that was just opened has announced itself. -/
theorem engine_openLink
    (clock : R)
    (timebase : Timebase R)
    (realtime : Bool)
    (host : Option String)
    (portNumber : Option Int) :
    (openLink clock timebase realtime base host portNumber
        fun _ => none).2.engine =
      .link ((Link.idle base fun _ => none).delivered (base ++ "/reset") []) := by
  have announced : ((Link.start host portNumber).run
      (Link.idle (R := R) base fun _ => none)).2 =
        (Link.idle base fun _ => none).delivered (base ++ "/reset") [] := by
    rw [Link.start, Session.run_get_bind, Session.run_bind_eq,
      Link.run_send rfl]
    rfl
  rw [← announced]
  rfl

/-- A stage that was just opened on a link mirrors one just opened on a tape. -/
theorem mirrors_open
    (clock : R)
    (timebase : Timebase R)
    (realtime : Bool)
    (host : Option String)
    (portNumber : Option Int) :
    Mirrors base [] (openTape clock timebase realtime)
      (openLink clock timebase realtime base host portNumber
        fun _ => none).2 :=
  ⟨rfl, rfl, rfl, rfl, rfl, Tape.blank, _, rfl,
    engine_openLink clock timebase realtime host portNumber, image_blank base,
    by simp⟩

end Stage
end MelodyAutomation

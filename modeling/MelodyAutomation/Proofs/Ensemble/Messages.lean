import MelodyAutomation.Proofs.Engine.Conversation
import MelodyAutomation.Proofs.Ensemble.History
import MelodyAutomation.Proofs.Stage.Mirror

/-!
# The messages of an ensemble

All that instruments ask of an engine is to create nodes and to carry out commands
for active nodes that were created. A course of a stage says what was asked, and
keeps a roster of the nodes: of instruments that were built and of those that were
refused, active or not. So over a link every course is a conversation, and whatever
the history of an ensemble is, its messages are in order.
-/

namespace MelodyAutomation

variable {R : Type} [Machine R]

theorem Inlet.Within.mono
    {fewer more : List Primitive}
    (subset : ∀ primitive ∈ fewer, primitive ∈ more)
    {inlet : Inlet}
    (within : inlet.Within fewer) :
    inlet.Within more := by
  match inlet, within with
  | .node .destination, _ => trivial
  | .node (.created _ _), ⟨primitive, member, rest⟩ =>
      exact ⟨primitive, subset primitive member, rest⟩
  | .socket _, ⟨primitive, member, rest⟩ =>
      exact ⟨primitive, subset primitive member, rest⟩

namespace Link

variable (link : Link R) (home : String) (blueprint : Blueprint R)
  (arguments : List (Value R))

omit [Machine R] in
@[simp] theorem base_announced :
    (link.announced home blueprint arguments).base = link.base := by
  unfold announced
  split <;> split <;> rfl

omit [Machine R] in
@[simp] theorem outage_announced :
    (link.announced home blueprint arguments).outage = link.outage := by
  unfold announced
  split <;> split <;> rfl

omit [Machine R] in
@[simp] theorem issued_announced :
    (link.announced home blueprint arguments).issued = link.issued := by
  unfold announced
  split <;> split <;> rfl

/-- A creation that is refused leaves a link as it was. -/
theorem ensures_create :
    (create blueprint).Ensures (· = link) (fun _ _ => True) (· = link) := by
  have sends (address : String) (arguments : List (Value R)) :
      (send address arguments : Session (Link R) R Unit).Ensures (fun _ => True)
        (fun _ _ => True) (· = link) :=
    fun _ _ => trivial
  have numbers : (takeNumber : Session (Link R) R Nat).Ensures (· = link)
      (fun _ _ => True) (· = link) :=
    fun _ _ => trivial
  refine Session.ensures_attempt_bind (fun _ same => same) fun arguments _ => ?_
  refine numbers.bind fun number => Session.ensures_get_bind fun current => ?_
  have named (primitive : Primitive) :
      (pure primitive : Session (Link R) R Primitive).Ensures (fun _ => True)
        (fun _ _ => True) (· = link) :=
    fun _ _ => trivial
  cases harmonics? blueprint <;> dsimp only <;> split
  · exact (sends _ _).bind fun _ => named _
  · exact named _
  · exact (sends _ _).bind fun _ => (sends _ _).bind fun _ => named _
  · exact (sends _ _).bind fun _ => named _

end Link

/-- A node that is announced is created in a conversation, unless it is inactive. -/
theorem Conversation.announced
    {base : String}
    {made : List Primitive}
    {link : Link R}
    (conversation : Conversation base made link.messages)
    {blueprint : Blueprint R}
    {primitive : Primitive}
    (active : primitive.active = blueprint.isActive)
    (created : primitive.node ≠ .destination)
    (fresh : ∀ other ∈ made, other.node ≠ primitive.node)
    (arguments : List (Value R)) :
    Conversation base (primitive :: made)
      (link.announced (primitive.node.address base) blueprint
        arguments).messages := by
  cases isActive : blueprint.isActive with
  | false =>
      have silent : Link.harmonics? blueprint = none := by
        cases blueprint with
        | oscillator waveform frequency gain => cases isActive
        | _ => rfl
      simp only [Link.announced, isActive, Bool.false_eq_true, if_false, silent]
      exact conversation.leave (active.trans isActive) created fresh
  | true =>
      have begun := conversation.create arguments (active.trans isActive) created
        fresh
      have described : Link.messages (link.delivered
          (primitive.node.address base ++ "/create") arguments) =
            link.messages ++
              [(primitive.node.address base ++ "/create", arguments)] :=
        Link.messages_delivered _ _ _
      cases blueprint with
      | oscillator waveform frequency gain =>
          simp only [Link.announced, Blueprint.isActive, if_true,
            Link.harmonics?]
          split
          next amplitudes harmonics =>
              split at harmonics
              · obtain rfl := Option.some.inj harmonics
                rw [Link.messages_delivered, described]
                exact begun.wave _ List.mem_cons_self (active.trans isActive)
              · cases harmonics
          next =>
              rw [described]
              exact begun
      | _ =>
          simp only [Link.announced, isActive, if_true, Link.harmonics?]
          rw [described]
          exact begun

namespace Stage

/-- What becomes of a stage of whose engine nothing is asked but to create nodes and
to carry out commands for active ones, with the roster of the nodes. -/
inductive Course (opened : Stage R) : List Primitive → Stage R → Prop
  | opened : Course opened [] opened
  | created {made : List Primitive} {stage final : Stage R}
      {blueprint : Blueprint R} {primitive : Primitive} :
      Course opened made stage →
        (create blueprint).Reaches stage primitive final →
        Course opened (primitive :: made) final
  | commanded {made : List Primitive} {stage : Stage R} {primitive : Primitive}
      {command : Command R} :
      Course opened made stage → primitive ∈ made → primitive.active = true →
        command.IsFor primitive →
        (∀ node inlet, command = .connect node inlet → inlet.Within made) →
        Course opened made ((perform command).run stage).2
  | beside {made : List Primitive} {stage final : Stage R} :
      Course opened made stage → final.engine = stage.engine →
        Course opened made final

/-! ## Courses over a link -/

/-- A stage on a link whose messages make a conversation. -/
structure Converses (base : String) (made : List Primitive)
    (stage : Stage R) (link : Link R) : Prop where
  engine_eq : stage.engine = .link link
  base_eq : link.base = base
  reachable : link.outage = fun _ => none
  numbered : ∀ primitive ∈ made, ∃ kind number,
    primitive.node = .created kind number ∧ number < link.issued
  conversation : Conversation base made link.messages

theorem run_create_of_link
    {stage : Stage R}
    {link : Link R}
    (onLink : stage.engine = .link link)
    (blueprint : Blueprint R) :
    (create blueprint).run stage =
      (((Link.create blueprint).run link).1,
        { stage with engine := .link ((Link.create blueprint).run link).2 }) := by
  simp [create, onEngine, Session.within, Engine.create, onLink]

theorem run_perform_of_link
    {stage : Stage R}
    {link : Link R}
    (onLink : stage.engine = .link link)
    (command : Command R) :
    (perform command).run stage =
      (((Link.perform command).run link).1,
        { stage with engine := .link ((Link.perform command).run link).2 }) := by
  simp [perform, onEngine, Session.within, Engine.perform, onLink]

namespace Converses

variable {base : String} {made : List Primitive} {stage : Stage R} {link : Link R}

theorem created
    (converses : Converses base made stage link)
    {blueprint : Blueprint R}
    {primitive : Primitive}
    {final : Stage R}
    (reaches : (create blueprint).Reaches stage primitive final) :
    primitive.active = blueprint.isActive ∧
      ∃ answered, Converses base (primitive :: made) final answered := by
  obtain ⟨outcome, rfl⟩ := reaches
  rw [run_create_of_link converses.engine_eq] at outcome ⊢
  obtain ⟨arguments, described, rfl, answered⟩ :=
    Link.reaches_create converses.reachable ⟨outcome, rfl⟩
  have created : Node.created blueprint.kind link.issued ≠ .destination := nofun
  have fresh (other : Primitive) (member : other ∈ made) :
      other.node ≠ .created blueprint.kind link.issued := by
    obtain ⟨kind, number, node, earlier⟩ := converses.numbered other member
    rw [node]
    rintro ⟨⟩
    exact Nat.lt_irrefl _ earlier
  have issued : (((Link.create blueprint).run link).2).issued =
      link.issued + 1 := by
    rw [answered, Link.issued_announced]
  refine ⟨rfl, _, rfl, ?_, ?_, ?_, ?_⟩
  · rw [answered, Link.base_announced]
    exact converses.base_eq
  · rw [answered, Link.outage_announced]
    exact converses.reachable
  · intro other member
    rw [issued]
    rcases List.mem_cons.1 member with rfl | earlier
    · exact ⟨_, _, rfl, Nat.lt_succ_self _⟩
    · obtain ⟨kind, number, node, before⟩ := converses.numbered other earlier
      exact ⟨kind, number, node, Nat.lt_succ_of_lt before⟩
  · rw [answered, converses.base_eq]
    apply Conversation.announced
    · exact converses.conversation
    · rfl
    · exact created
    · exact fresh

theorem commanded
    (converses : Converses base made stage link)
    {primitive : Primitive}
    (member : primitive ∈ made)
    (active : primitive.active = true)
    {command : Command R}
    (own : command.IsFor primitive)
    (within : ∀ node inlet, command = .connect node inlet →
      inlet.Within made) :
    ∃ answered,
      Converses base made ((perform command).run stage).2 answered := by
  rw [run_perform_of_link converses.engine_eq]
  cases understood : Link.message link.base command with
  | error failure =>
      have ignored : ((Link.perform command).run link).2 = link := by
        rw [Link.perform, Session.run_get_bind, understood]
        simp [Session.run_bind_eq, Session.liftM_attempt, Logged.ofAttempt]
      exact ⟨_, rfl, by rw [ignored]; exact converses.base_eq,
        by rw [ignored]; exact converses.reachable,
        by rw [ignored]; exact converses.numbered,
        by rw [ignored]; exact converses.conversation⟩
  | ok message =>
      obtain ⟨address, arguments⟩ := message
      rw [Link.run_perform converses.reachable understood]
      rw [converses.base_eq] at understood
      refine ⟨_, rfl, converses.base_eq, converses.reachable,
        converses.numbered, ?_⟩
      rw [Link.messages_delivered]
      exact converses.conversation.command member active own within understood

end Converses

theorem Course.converses
    {clock : R}
    {timebase : Timebase R}
    {realtime : Bool}
    {base : String}
    {host : Option String}
    {portNumber : Option Int}
    {made : List Primitive}
    {stage : Stage R}
    (course : Course (openLink clock timebase realtime base host portNumber
      fun _ => none).2 made stage) :
    ∃ link, Converses base made stage link := by
  induction course with
  | opened =>
      exact ⟨_, engine_openLink clock timebase realtime host portNumber, rfl, rfl,
        nofun, .reset⟩
  | created _ reaches hypothesis =>
      obtain ⟨link, converses⟩ := hypothesis
      exact (converses.created reaches).2
  | commanded _ member active own within hypothesis =>
      obtain ⟨link, converses⟩ := hypothesis
      exact converses.commanded member active own within
  | beside _ same hypothesis =>
      obtain ⟨link, converses⟩ := hypothesis
      exact ⟨link, { converses with
        engine_eq := same.trans converses.engine_eq }⟩

/-! ## Courses of instruments -/

/-- The course of a stage accounts for some primitives: they are on its roster. -/
def Accounts (opened : Stage R) (known : List Primitive) (stage : Stage R) :
    Prop :=
  ∃ made, Course opened made stage ∧ ∀ primitive ∈ known, primitive ∈ made

section

variable {opened : Stage R} {known : List Primitive}

theorem Accounts.beside
    {stage final : Stage R}
    (accounts : Accounts opened known stage)
    (same : final.engine = stage.engine) :
    Accounts opened known final := by
  obtain ⟨made, course, members⟩ := accounts
  exact ⟨made, course.beside same, members⟩

theorem Accounts.mono
    {stage : Stage R}
    (accounts : Accounts opened known stage)
    {fewer : List Primitive}
    (subset : ∀ primitive ∈ fewer, primitive ∈ known) :
    Accounts opened fewer stage := by
  obtain ⟨made, course, members⟩ := accounts
  exact ⟨made, course, fun primitive member =>
    members primitive (subset primitive member)⟩

theorem keeps_accounts_perform
    {primitive : Primitive}
    (member : primitive ∈ known)
    (active : primitive.active = true)
    {command : Command R}
    (own : command.IsFor primitive)
    (within : ∀ node inlet, command = .connect node inlet →
      inlet.Within known) :
    (perform command).Keeps (Session.Maintains (Accounts opened known)) := by
  rintro stage ⟨made, course, members⟩
  exact ⟨made, course.commanded (members primitive member) active own
    fun node inlet same => (within node inlet same).mono members, members⟩

theorem keeps_accounts_told
    {primitive : Primitive}
    (member : primitive ∈ known)
    {command : Node → Command R}
    (own : (command primitive.node).IsFor primitive)
    (within : ∀ node inlet, command primitive.node = .connect node inlet →
      inlet.Within known) :
    (performAll (primitive.told command)).Keeps
      (Session.Maintains (Accounts opened known)) := by
  unfold Primitive.told
  split
  next active =>
      simpa [performAll] using keeps_accounts_perform member active own within
  next => exact (Session.keeps_rules _).pure _

end

end Stage

namespace Instrument

variable {opened : Stage R} {known : List Primitive} {instrument : Instrument R}

/-- A write to a socket of a target is commanded of an own, active primitive. -/
theorem keeps_accounts_write
    (members : ∀ primitive ∈ instrument.primitives, primitive ∈ known)
    {target : Target}
    {socket : Socket}
    (found : instrument.socket? target = some socket)
    {command : Command R}
    (own : command.target = socket.node)
    (channel : command.channel = .write socket.parameter) :
    (Stage.perform command).Keeps
      (Session.Maintains (Stage.Accounts opened known)) := by
  obtain ⟨primitive, member, active, present, node⟩ := exists_of_socket? found
  refine Stage.keeps_accounts_perform (members primitive member) active
    ⟨own.trans node, ?_⟩ ?_
  · intro parameter written
    obtain rfl := Channel.write.inj (channel.symm.trans written)
    exact present
  · rintro node inlet rfl
    cases channel

/-- All that an instrument does is commanded of its own, active primitives. -/
theorem accounts_rules
    (members : ∀ primitive ∈ instrument.primitives, primitive ∈ known) :
    OwnRules instrument (fun _ => True) fun _ session =>
      session.Keeps (Session.Maintains (Stage.Accounts opened known)) where
  toRules := Session.keeps_rules _
  look _ continued := Session.keeps_get_bind continued
  isPlaying := Session.keeps_get_bind fun _ => (Session.keeps_rules _).pure _
  setPlaying _ := Session.keeps_modify fun _ accounts => accounts.beside rfl
  start primitive member := by
    rw [Stage.start_eq]
    exact Stage.keeps_accounts_told (members primitive member) ⟨rfl, nofun⟩ nofun
  stop primitive member time := by
    rw [Stage.stop_eq]
    exact Stage.keeps_accounts_told (members primitive member) ⟨rfl, nofun⟩ nofun
  set target socket found value time _ :=
    keeps_accounts_write members found rfl rfl
  ramp target socket found value time _ :=
    keeps_accounts_write members found rfl rfl
  least := trivial

end Instrument

namespace Stage

section

variable {clock : R} {timebase : Timebase R} {realtime : Bool} {base : String}
variable {host : Option String} {portNumber : Option Int}

/-- While an instrument is built over a link, all that is created for it is put on the
roster, whether or not the instrument is refused. -/
theorem accounts_rules :
    BuildRules (Accounts (openLink clock timebase realtime base host portNumber
      fun _ => none).2) where
  perm same := fun ⟨made, course, members⟩ =>
    ⟨made, course, fun primitive member =>
      members primitive (same.mem_iff.2 member)⟩
  create known blueprint := by
    rintro stage ⟨made, course, members⟩
    obtain ⟨link, converses⟩ := course.converses
    split
    next primitive outcome =>
        have reaches : (create blueprint).Reaches stage primitive _ :=
          ⟨outcome, rfl⟩
        refine ⟨(converses.created reaches).1, primitive :: made,
          course.created reaches, ?_⟩
        exact List.forall_mem_cons.2 ⟨List.mem_cons_self,
          fun other inside => List.mem_cons_of_mem _ (members other inside)⟩
    next failure outcome =>
        refine ⟨made, course.beside ?_, members⟩
        rw [run_create_of_link converses.engine_eq] at outcome ⊢
        have unchanged := link.ensures_create blueprint link rfl
        rw [outcome] at unchanged
        rw [unchanged]
        exact converses.engine_eq.symm
  connect known primitive member inlet within := by
    rw [connect_eq]
    refine keeps_accounts_told member ⟨rfl, nofun⟩ ?_
    rintro node other ⟨⟩
    exact within

/-- What becomes of a stage on a link since it was opened is a course, which accounts
for the primitives of all instruments that were built. -/
theorem History.accounts
    {known : List (Instrument R)}
    {stage : Stage R}
    (history : History (openLink clock timebase realtime base host portNumber
      fun _ => none).2 known stage) :
    Accounts (openLink clock timebase realtime base host portNumber
      fun _ => none).2 (known.flatMap Instrument.primitives) stage := by
  induction history with
  | opened => exact ⟨[], .opened, by simp⟩
  | @turned known more stage final history turn accounts =>
      have drops (more : List Primitive) (stage : Stage R)
          (accounts : Accounts (openLink clock timebase realtime base host
            portNumber fun _ => none).2
              (more ++ known.flatMap Instrument.primitives) stage) :=
        accounts.mono fun _ member => List.mem_append_right more member
      have made (configuration : Value R) (options : Entries R) :=
        accounts_rules.ensures_make drops configuration options
      cases turn with
      | built reaches =>
          obtain ⟨-, last, accounted, numbered⟩ :=
            (made _ _).of_reaches accounts reaches
          obtain ⟨-, rfl⟩ := numbered
          exact accounted.beside rfl
      | @refused configuration options _ outcome =>
          have left := made configuration options stage accounts
          rw [outcome] at left
          exact left
      | stepped step member =>
          refine (Instrument.accounts_rules fun primitive inside => ?_).step
            (fun clock => Session.keeps_modify fun _ accounts =>
              accounts.beside rfl)
            (keeps_advance fun clock => Session.keeps_modify fun _ accounts =>
              accounts.beside rfl) step stage accounts
          exact List.mem_flatMap.2 ⟨_, member, inside⟩
      | clocked reading => exact accounts.beside rfl

end

end Stage

namespace Ensemble

/-- Whatever the history of an ensemble over a link is, refused instruments and
refused performances included: its course accounts for all primitives of the
instruments that were built, and whatever the course is, the messages are in order.
Each active node is created once, and under an address of its own, before anything is
told to it, written to it, or connected to it, and nothing ever refers to an inactive
one. -/
theorem messages_are_orderly
    {clock : R}
    {timebase : Timebase R}
    {realtime : Bool}
    {base : String}
    {host : Option String}
    {portNumber : Option Int}
    {known : List (Instrument R)}
    {ensemble : Ensemble R}
    (history : History (Stage.openLink clock timebase realtime base host
      portNumber fun _ => none).2 known ensemble) :
    ∃ link, ensemble.stage.engine = .link link ∧
      Stage.Accounts (Stage.openLink clock timebase realtime base host portNumber
        fun _ => none).2 (known.flatMap Instrument.primitives) ensemble.stage ∧
      ∀ made, Stage.Course (Stage.openLink clock timebase realtime base host
        portNumber fun _ => none).2 made ensemble.stage →
          Orderly base made link.messages := by
  have accounts := history.onStage.1.accounts
  obtain ⟨made, course, members⟩ := accounts
  obtain ⟨link, converses⟩ := course.converses
  refine ⟨link, converses.engine_eq, ⟨made, course, members⟩,
    fun roster other => ?_⟩
  obtain ⟨same, conversing⟩ := other.converses
  have links := converses.engine_eq.symm.trans conversing.engine_eq
  obtain rfl := Engine.link.inj links
  exact conversing.conversation.orderly

/-- What is asked for over a link: a modulated voice, another one that is refused when
its nodes are there already, and two performances, of which one is refused. -/
def linkedRequests : List (Request Float) :=
  [.make (.map [(.text "lfos", .map [(.text "osc.gain", .map [])])]) [],
    .save (.text "lead"),
    .make (.map [(.text "lfos", .map [(.text "osc.mood", .map [])])]) [],
    .melodies (storeNote "drone" [(.text "note", .text "A")]),
    .melodies (storeNote "broken"
      [(.text "note", .text "A"), (.text "duration", .text "long")]),
    .play (.map [(.text "lead", .text "drone")]) (.int 2) false,
    .play (.map [(.text "lead", .text "broken")]) (.int 1) false]

/-- An ensemble over a link that waits. -/
def linked : Ensemble Float :=
  ((handleAll linkedRequests).run
    (onStageOf (Stage.openLink 2.0 .manual true "/voices" none none
      fun _ => none).2)).2

theorem messages_of_linked_are_orderly :
    ∃ known link,
      History (Stage.openLink 2.0 .manual true "/voices" none none
        fun _ => none).2 known linked ∧
      linked.stage.engine = .link link ∧
      Stage.Accounts (Stage.openLink 2.0 .manual true "/voices" none none
        fun _ => none).2 (known.flatMap Instrument.primitives) linked.stage ∧
      ∀ made, Stage.Course (Stage.openLink 2.0 .manual true "/voices" none none
        fun _ => none).2 made linked.stage →
          Orderly "/voices" made link.messages := by
  have byName : ∀ request ∈ linkedRequests, request.IsByName := by
    simp [linkedRequests, Request.IsByName]
  obtain ⟨known, history⟩ : ∃ known, History (Stage.openLink 2.0 .manual true
      "/voices" none none fun _ => none).2 known linked :=
    exists_history _ byName
  obtain ⟨link, messages⟩ := messages_are_orderly history
  exact ⟨known, link, history, messages⟩

end Ensemble
end MelodyAutomation

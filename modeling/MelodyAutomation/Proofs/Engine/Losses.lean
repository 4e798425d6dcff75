import MelodyAutomation.Engine
import MelodyAutomation.Proofs.Engine.Conversation
import MelodyAutomation.Proofs.SessionRules

/-!
# Lost messages

A message that is not delivered is reported, and this is all that comes of it. To see
this a session is run twice, over a link with outages and over one without any. A session
weathers the losses when both runs have the same outcome, the links go on alike, and the
first run reports what the second one does and, in order, one warning for each message
that was lost. Sequences and attempts of sessions that weather losses do so as well.
-/

namespace MelodyAutomation

variable {R : Type}

/-! ## Warnings -/

/-- What is reported over a link with outages is what is reported over one without, and
in between a warning for every reason in a list, in order. -/
inductive Gains : List String → List (Notice R) → List (Notice R) → Prop
  | nil : Gains [] [] []
  | both {reasons : List String} {lossy sound : List (Notice R)}
      (notice : Notice R) :
      Gains reasons lossy sound →
        Gains reasons (notice :: lossy) (notice :: sound)
  | warned {reasons : List String} {lossy sound : List (Notice R)}
      (reason : String) :
      Gains reasons lossy sound →
        Gains (reason :: reasons) (.sendFailed reason :: lossy) sound

namespace Gains

variable {reasons more : List String} {lossy sound : List (Notice R)}

theorem refl (notices : List (Notice R)) : Gains [] notices notices := by
  induction notices with
  | nil => exact .nil
  | cons notice rest hypothesis => exact .both notice hypothesis

theorem append
    {lossyLater soundLater : List (Notice R)}
    (gains : Gains reasons lossy sound)
    (later : Gains more lossyLater soundLater) :
    Gains (reasons ++ more) (lossy ++ lossyLater) (sound ++ soundLater) := by
  induction gains with
  | nil => exact later
  | both notice _ hypothesis => exact .both notice hypothesis
  | warned reason _ hypothesis => exact .warned reason hypothesis

/-- Other parts of the library report the same. -/
theorem filter_eq (gains : Gains reasons lossy sound) :
    (lossy.filter fun notice => notice.source ≠ .link) =
      sound.filter fun notice => notice.source ≠ .link := by
  induction gains with
  | nil => rfl
  | both notice _ hypothesis =>
      rw [List.filter_cons, List.filter_cons, hypothesis]
  | warned reason _ hypothesis =>
      rw [List.filter_cons, hypothesis]
      rfl

end Gains

/-! ## Sessions -/

namespace Session

variable {S T α β : Type}

/-- A session run on a state with outages goes as it does on a related state without
any, but for a warning about every loss. -/
def Weathers (rel : S → S → Prop) (losses : S → List String)
    (session : Session S R α) : Prop :=
  ∀ lossy sound, rel lossy sound →
    (session.run lossy).1.outcome = (session.run sound).1.outcome ∧
    rel (session.run lossy).2 (session.run sound).2 ∧
    ∃ lost,
      losses (session.run lossy).2 = losses lossy ++ lost ∧
      Gains lost (session.run lossy).1.notices (session.run sound).1.notices

variable {rel : S → S → Prop} {losses : S → List String}

theorem weathers_modify
    {change : S → S}
    (keeps : ∀ lossy sound, rel lossy sound → rel (change lossy) (change sound))
    (unlost : ∀ state, losses (change state) = losses state) :
    (modify change : Session S R PUnit).Weathers rel losses :=
  fun lossy sound related =>
    ⟨rfl, keeps lossy sound related, [], by
      rw [List.append_nil]; exact unlost lossy, .nil⟩

/-- What is looked up in the state may decide how a session goes on, when related
states decide it alike. -/
theorem weathers_get_bind
    {next : S → Session S R α}
    (alike : ∀ lossy sound, rel lossy sound → next lossy = next sound)
    (continued : ∀ state, (next state).Weathers rel losses) :
    ((get : Session S R S) >>= next).Weathers rel losses := by
  intro lossy sound related
  rw [run_get_bind, run_get_bind, alike lossy sound related]
  exact continued sound lossy sound related

theorem weathers_logged (logged : Logged R α) :
    (ofLogged logged : Session S R α).Weathers rel losses :=
  fun _ _ related =>
    ⟨rfl, related, [], (List.append_nil _).symm, .refl logged.notices⟩

/-- A session goes on only with results that its first part can come to. -/
theorem weathers_bind_of_reaches
    {first : Session S R α}
    {next : α → Session S R β}
    (weathers : first.Weathers rel losses)
    (continued : ∀ value,
      (∃ state reached, first.Reaches state value reached) →
        (next value).Weathers rel losses) :
    (first >>= next).Weathers rel losses := by
  intro lossy sound related
  obtain ⟨same, reached, lost, before, gains⟩ := weathers lossy sound related
  rw [run_bind_eq, run_bind_eq, same]
  cases outcome : (first.run sound).1.outcome with
  | error failure => exact ⟨rfl, reached, lost, before, gains⟩
  | ok value =>
      obtain ⟨sameNext, final, more, after, gainsMore⟩ :=
        continued value ⟨sound, _, outcome, rfl⟩ _ _ reached
      refine ⟨by simpa using sameNext, final, lost ++ more, ?_, ?_⟩
      · rw [after, before, List.append_assoc]
      · simpa using gains.append gainsMore

theorem weathers_rules (rel : S → S → Prop) (losses : S → List String) :
    Rules (R := R) fun _ session => session.Weathers rel losses where
  ofLogged := weathers_logged
  bind weathers continued :=
    weathers_bind_of_reaches weathers fun value _ => continued value
  logged_bind {_ _ logged _} continued := by
    refine weathers_bind_of_reaches (weathers_logged logged) fun value reached => ?_
    obtain ⟨_, _, outcome, -⟩ := reached
    exact continued value outcome
  attempt := by
    intro α session weathers lossy sound related
    obtain ⟨same, reached, lost, before, gains⟩ := weathers lossy sound related
    exact ⟨congrArg Except.ok same, reached, lost, before, gains⟩

/-- An operation on a part weathers losses on the whole. -/
theorem Weathers.within
    {view : S → T}
    {put : T → S → S}
    {relOf : T → T → Prop}
    {lossesOf : T → List String}
    {session : Session T R α}
    (weathers : session.Weathers relOf lossesOf)
    (ofWhole : ∀ lossy sound, rel lossy sound → relOf (view lossy) (view sound))
    (ofParts : ∀ lossy sound part other, rel lossy sound → relOf part other →
      rel (put part lossy) (put other sound))
    (lossesView : ∀ state, lossesOf (view state) = losses state)
    (lossesPut : ∀ part state, losses (put part state) = lossesOf part) :
    (within view put session).Weathers rel losses := by
  intro lossy sound related
  obtain ⟨same, reached, lost, after, gains⟩ :=
    weathers _ _ (ofWhole lossy sound related)
  refine ⟨same, ofParts _ _ _ _ related reached, lost, ?_, gains⟩
  exact (lossesPut _ _).trans (after.trans (by rw [lossesView]))

/-- An operation on a part that is the same on both sides weathers losses. -/
theorem weathers_within_of_eq
    {view : S → T}
    {put : T → S → S}
    (session : Session T R α)
    (same : ∀ lossy sound, rel lossy sound → view lossy = view sound)
    (keeps : ∀ lossy sound part, rel lossy sound →
      rel (put part lossy) (put part sound))
    (unlost : ∀ part state, losses (put part state) = losses state) :
    (within view put session).Weathers rel losses := by
  intro lossy sound related
  have ran (state : S) : (within view put session).run state =
      ((session.run (view state)).1,
        put (session.run (view state)).2 state) := rfl
  rw [ran, ran, same lossy sound related]
  exact ⟨rfl, keeps _ _ _ related, [],
    (unlost _ _).trans (List.append_nil _).symm, .refl _⟩

end Session

/-! ## Links -/

/-- Why messages were not delivered, in the order in which they were sent: for every one
that was lost, the reason that the outage had in view of what was sent before it. -/
def Outage.losses (outage : Outage R) : List (Transmission R) → List String
  | [] => []
  | _ :: earlier => outage.losses earlier ++ (outage earlier).toList

namespace Link

/-- Why messages were not delivered over a link. -/
def losses (link : Link R) : List String := link.outage.losses link.latest

/-- Two links have given the same numbers and sent the same messages, whether or not they
were delivered. The first one has some outages and lost what it did not deliver, the
second one has none. -/
structure Alike (outage : Outage R) (lossy sound : Link R) : Prop where
  base_eq : lossy.base = sound.base
  issued_eq : lossy.issued = sound.issued
  messages_eq : lossy.messages = sound.messages
  outage_eq : lossy.outage = outage
  undelivered : lossy.losses.length =
    lossy.latest.countP fun sent => !sent.delivered
  reachable : sound.outage = fun _ => none

variable (outage : Outage R)

theorem weathers_send (address : String) (arguments : List (Value R)) :
    (send address arguments).Weathers (Alike outage) losses := by
  intro lossy sound alike
  refine ⟨rfl, ⟨alike.base_eq, alike.issued_eq, ?_, alike.outage_eq, ?_,
    alike.reachable⟩, (lossy.outage lossy.latest).toList, rfl, ?_⟩
  · simpa [messages, transmissions_send] using alike.messages_eq
  · change (lossy.losses ++ (lossy.outage lossy.latest).toList).length = _
    rw [List.length_append, alike.undelivered]
    cases failure : lossy.outage lossy.latest <;> simp [send, failure]
  · simp only [send, alike.reachable]
    cases lossy.outage lossy.latest with
    | none => exact .nil
    | some reason => exact .warned reason .nil

theorem weathers_takeNumber :
    (takeNumber : Session (Link R) R Nat).Weathers (Alike outage) losses :=
  fun _ _ alike =>
    ⟨congrArg Except.ok alike.issued_eq,
      ⟨alike.base_eq, congrArg (· + 1) alike.issued_eq, alike.messages_eq,
        alike.outage_eq, alike.undelivered, alike.reachable⟩,
      [], (List.append_nil _).symm, .nil⟩

theorem weathers_start (host : Option String) (portNumber : Option Int) :
    (start host portNumber : Session (Link R) R Unit).Weathers (Alike outage)
      losses := by
  have rules := Session.weathers_rules (R := R) (Alike outage) losses
  refine Session.weathers_get_bind (fun _ _ alike => by rw [alike.base_eq])
    fun link => ?_
  exact rules.bind (weathers_send outage _ _) fun _ => rules.report _

theorem weathers_close :
    (close : Session (Link R) R Unit).Weathers (Alike outage) losses := by
  have rules := Session.weathers_rules (R := R) (Alike outage) losses
  refine Session.weathers_get_bind (fun _ _ alike => by rw [alike.base_eq])
    fun link => ?_
  exact rules.bind (weathers_send outage _ _) fun _ => rules.report _

variable [Scalar R]

theorem weathers_create (blueprint : Blueprint R) :
    (create blueprint).Weathers (Alike outage) losses := by
  have rules := Session.weathers_rules (R := R) (Alike outage) losses
  have sends := weathers_send outage
  refine rules.attempt_bind fun arguments _ => ?_
  refine rules.bind (weathers_takeNumber outage) fun number => ?_
  refine Session.weathers_get_bind (fun _ _ alike => by simp only [alike.base_eq])
    fun link => ?_
  have named (primitive : Primitive) :
      (pure primitive : Session (Link R) R Primitive).Weathers (Alike outage)
        losses :=
    rules.pure primitive
  -- Whether anything is sent, and how much, is decided by the blueprint alone.
  cases harmonics? blueprint <;> dsimp only <;> split
  · exact rules.bind (sends _ _) fun _ => named _
  · exact named _
  · exact rules.bind (sends _ _) fun _ => rules.bind (sends _ _) fun _ => named _
  · exact rules.bind (sends _ _) fun _ => named _

theorem weathers_perform (command : Command R) :
    (perform command).Weathers (Alike outage) losses := by
  have rules := Session.weathers_rules (R := R) (Alike outage) losses
  refine Session.weathers_get_bind (fun _ _ alike => by rw [alike.base_eq])
    fun link => ?_
  exact rules.attempt_bind fun message _ => weathers_send outage _ _

end Link

/-! ## Engines -/

namespace Engine

/-- Two engines are alike when they are links that are. -/
def Alike (outage : Outage R) (lossy sound : Engine R) : Prop :=
  ∃ own other, lossy = .link own ∧ sound = .link other ∧
    Link.Alike outage own other

/-- Why messages were not delivered to an engine; a tape loses none. -/
def losses : Engine R → List String
  | tape _ => []
  | link own => own.losses

/-- An engine weathers losses where it does what a link does that weathers them. -/
theorem weathers_ofLink
    {α : Type}
    {outage : Outage R}
    {operation : Session (Engine R) R α}
    {own : Session (Link R) R α}
    (weathers : own.Weathers (Link.Alike outage) Link.losses)
    (run : ∀ link : Link R,
      operation.run (.link link) = ((own.run link).1, .link (own.run link).2)) :
    operation.Weathers (Alike outage) losses := by
  rintro _ _ ⟨lossy, sound, rfl, rfl, alike⟩
  rw [run, run]
  obtain ⟨same, reached, lost, after, gains⟩ := weathers lossy sound alike
  exact ⟨same, ⟨_, _, rfl, rfl, reached⟩, lost, after, gains⟩

end Engine
end MelodyAutomation

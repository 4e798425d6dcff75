import MelodyAutomation.Proofs.SessionRules

/-!
# Contracts for sessions

What a run leaves, from a state of which something is known. `Maintains` makes a
frame of a property: a run that starts with it ends with it. `Ensures` is a
contract: what holds at the end of a run depends on its result, and something may
hold even of a run that was refused.
-/

namespace MelodyAutomation
namespace Session

variable {S R α β : Type}

/-! ## Invariants -/

/-- What holds before also holds after. -/
def Maintains (invariant : S → Prop) (before after : S) : Prop :=
  invariant before → invariant after

instance (invariant : S → Prop) : IsPreorder S (Maintains invariant) where
  refl _ holds := holds
  trans _ _ _ first second holds := second (first holds)

/-- An attempt is never refused, whatever becomes of what is attempted. -/
theorem completes_attempt
    {safe : S → Prop}
    {session : Session S R α}
    (keeps : session.Keeps (Maintains safe)) :
    session.attempt.Completes safe :=
  fun state holds => ⟨_, _, ⟨rfl, rfl⟩, keeps state holds⟩

/-- What follows an operation that comes to a result is run where it ends. -/
theorem Reaches.run_bind
    {first : Session S R α}
    {state reached : S}
    {value : α}
    (reaches : first.Reaches state value reached)
    (next : α → Session S R β) :
    ((first >>= next).run state).1.outcome =
        ((next value).run reached).1.outcome ∧
      ((first >>= next).run state).2 = ((next value).run reached).2 := by
  obtain ⟨outcome, rfl⟩ := reaches
  rw [run_bind_eq, outcome]
  simp

/-- The outcome of a sequence is the sequence of the outcomes. -/
theorem outcome_bind
    (first : Session S R α)
    (next : α → Session S R β)
    (state : S) :
    ((first >>= next).run state).1.outcome =
      (first.run state).1.outcome >>= fun value =>
        ((next value).run (first.run state).2).1.outcome := by
  rw [run_bind_eq]
  cases (first.run state).1.outcome with
  | ok value => exact Logged.outcome_after _ _
  | error failure => rfl

/-- An attempt comes first, and leaves the state alone. -/
theorem outcome_attempt_bind
    (attempt : Attempt R α)
    (next : α → Session S R β)
    (state : S) :
    ((liftM attempt >>= next : Session S R β).run state).1.outcome =
      attempt >>= fun value => ((next value).run state).1.outcome :=
  outcome_bind _ next state

/-- What each of many operations establishes, and none of them undoes, holds in the
end. -/
theorem Reaches.forM
    {body : α → Session S R PUnit}
    {items : List α}
    (holds : α → S → Prop)
    (keeps : ∀ item other, (body item).Keeps (Maintains (holds other)))
    (establishes : ∀ item state final,
      (body item).Reaches state ⟨⟩ final → holds item final)
    {state final : S}
    (reaches : (items.forM body).Reaches state ⟨⟩ final) :
    ∀ item ∈ items, holds item final := by
  induction items generalizing state with
  | nil => exact List.forall_mem_nil _
  | cons item rest hypothesis =>
      obtain ⟨⟨⟩, middle, first, others⟩ := reaches_bind.1 reaches
      have later : (rest.forM body).Keeps (Maintains (holds item)) :=
        (keeps_rules _).forM fun other _ => keeps other item
      exact List.forall_mem_cons.2
        ⟨later.of_reaches others (establishes item state middle first),
          hypothesis others⟩

/-! ## Contracts -/

/-- A run from a state with one property leaves a state with another one, which
depends on the result, or, if it is refused, one with a property of its own. -/
def Ensures
    (before : S → Prop)
    (session : Session S R α)
    (after : α → S → Prop)
    (refused : S → Prop) : Prop :=
  ∀ state, before state →
    match (session.run state).1.outcome with
    | .ok result => after result (session.run state).2
    | .error _ => refused (session.run state).2

variable {before refused : S → Prop}

/-- What a run that came to a result has ensured. -/
theorem Ensures.of_reaches
    {session : Session S R α}
    {after : α → S → Prop}
    (ensures : session.Ensures before after refused)
    {state final : S}
    {result : α}
    (holds : before state)
    (reaches : session.Reaches state result final) :
    after result final := by
  obtain ⟨outcome, rfl⟩ := reaches
  have ensured := ensures state holds
  rwa [outcome] at ensured

/-- What a run has ensured in any case. -/
theorem Ensures.of_run
    {session : Session S R α}
    {after : α → S → Prop}
    (ensures : session.Ensures before after refused)
    {always : S → Prop}
    (ofResult : ∀ result state, after result state → always state)
    (ofRefused : ∀ state, refused state → always state)
    {state : S}
    (holds : before state) :
    always (session.run state).2 := by
  have ensured := ensures state holds
  split at ensured
  · exact ofResult _ _ ensured
  · exact ofRefused _ ensured

theorem ensures_pure
    {value : α}
    {after : α → S → Prop}
    (holds : ∀ state, before state → after value state) :
    (pure value : Session S R α).Ensures before after refused :=
  holds

theorem ensures_throw
    {failure : Failure R}
    {after : α → S → Prop}
    (holds : ∀ state, before state → refused state) :
    (throw failure : Session S R α).Ensures before after refused :=
  holds

theorem ensures_report
    {notice : Notice R}
    (before refused : S → Prop) :
    (report notice : Session S R Unit).Ensures before (fun _ => before)
      refused :=
  fun _ holds => holds

theorem Ensures.bind
    {first : Session S R α}
    {next : α → Session S R β}
    {between : α → S → Prop}
    {after : β → S → Prop}
    (ensures : first.Ensures before between refused)
    (continued : ∀ value, (next value).Ensures (between value) after refused) :
    (first >>= next).Ensures before after refused := by
  intro state holds
  have reached := ensures state holds
  rw [run_bind_eq]
  cases outcome : (first.run state).1.outcome with
  | error failure =>
      rw [outcome] at reached
      exact reached
  | ok value =>
      rw [outcome] at reached
      have final := continued value _ reached
      simpa only [Logged.outcome_after] using final

/-- A contract may promise less. -/
theorem Ensures.imp
    {session : Session S R α}
    {after : α → S → Prop}
    (ensures : session.Ensures before after refused)
    {weakerAfter : α → S → Prop}
    {weakerRefused : S → Prop}
    (weakensAfter : ∀ result state, after result state →
      weakerAfter result state)
    (weakensRefused : ∀ state, refused state → weakerRefused state) :
    session.Ensures before weakerAfter weakerRefused := by
  intro state holds
  have ensured := ensures state holds
  split at ensured
  · exact weakensAfter _ _ ensured
  · exact weakensRefused _ ensured

/-- What holds whatever the state is may be taken as a fact. -/
theorem ensures_of_fact
    {fact : Prop}
    {session : Session S R α}
    {after : α → S → Prop}
    (ensures : fact → session.Ensures before after refused) :
    session.Ensures (fun state => fact ∧ before state) after refused :=
  fun state holds => ensures holds.1 state holds.2

/-- A run that keeps an invariant ensures it. -/
theorem Keeps.ensures
    {session : Session S R α}
    {invariant : S → Prop}
    (keeps : session.Keeps (Maintains invariant))
    (weaker : ∀ state, invariant state → refused state) :
    session.Ensures invariant (fun _ => invariant) refused := by
  intro state holds
  split
  · exact keeps state holds
  · exact weaker _ (keeps state holds)

/-- What follows a run that is not refused has to go on only with results that the
run can come to. -/
theorem Completes.ensures_bind
    {first : Session S R α}
    {next : α → Session S R β}
    {after : β → S → Prop}
    (completes : first.Completes before)
    (continued : ∀ value,
      (∃ state reached, first.Reaches state value reached) →
        (next value).Ensures before after refused) :
    (first >>= next).Ensures before after refused := by
  intro state holds
  obtain ⟨value, reached, reaches, between⟩ := completes state holds
  obtain ⟨outcome, final⟩ := reaches.run_bind next
  rw [outcome, final]
  exact continued value ⟨state, reached, reaches⟩ reached between

theorem ensures_logged_bind
    {logged : Logged R α}
    {next : α → Session S R β}
    {after : β → S → Prop}
    (weaker : ∀ state, before state → refused state)
    (continued : ∀ value, logged.outcome = .ok value →
      (next value).Ensures before after refused) :
    (liftM logged >>= next).Ensures before after refused := by
  intro state holds
  rw [run_logged_bind]
  cases outcome : logged.outcome with
  | error failure => exact weaker state holds
  | ok value =>
      have final := continued value outcome state holds
      simpa only [Logged.outcome_after] using final

theorem ensures_attempt_bind
    {attempt : Attempt R α}
    {next : α → Session S R β}
    {after : β → S → Prop}
    (weaker : ∀ state, before state → refused state)
    (continued : ∀ value, attempt = .ok value →
      (next value).Ensures before after refused) :
    (liftM attempt >>= next).Ensures before after refused := by
  change (liftM (Logged.ofAttempt attempt) >>= next).Ensures before after refused
  exact ensures_logged_bind weaker continued

theorem ensures_get_bind
    {next : S → Session S R α}
    {after : α → S → Prop}
    (continued : ∀ state, (next state).Ensures before after refused) :
    ((get : Session S R S) >>= next).Ensures before after refused := by
  intro state holds
  rw [run_get_bind]
  exact continued state state holds

end Session
end MelodyAutomation

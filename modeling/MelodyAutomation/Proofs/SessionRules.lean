import MelodyAutomation.Proofs.Outcome
import Mathlib.Order.Defs.Unbundled

/-!
# Rules for sessions

Ways to reason about sessions without opening their runs. `Reaches` inverts a run
that comes to a result: every operation in it came to one. `Keeps` is a frame: a
run takes every state to one that a preorder relates to it. `Respects` compares
two runs of one session: from related states they have the same outcome and end
in related states. Both pass from the parts of a session to the whole of it, and
`Rules` is what that takes, so that an operation has to be taken apart only once
for all such properties. `Completes` says that nothing in a run is refused.
`Simulates` compares two runs one way only, and lets what relates the final states
depend on the result.
-/

namespace MelodyAutomation
namespace Session

variable {S R α β : Type}

/-! ## Lifted operations -/

theorem liftM_logged (logged : Logged R α) :
    (liftM logged : Session S R α) = ofLogged logged := rfl

theorem liftM_attempt (attempt : Attempt R α) :
    (liftM attempt : Session S R α) = ofLogged (.ofAttempt attempt) := rfl

/-- A sequence by the outcome of its first part. -/
theorem run_bind_eq
    (first : Session S R α)
    (next : α → Session S R β)
    (state : S) :
    (first >>= next).run state =
      match (first.run state).1.outcome with
      | .ok result =>
          (((next result).run (first.run state).2).1.after
              (first.run state).1.notices,
            ((next result).run (first.run state).2).2)
      | .error failure =>
          (⟨.error failure, (first.run state).1.notices⟩,
            (first.run state).2) := by
  rcases ran : first.run state with ⟨⟨outcome, notices⟩, reached⟩
  cases outcome with
  | ok result => rw [run_bind_of_ok ran]
  | error failure => rw [run_bind_of_error ran]

/-- A sequence that begins by looking up the state. -/
theorem run_get_bind (next : S → Session S R α) (state : S) :
    ((get : Session S R S) >>= next).run state = (next state).run state := by
  rw [run_bind_of_ok (show (get : Session S R S).run state =
    (⟨.ok state, []⟩, state) from rfl)]
  simp

/-! ## Runs that come to a result -/

/-- A run from a state comes to a result and leaves a state. -/
def Reaches (session : Session S R α) (state : S) (result : α) (final : S) :
    Prop :=
  (session.run state).1.outcome = .ok result ∧ (session.run state).2 = final

@[simp] theorem reaches_pure {state final : S} {value result : α} :
    (pure value : Session S R α).Reaches state result final ↔
      value = result ∧ state = final := by
  simp [Reaches]

@[simp] theorem reaches_bind
    {first : Session S R α}
    {next : α → Session S R β}
    {state final : S}
    {result : β} :
    (first >>= next).Reaches state result final ↔
      ∃ value reached, first.Reaches state value reached ∧
        (next value).Reaches reached result final := by
  simp only [Reaches]
  rw [run_bind_eq]
  cases (first.run state).1.outcome with
  | ok value => simp
  | error failure => simp

/-- What a sequence reaches is reached by its last part. -/
theorem Reaches.of_bind
    {first : Session S R α}
    {next : α → Session S R β}
    {state final : S}
    {result : β}
    (reaches : (first >>= next).Reaches state result final) :
    ∃ value reached, (next value).Reaches reached result final := by
  obtain ⟨value, reached, -, later⟩ := reaches_bind.1 reaches
  exact ⟨value, reached, later⟩

@[simp] theorem reaches_map
    {function : α → β}
    {session : Session S R α}
    {state final : S}
    {result : β} :
    (function <$> session).Reaches state result final ↔
      ∃ value, session.Reaches state value final ∧
        function value = result := by
  rw [map_eq_pure_bind, reaches_bind]
  simp only [reaches_pure]
  constructor
  · rintro ⟨value, reached, reaches, same, rfl⟩
    exact ⟨value, reaches, same⟩
  · rintro ⟨value, reaches, same⟩
    exact ⟨value, final, reaches, same, rfl⟩

@[simp] theorem reaches_ofLogged
    {logged : Logged R α}
    {state final : S}
    {result : α} :
    (ofLogged logged : Session S R α).Reaches state result final ↔
      logged.outcome = .ok result ∧ state = final := by
  simp [Reaches]

@[simp] theorem reaches_logged
    {logged : Logged R α}
    {state final : S}
    {result : α} :
    (liftM logged : Session S R α).Reaches state result final ↔
      logged.outcome = .ok result ∧ state = final := by
  simp [liftM_logged]

@[simp] theorem reaches_attempt
    {attempt : Attempt R α}
    {state final : S}
    {result : α} :
    (liftM attempt : Session S R α).Reaches state result final ↔
      attempt = .ok result ∧ state = final := by
  simp [liftM_attempt, Logged.ofAttempt]

@[simp] theorem reaches_get {state result final : S} :
    (get : Session S R S).Reaches state result final ↔
      state = result ∧ state = final := by
  simp [Reaches, get, getThe, MonadStateOf.get, Logged.succeed]

@[simp] theorem reaches_modify {change : S → S} {state final : S} :
    (modify change : Session S R PUnit).Reaches state ⟨⟩ final ↔
      change state = final := by
  simp [Reaches, modify, modifyGet, MonadStateOf.modifyGet, Logged.succeed]

@[simp] theorem reaches_report {notice : Notice R} {state final : S} :
    (report notice : Session S R Unit).Reaches state () final ↔
      state = final := by
  simp [report, Logged.report]

@[simp] theorem not_reaches_throw
    {failure : Failure R}
    {state final : S}
    {result : α} :
    ¬ (throw failure : Session S R α).Reaches state result final := by
  simp [Reaches, throw, throwThe, MonadExceptOf.throw, Logged.refuse]

/-- A run that comes to a result comes to no other. -/
theorem Reaches.unique
    {session : Session S R α}
    {state first second : S}
    {left right : α}
    (reachesFirst : session.Reaches state left first)
    (reachesSecond : session.Reaches state right second) :
    left = right ∧ first = second := by
  obtain ⟨ok, rfl⟩ := reachesFirst
  obtain ⟨other, rfl⟩ := reachesSecond
  simpa [ok] using other

@[simp] theorem reaches_within
    {T : Type}
    {view : S → T}
    {put : T → S → S}
    {session : Session T R α}
    {state final : S}
    {result : α} :
    (within view put session).Reaches state result final ↔
      ∃ part, session.Reaches (view state) result part ∧
        put part state = final := by
  simp [Reaches, within]

/-! ## Rules -/

/-- What a property of sessions must satisfy to pass from the parts of a session to
the whole of it. -/
structure Rules (holds : ∀ α : Type, Session S R α → Prop) : Prop where
  ofLogged : ∀ {α : Type} (logged : Logged R α), holds α (.ofLogged logged)
  bind : ∀ {α β : Type} {first : Session S R α} {next : α → Session S R β},
    holds α first → (∀ value, holds β (next value)) → holds β (first >>= next)
  logged_bind : ∀ {α β : Type} {logged : Logged R α}
    {next : α → Session S R β},
    (∀ value, logged.outcome = .ok value → holds β (next value)) →
      holds β (liftM logged >>= next)
  attempt : ∀ {α : Type} {session : Session S R α},
    holds α session → holds (Attempt R α) session.attempt

namespace Rules

variable {holds : ∀ α : Type, Session S R α → Prop}

theorem pure (rules : Rules holds) (value : α) : holds α (pure value) :=
  rules.ofLogged (.succeed value)

theorem report (rules : Rules holds) (notice : Notice R) :
    holds Unit (report notice) :=
  rules.ofLogged _

theorem throw (rules : Rules holds) (failure : Failure R) :
    holds α (throw failure) :=
  rules.ofLogged (.refuse failure)

theorem attempt_bind
    (rules : Rules holds)
    {attempt : Attempt R α}
    {next : α → Session S R β}
    (continued : ∀ value, attempt = .ok value → holds β (next value)) :
    holds β (liftM attempt >>= next) := by
  change holds β (liftM (Logged.ofAttempt attempt) >>= next)
  exact rules.logged_bind continued

theorem forM
    (rules : Rules holds)
    {body : α → Session S R PUnit}
    {items : List α}
    (each : ∀ item ∈ items, holds PUnit (body item)) :
    holds PUnit (items.forM body) := by
  induction items with
  | nil => exact rules.pure _
  | cons item rest hypothesis =>
      exact rules.bind (each item (by simp)) fun _ =>
        hypothesis fun later member => each later (by simp [member])

theorem mapM
    (rules : Rules holds)
    {body : α → Session S R β}
    {items : List α}
    (each : ∀ item ∈ items, holds β (body item)) :
    holds (List β) (items.mapM body) := by
  induction items with
  | nil => exact rules.pure _
  | cons item rest hypothesis =>
      rw [List.mapM_cons]
      refine rules.bind (each item (by simp)) fun value => ?_
      exact rules.bind
        (hypothesis fun later member => each later (by simp [member]))
        fun others => rules.pure _

end Rules

/-- An attempt that succeeds goes on with its result, any other one is refused. -/
theorem run_logged_bind
    (logged : Logged R α)
    (next : α → Session S R β)
    (state : S) :
    ((liftM logged : Session S R α) >>= next).run state =
      match logged.outcome with
      | .ok value =>
          (((next value).run state).1.after logged.notices,
            ((next value).run state).2)
      | .error failure => (⟨.error failure, logged.notices⟩, state) := by
  rw [liftM_logged, run_bind_eq]
  rfl

/-! ## Frames -/

/-- A run takes every state to one that is related to it. -/
def Keeps (step : S → S → Prop) (session : Session S R α) : Prop :=
  ∀ state, step state (session.run state).2

/-- A run that comes to a result goes as every run does. -/
theorem Keeps.of_reaches
    {step : S → S → Prop}
    {session : Session S R α}
    (keeps : session.Keeps step)
    {state final : S}
    {result : α}
    (reaches : session.Reaches state result final) :
    step state final :=
  reaches.2 ▸ keeps state

theorem keeps_modify
    {step : S → S → Prop}
    {change : S → S}
    (keeps : ∀ state, step state (change state)) :
    (modify change : Session S R PUnit).Keeps step :=
  keeps

theorem keeps_within
    {T : Type}
    {step : S → S → Prop}
    {stepOf : T → T → Prop}
    {view : S → T}
    {put : T → S → S}
    {session : Session T R α}
    (keeps : session.Keeps stepOf)
    (lift : ∀ state part, stepOf (view state) part → step state (put part state)) :
    (within view put session).Keeps step :=
  fun state => lift state _ (keeps (view state))

theorem keeps_rules (step : S → S → Prop) [IsPreorder S step] :
    Rules (R := R) fun _ session => session.Keeps step where
  ofLogged _ state := refl state
  bind := by
    intro α β first next keeps continued state
    rw [run_bind_eq]
    cases (first.run state).1.outcome with
    | ok value => exact IsTrans.trans _ _ _ (keeps state) (continued value _)
    | error failure => exact keeps state
  logged_bind := by
    intro α β logged next continued state
    rw [run_logged_bind]
    cases outcome : logged.outcome with
    | ok value => exact continued value outcome state
    | error failure => exact refl state
  attempt keeps := keeps

/-- A session goes on only with results that its first part can come to. -/
theorem keeps_bind_of_reaches
    {step : S → S → Prop}
    [IsPreorder S step]
    {first : Session S R α}
    {next : α → Session S R β}
    (keeps : first.Keeps step)
    (continued : ∀ value,
      (∃ state reached, first.Reaches state value reached) →
        (next value).Keeps step) :
    (first >>= next).Keeps step := by
  intro state
  rw [run_bind_eq]
  cases outcome : (first.run state).1.outcome with
  | ok value =>
      exact IsTrans.trans _ _ _ (keeps state)
        (continued value ⟨state, _, outcome, rfl⟩ _)
  | error failure => exact keeps state

/-- What is looked up in the state may decide how a session goes on. -/
theorem keeps_get_bind
    {step : S → S → Prop}
    {next : S → Session S R α}
    (continued : ∀ state, (next state).Keeps step) :
    ((get : Session S R S) >>= next).Keeps step := by
  intro state
  rw [run_get_bind]
  exact continued state state

/-! ## Two runs -/

/-- Two runs of a session from related states have the same outcome and report the
same, and they end in related states. -/
def Respects (rel : S → S → Prop) (session : Session S R α) : Prop :=
  ∀ left right, rel left right →
    (session.run left).1 = (session.run right).1 ∧
      rel (session.run left).2 (session.run right).2

theorem respects_modify
    {rel : S → S → Prop}
    {change : S → S}
    (keeps : ∀ left right, rel left right → rel (change left) (change right)) :
    (modify change : Session S R PUnit).Respects rel :=
  fun left right related => ⟨rfl, keeps left right related⟩

theorem respects_rules (rel : S → S → Prop) :
    Rules (R := R) fun _ session => session.Respects rel where
  ofLogged _ _ _ related := ⟨rfl, related⟩
  bind := by
    intro α β first next respects continued left right related
    obtain ⟨same, reached⟩ := respects left right related
    simp only [run_bind_eq, same]
    cases (first.run right).1.outcome with
    | ok value =>
        obtain ⟨sameNext, final⟩ := continued value _ _ reached
        simp only [sameNext]
        exact ⟨trivial, final⟩
    | error failure => exact ⟨rfl, reached⟩
  logged_bind := by
    intro α β logged next continued left right related
    simp only [run_logged_bind]
    cases outcome : logged.outcome with
    | ok value =>
        obtain ⟨same, reached⟩ := continued value outcome left right related
        simp only [same]
        exact ⟨trivial, reached⟩
    | error failure => exact ⟨rfl, related⟩
  attempt := by
    intro α session respects left right related
    obtain ⟨same, reached⟩ := respects left right related
    simp only [Session.attempt, same]
    exact ⟨trivial, reached⟩

/-- What a run comes to from one of two related states it comes to from the other. -/
theorem Respects.reaches
    {rel : S → S → Prop}
    {session : Session S R α}
    (respects : session.Respects rel)
    {left right final : S}
    {result : α}
    (related : rel left right)
    (reaches : session.Reaches left result final) :
    ∃ reached, session.Reaches right result reached ∧ rel final reached := by
  obtain ⟨same, ends⟩ := respects left right related
  obtain ⟨outcome, rfl⟩ := reaches
  exact ⟨_, ⟨same ▸ outcome, rfl⟩, ends⟩

/-- What two states show that a run does not change can be related too. -/
theorem Respects.and_still
    {T : Type}
    {rel : S → S → Prop}
    {session : Session S R α}
    (respects : session.Respects rel)
    (view : S → T)
    (still : session.Keeps fun before after => view before = view after)
    (shown : T → T → Prop) :
    session.Respects fun left right =>
      rel left right ∧ shown (view left) (view right) := by
  rintro left right ⟨related, seen⟩
  obtain ⟨same, ends⟩ := respects left right related
  refine ⟨same, ends, ?_⟩
  rwa [← still left, ← still right]

/-- One of many operations, when the others spare what relates its states: it comes
to the same on its own. -/
theorem reaches_forM_alone
    {rel spares : S → S → Prop}
    [IsPreorder S spares]
    (spared : ∀ left after right, spares left after → rel left right →
      rel after right)
    (body : α → Session S R PUnit)
    {before later : List α}
    (item : α)
    (others : ∀ other ∈ before ++ later, (body other).Keeps spares)
    (own : (body item).Respects rel)
    {left right final : S}
    (related : rel left right)
    (reaches : ((before ++ item :: later).forM body).Reaches left ⟨⟩ final) :
    ∃ alone, (body item).Reaches right ⟨⟩ alone ∧ rel final alone := by
  have rules := keeps_rules (R := R) spares
  simp only [List.forM_eq_forM, List.forM_append, List.forM_cons, reaches_bind]
    at reaches
  obtain ⟨_, middle, first, _, second, ran, last⟩ := reaches
  have beforeKeeps : (before.forM body).Keeps spares :=
    rules.forM fun other member =>
      others other (List.mem_append_left _ member)
  have laterKeeps : (later.forM body).Keeps spares :=
    rules.forM fun other member =>
      others other (List.mem_append_right _ member)
  obtain ⟨alone, ranAlone, ends⟩ := own.reaches
    (spared _ _ _ (beforeKeeps.of_reaches first) related) ran
  exact ⟨alone, ranAlone, spared _ _ _ (laterKeeps.of_reaches last) ends⟩

/-- What is looked up in the state may decide how a session goes on, when related
states decide it alike. -/
theorem respects_get_bind
    {rel : S → S → Prop}
    {next : S → Session S R α}
    (alike : ∀ left right, rel left right → next left = next right)
    (continued : ∀ state, (next state).Respects rel) :
    ((get : Session S R S) >>= next).Respects rel := by
  intro left right related
  rw [run_get_bind, run_get_bind, alike left right related]
  exact continued right left right related

/-! ## Completion -/

/-- From every safe state a run comes to a result, and it leaves a safe state. -/
def Completes (safe : S → Prop) (session : Session S R α) : Prop :=
  ∀ state, safe state →
    ∃ result final, session.Reaches state result final ∧ safe final

section Completes

variable {safe : S → Prop}

theorem completes_pure (value : α) :
    (pure value : Session S R α).Completes safe :=
  fun state holds => ⟨value, state, reaches_pure.2 ⟨rfl, rfl⟩, holds⟩

theorem completes_modify
    {change : S → S}
    (keeps : ∀ state, safe state → safe (change state)) :
    (modify change : Session S R PUnit).Completes safe :=
  fun state holds =>
    ⟨⟨⟩, change state, reaches_modify.2 rfl, keeps state holds⟩

theorem Completes.bind
    {first : Session S R α}
    {next : α → Session S R β}
    (completes : first.Completes safe)
    (continued : ∀ value, (next value).Completes safe) :
    (first >>= next).Completes safe := by
  intro state holds
  obtain ⟨value, middle, reachesFirst, between⟩ := completes state holds
  obtain ⟨result, final, reachesNext, after⟩ :=
    continued value middle between
  exact ⟨result, final, reaches_bind.2
    ⟨value, middle, reachesFirst, reachesNext⟩, after⟩

theorem completes_forM
    {body : α → Session S R PUnit}
    {items : List α}
    (each : ∀ item ∈ items, (body item).Completes safe) :
    (items.forM body).Completes safe := by
  induction items with
  | nil => exact completes_pure _
  | cons item rest hypothesis =>
      exact (each item (by simp)).bind fun _ =>
        hypothesis fun later member => each later (by simp [member])

end Completes

/-! ## Simulations -/

/-- What a session comes to from the right one of two states it also comes to from
the left one, and leaves states that are related in view of the result. -/
def Simulates
    (before : S → S → Prop)
    (session : Session S R α)
    (after : α → S → S → Prop) : Prop :=
  ∀ left right, before left right →
    ∀ result final, session.Reaches right result final →
      ∃ reached, session.Reaches left result reached ∧
        after result reached final

section Simulates

variable {before : S → S → Prop}

theorem Respects.simulates
    {session : Session S R α}
    (respects : session.Respects before) :
    session.Simulates before fun _ => before := by
  intro left right related result final reaches
  obtain ⟨same, reached⟩ := respects left right related
  obtain ⟨outcome, rfl⟩ := reaches
  exact ⟨(session.run left).2, ⟨by rw [same, outcome], rfl⟩, reached⟩

theorem simulates_attempt (attempt : Attempt R α) :
    (liftM attempt : Session S R α).Simulates before fun _ => before :=
  ((respects_rules before).ofLogged _).simulates

theorem simulates_logged (logged : Logged R α) :
    (liftM logged : Session S R α).Simulates before fun _ => before :=
  ((respects_rules before).ofLogged _).simulates

theorem simulates_pure
    {value : α}
    {after : α → S → S → Prop}
    (holds : ∀ left right, before left right → after value left right) :
    (pure value : Session S R α).Simulates before after := by
  intro left right related result final reaches
  obtain ⟨rfl, rfl⟩ := reaches_pure.1 reaches
  exact ⟨left, reaches_pure.2 ⟨rfl, rfl⟩, holds left right related⟩

theorem Simulates.bind
    {first : Session S R α}
    {next : α → Session S R β}
    {between : α → S → S → Prop}
    {after : β → S → S → Prop}
    (simulates : first.Simulates before between)
    (continued : ∀ value, (next value).Simulates (between value) after) :
    (first >>= next).Simulates before after := by
  intro left right related result final reaches
  obtain ⟨value, middle, reachesFirst, reachesNext⟩ := reaches_bind.1 reaches
  obtain ⟨own, ownFirst, ownRelated⟩ :=
    simulates left right related value middle reachesFirst
  obtain ⟨reached, ownNext, holds⟩ :=
    continued value own middle ownRelated result final reachesNext
  exact ⟨reached, reaches_bind.2 ⟨value, own, ownFirst, ownNext⟩, holds⟩

/-- What is looked up in the state may decide how a session goes on, when related
states decide it alike. -/
theorem simulates_get_bind
    {next : S → Session S R α}
    {after : α → S → S → Prop}
    (alike : ∀ left right, before left right → next left = next right)
    (continued : ∀ state, (next state).Simulates before after) :
    ((get : Session S R S) >>= next).Simulates before after := by
  intro left right related result final reaches
  obtain ⟨looked, middle, reachesGet, reachesNext⟩ := reaches_bind.1 reaches
  obtain ⟨rfl, rfl⟩ := reaches_get.1 reachesGet
  obtain ⟨reached, ownNext, holds⟩ :=
    continued right left right related result final reachesNext
  refine ⟨reached, reaches_bind.2 ⟨left, left, reaches_get.2 ⟨rfl, rfl⟩, ?_⟩,
    holds⟩
  rw [alike left right related]
  exact ownNext

end Simulates

end Session
end MelodyAutomation

import MelodyAutomation.Proofs.SessionRules

/-!
# What operations yield

A contract for outcomes: an operation comes to a result of some kind, or it is refused
for one of some causes. It passes from the parts of an operation to the whole of it,
for attempts, for logged operations, and for sessions. In a session it may depend on
a property of the states, which no run leaves; an operation that is refused for no
cause at all always comes to a result.
-/

namespace MelodyAutomation

variable {S T R α β : Type}
variable {results : α → Prop} {further : β → Prop} {causes : Failure R → Prop}

namespace Attempt

/-- An attempt comes to a result of some kind, or is refused for one of some causes. -/
def Yields (results : α → Prop) (causes : Failure R → Prop) : Attempt R α → Prop
  | .ok result => results result
  | .error failure => causes failure

/-- An attempt is refused for none but some causes. -/
abbrev RefusedFor (causes : Failure R → Prop) (attempt : Attempt R α) : Prop :=
  attempt.Yields (fun _ => True) causes

@[simp] theorem yields_ok {result : α} :
    Yields results causes (.ok result) ↔ results result := Iff.rfl

@[simp] theorem yields_error {failure : Failure R} :
    Yields results causes (.error failure : Attempt R α) ↔ causes failure :=
  Iff.rfl

/-- A contract may promise less. -/
theorem Yields.imp
    {attempt : Attempt R α}
    (yields : attempt.Yields results causes)
    {weaker : α → Prop}
    {more : Failure R → Prop}
    (ofResult : ∀ result, results result → weaker result)
    (ofCause : ∀ failure, causes failure → more failure) :
    attempt.Yields weaker more := by
  cases attempt with
  | ok result => exact ofResult result yields
  | error failure => exact ofCause failure yields

/-- What is known of the results can be told apart from the causes. -/
theorem Yields.of_refusedFor
    {attempt : Attempt R α}
    (refused : attempt.RefusedFor causes)
    (ofResult : ∀ result, attempt = .ok result → results result) :
    attempt.Yields results causes := by
  cases attempt with
  | ok result => exact ofResult result rfl
  | error failure => exact refused

theorem Yields.bind
    {attempt : Attempt R α}
    (yields : attempt.Yields results causes)
    {next : α → Attempt R β}
    (continued : ∀ value, results value → (next value).Yields further causes) :
    (attempt >>= next).Yields further causes := by
  cases attempt with
  | ok value => exact continued value yields
  | error failure => exact yields

/-- If each item of a list yields a result of some kind, all together do. -/
theorem yields_mapM
    {function : β → Attempt R α}
    {items : List β}
    (each : ∀ item ∈ items, (function item).Yields results causes) :
    (items.mapM function).Yields (fun all => ∀ result ∈ all, results result)
      causes := by
  induction items with
  | nil => exact fun _ member => nomatch member
  | cons item rest hypothesis =>
      rw [List.mapM_cons]
      refine (each item List.mem_cons_self).bind fun result holds => ?_
      refine (hypothesis fun later member =>
        each later (List.mem_cons_of_mem _ member)).bind fun others hold => ?_
      intro other member
      rcases List.mem_cons.1 member with rfl | later
      · exact holds
      · exact hold other later

/-- A list of attempts is refused for what its items are refused for. -/
theorem refusedFor_mapM
    {function : β → Attempt R α}
    {items : List β}
    (each : ∀ item ∈ items, (function item).RefusedFor causes) :
    (items.mapM function).RefusedFor causes :=
  (yields_mapM each).imp (fun _ _ => trivial) fun _ => id

/-- An attempt that is refused for no cause has a result. -/
theorem Yields.exists
    {attempt : Attempt R α}
    (yields : attempt.Yields results fun _ => False) :
    ∃ result, attempt = .ok result ∧ results result := by
  cases attempt with
  | ok result => exact ⟨result, rfl, yields⟩
  | error failure => exact yields.elim

/-- An attempt that has a result is refused for no cause. -/
theorem refusedFor_of_isOk
    {attempt : Attempt R α}
    (succeeds : attempt.isOk = true) :
    attempt.RefusedFor causes := by
  cases attempt with
  | ok result => trivial
  | error failure => cases succeeds

end Attempt

namespace Logged

theorem yields_report {notice : Notice R} :
    (report notice).outcome.Yields (fun _ => True) causes :=
  trivial

/-- A sequence of logged operations yields what its last part yields. -/
theorem yields_bind
    {first : Logged R α}
    (yields : first.outcome.Yields results causes)
    {next : α → Logged R β}
    (continued : ∀ value, results value →
      (next value).outcome.Yields further causes) :
    (first >>= next).outcome.Yields further causes := by
  obtain ⟨outcome, notices⟩ := first
  cases outcome with
  | ok value => simpa using continued value yields
  | error failure => exact yields

end Logged

namespace Session

variable {safe : S → Prop}

/-- From every safe state a run comes to a result of some kind, or is refused for one
of some causes, and it leaves a safe state. -/
def Yields (safe : S → Prop) (results : α → Prop) (causes : Failure R → Prop)
    (session : Session S R α) : Prop :=
  ∀ state, safe state →
    (session.run state).1.outcome.Yields results causes ∧
      safe (session.run state).2

/-- From any state, a run is refused for none but some causes. -/
abbrev RefusedFor (causes : Failure R → Prop) (session : Session S R α) : Prop :=
  session.Yields (fun _ => True) (fun _ => True) causes

theorem Yields.imp
    {session : Session S R α}
    (yields : session.Yields safe results causes)
    {weaker : α → Prop}
    {more : Failure R → Prop}
    (ofResult : ∀ result, results result → weaker result)
    (ofCause : ∀ failure, causes failure → more failure) :
    session.Yields safe weaker more :=
  fun state holds => (yields state holds).imp_left (·.imp ofResult ofCause)

theorem yields_logged
    {logged : Logged R α}
    (yields : logged.outcome.Yields results causes) :
    (liftM logged : Session S R α).Yields safe results causes :=
  fun _ holds => ⟨yields, holds⟩

theorem yields_attempt
    {attempt : Attempt R α}
    (yields : attempt.Yields results causes) :
    (liftM attempt : Session S R α).Yields safe results causes :=
  fun _ holds => ⟨yields, holds⟩

theorem yields_pure {value : α} (holds : results value) :
    (pure value : Session S R α).Yields safe results causes :=
  fun _ still => ⟨holds, still⟩

theorem yields_throw {failure : Failure R} (holds : causes failure) :
    (throw failure : Session S R α).Yields safe results causes :=
  fun _ still => ⟨holds, still⟩

theorem yields_report {notice : Notice R} :
    (report notice).Yields safe (fun _ => True) causes :=
  fun _ still => ⟨trivial, still⟩

theorem yields_modify
    {change : S → S}
    (keeps : ∀ state, safe state → safe (change state)) :
    (modify change : Session S R PUnit).Yields safe (fun _ => True) causes :=
  fun state still => ⟨trivial, keeps state still⟩

theorem Yields.bind
    {first : Session S R α}
    (yields : first.Yields safe results causes)
    {next : α → Session S R β}
    (continued : ∀ value, results value →
      (next value).Yields safe further causes) :
    (first >>= next).Yields safe further causes := by
  intro state holds
  obtain ⟨outcome, between⟩ := yields state holds
  rw [run_bind_eq]
  cases ran : (first.run state).1.outcome with
  | error failure =>
      rw [ran] at outcome
      exact ⟨outcome, between⟩
  | ok value =>
      rw [ran] at outcome
      simpa only [Logged.outcome_after] using continued value outcome _ between

/-- What is looked up in the state is safe. -/
theorem yields_get_bind
    {next : S → Session S R α}
    (continued : ∀ state, safe state →
      (next state).Yields safe results causes) :
    ((get : Session S R S) >>= next).Yields safe results causes := by
  intro state holds
  rw [run_get_bind]
  exact continued state holds state holds

theorem yields_forM
    {body : β → Session S R PUnit}
    {items : List β}
    (each : ∀ item ∈ items,
      (body item).Yields safe (fun _ => True) causes) :
    (items.forM body).Yields safe (fun _ => True) causes := by
  induction items with
  | nil => exact yields_pure trivial
  | cons item rest hypothesis =>
      exact (each item List.mem_cons_self).bind fun _ _ =>
        hypothesis fun later member =>
          each later (List.mem_cons_of_mem _ member)

theorem yields_mapM
    {body : β → Session S R α}
    {items : List β}
    (each : ∀ item ∈ items, (body item).Yields safe results causes) :
    (items.mapM body).Yields safe (fun all => ∀ result ∈ all, results result)
      causes := by
  induction items with
  | nil => exact yields_pure fun _ member => nomatch member
  | cons item rest hypothesis =>
      rw [List.mapM_cons]
      refine (each item List.mem_cons_self).bind fun result holds => ?_
      refine (hypothesis fun later member =>
        each later (List.mem_cons_of_mem _ member)).bind fun others hold => ?_
      refine yields_pure fun other member => ?_
      rcases List.mem_cons.1 member with rfl | later
      · exact holds
      · exact hold other later

/-- The outcome that an attempt keeps is one that its session yields. -/
theorem Yields.attempt
    {session : Session S R α}
    (yields : session.Yields safe results causes)
    (others : Failure R → Prop) :
    session.attempt.Yields safe
      (fun outcome => outcome.Yields results causes) others :=
  yields

/-- An operation on a part yields on the whole what it yields on the part. -/
theorem Yields.within
    {view : S → T}
    {put : T → S → S}
    {safeOf : T → Prop}
    {session : Session T R α}
    (yields : session.Yields safeOf results causes)
    (ofWhole : ∀ state, safe state → safeOf (view state))
    (ofPart : ∀ state part, safe state → safeOf part → safe (put part state)) :
    (within view put session).Yields safe results causes := by
  intro state holds
  obtain ⟨outcome, part⟩ := yields (view state) (ofWhole state holds)
  exact ⟨outcome, ofPart state _ holds part⟩

/-- A session that is refused for no cause comes to a result. -/
theorem Yields.isOk
    {session : Session S R α}
    (yields : session.Yields safe results fun _ => False)
    {state : S}
    (holds : safe state) :
    ∃ result, (session.run state).1.outcome = .ok result := by
  obtain ⟨result, outcome, -⟩ := (yields state holds).1.exists
  exact ⟨result, outcome⟩

end Session
end MelodyAutomation

import MelodyAutomation.Logged

/-!
# Sessions

An operation on a state that reports notices and may be refused. A refusal does
not undo what came before it: the state that was reached and the notices that
were reported stay. Operations are sequenced by a lawful monad, and `ensuring`
runs a second operation whether or not the first one is refused.
-/

namespace MelodyAutomation

/-- An operation on a state of type `S`. -/
structure Session (S R α : Type) where
  /-- The outcome of the operation, and the state it leaves. -/
  run : S → Logged R α × S

namespace Session

variable {S T R α β : Type}

@[ext] theorem ext
    {left right : Session S R α}
    (agree : ∀ state, left.run state = right.run state) :
    left = right := by
  cases left
  cases right
  congr
  funext state
  exact agree state

/-- An operation that only has a result. -/
def succeed (result : α) : Session S R α :=
  ⟨fun state => (.succeed result, state)⟩

/-- An operation that leaves the state alone. -/
def ofLogged (logged : Logged R α) : Session S R α :=
  ⟨fun state => (logged, state)⟩

/-- Continue with the result, if there is one. -/
def andThen (first : Session S R α) (next : α → Session S R β) :
    Session S R β :=
  ⟨fun state =>
    match first.run state with
    | (⟨.ok result, notices⟩, reached) =>
        let (logged, final) := (next result).run reached
        (logged.after notices, final)
    | (⟨.error failure, notices⟩, reached) =>
        (⟨.error failure, notices⟩, reached)⟩

instance : Monad (Session S R) where
  pure := succeed
  bind := andThen

instance : MonadLift (Logged R) (Session S R) where
  monadLift := ofLogged

instance : MonadLift (Attempt R) (Session S R) where
  monadLift attempt := ofLogged (Logged.ofAttempt attempt)

instance : MonadStateOf S (Session S R) where
  get := ⟨fun state => (.succeed state, state)⟩
  set state := ⟨fun _ => (.succeed ⟨⟩, state)⟩
  modifyGet change := ⟨fun state =>
    let (result, changed) := change state
    (.succeed result, changed)⟩

instance : MonadExceptOf (Failure R) (Session S R) where
  throw failure := ofLogged (.refuse failure)
  tryCatch first recover := ⟨fun state =>
    match first.run state with
    | (⟨.error failure, notices⟩, reached) =>
        let (logged, final) := (recover failure).run reached
        (logged.after notices, final)
    | finished => finished⟩

@[simp] theorem run_pure (result : α) (state : S) :
    (pure result : Session S R α).run state = (⟨.ok result, []⟩, state) := rfl

@[simp] theorem run_ofLogged (logged : Logged R α) (state : S) :
    (ofLogged logged : Session S R α).run state = (logged, state) := rfl

theorem run_bind
    (first : Session S R α)
    (next : α → Session S R β)
    (state : S) :
    (first >>= next).run state = (first.andThen next).run state := rfl

theorem run_bind_of_ok
    {first : Session S R α}
    {state reached : S}
    {result : α}
    {notices : List (Notice R)}
    (ran : first.run state = (⟨.ok result, notices⟩, reached))
    (next : α → Session S R β) :
    (first >>= next).run state =
      (((next result).run reached).1.after notices,
        ((next result).run reached).2) := by
  simp [run_bind, andThen, ran]

theorem run_bind_of_error
    {first : Session S R α}
    {state reached : S}
    {failure : Failure R}
    {notices : List (Notice R)}
    (ran : first.run state = (⟨.error failure, notices⟩, reached))
    (next : α → Session S R β) :
    (first >>= next).run state = (⟨.error failure, notices⟩, reached) := by
  simp [run_bind, andThen, ran]

instance : LawfulMonad (Session S R) := LawfulMonad.mk' (Session S R)
  (by
    intro α session
    apply ext
    intro state
    change (session >>= pure).run state = session.run state
    rcases ran : session.run state with ⟨⟨outcome, notices⟩, reached⟩
    cases outcome with
    | ok result => simp [run_bind_of_ok ran, Logged.after_eq]
    | error failure => simp [run_bind_of_error ran])
  (by
    intro α β result next
    apply ext
    intro state
    simp [run_bind_of_ok (run_pure result state)])
  (by
    intro α β γ first second third
    apply ext
    intro state
    rcases ran : first.run state with ⟨⟨outcome, notices⟩, reached⟩
    cases outcome with
    | error failure =>
        rw [run_bind_of_error ran, run_bind_of_error (run_bind_of_error ran _)]
    | ok result =>
        rw [run_bind_of_ok ran]
        rcases inner : (second result).run reached with ⟨⟨next, own⟩, final⟩
        cases next with
        | error failure =>
            have joined : (first >>= second).run state =
                (⟨.error failure, notices ++ own⟩, final) := by
              simp [run_bind_of_ok ran, inner, Logged.after_eq]
            rw [run_bind_of_error joined, run_bind_of_error inner,
              Logged.after_eq]
        | ok value =>
            have joined : (first >>= second).run state =
                (⟨.ok value, notices ++ own⟩, final) := by
              simp [run_bind_of_ok ran, inner, Logged.after_eq]
            rw [run_bind_of_ok joined, run_bind_of_ok inner]
            simp)

/-- Report one notice. -/
def report (notice : Notice R) : Session S R Unit := ofLogged (.report notice)

/-- Run a second operation after the first one, whether or not the first one is
refused. A refusal of the second one takes precedence. -/
def ensuring (first : Session S R α) (cleanup : Session S R Unit) :
    Session S R α :=
  ⟨fun state =>
    let (logged, reached) := first.run state
    let (ending, final) := cleanup.run reached
    match ending.outcome with
    | .ok () => (⟨logged.outcome, logged.notices ++ ending.notices⟩, final)
    | .error failure =>
        (⟨.error failure, logged.notices ++ ending.notices⟩, final)⟩

/-- Run an operation and keep its outcome as a result, so that what follows is
run even when it is refused. -/
def attempt (session : Session S R α) : Session S R (Attempt R α) :=
  ⟨fun state =>
    let (logged, reached) := session.run state
    (⟨.ok logged.outcome, logged.notices⟩, reached)⟩

/-- Run an operation on a part of a state. -/
def within (view : S → T) (put : T → S → S) (session : Session T R α) :
    Session S R α :=
  ⟨fun state =>
    let (logged, part) := session.run (view state)
    (logged, put part state)⟩

end Session
end MelodyAutomation

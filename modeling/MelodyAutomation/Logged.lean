import MelodyAutomation.Notice

/-!
# Logged outcomes

A pure operation that reports notices and may be refused. Its notices survive a
refusal: whatever was reported before it stays reported. Operations are
sequenced by a lawful monad in which notices are joined in order.
-/

namespace MelodyAutomation

/-- An outcome together with the notices reported on the way. -/
structure Logged (R α : Type) where
  outcome : Attempt R α
  notices : List (Notice R)

namespace Logged

variable {R α β : Type}

@[ext] theorem ext
    {left right : Logged R α}
    (outcomes : left.outcome = right.outcome)
    (notices : left.notices = right.notices) :
    left = right := by
  cases left
  cases right
  simp_all

/-- A result without notices. -/
def succeed (result : α) : Logged R α := ⟨.ok result, []⟩

/-- A refusal without notices. -/
def refuse (failure : Failure R) : Logged R α := ⟨.error failure, []⟩

/-- Report one notice. -/
def report (notice : Notice R) : Logged R Unit := ⟨.ok (), [notice]⟩

/-- An operation without notices. -/
def ofAttempt (attempt : Attempt R α) : Logged R α := ⟨attempt, []⟩

/-- Put notices in front of the ones of an outcome. Where it has none, the list
is not copied. -/
def after (notices : List (Notice R)) (logged : Logged R α) : Logged R α :=
  match logged with
  | ⟨outcome, []⟩ => ⟨outcome, notices⟩
  | ⟨outcome, own⟩ => ⟨outcome, notices ++ own⟩

theorem after_eq (notices : List (Notice R)) (logged : Logged R α) :
    logged.after notices = ⟨logged.outcome, notices ++ logged.notices⟩ := by
  obtain ⟨outcome, own⟩ := logged
  cases own <;> simp [after]

/-- Continue with the result, if there is one. -/
def andThen (first : Logged R α) (next : α → Logged R β) : Logged R β :=
  match first.outcome with
  | .ok result => (next result).after first.notices
  | .error failure => ⟨.error failure, first.notices⟩

instance : Monad (Logged R) where
  pure := succeed
  bind := andThen

instance : MonadExceptOf (Failure R) (Logged R) where
  throw := refuse
  tryCatch logged recover :=
    match logged.outcome with
    | .ok result => ⟨.ok result, logged.notices⟩
    | .error failure => (recover failure).after logged.notices

instance : MonadLift (Attempt R) (Logged R) where
  monadLift := ofAttempt

@[simp] theorem pure_def (result : α) :
    (pure result : Logged R α) = ⟨.ok result, []⟩ := rfl

@[simp] theorem bind_ok
    (result : α)
    (notices : List (Notice R))
    (next : α → Logged R β) :
    (⟨.ok result, notices⟩ : Logged R α) >>= next =
      (next result).after notices := rfl

@[simp] theorem bind_error
    (failure : Failure R)
    (notices : List (Notice R))
    (next : α → Logged R β) :
    (⟨.error failure, notices⟩ : Logged R α) >>= next =
      ⟨.error failure, notices⟩ := rfl

@[simp] theorem after_nil (logged : Logged R α) : logged.after [] = logged := by
  simp [after_eq]

@[simp] theorem after_after
    (first second : List (Notice R))
    (logged : Logged R α) :
    (logged.after second).after first = logged.after (first ++ second) := by
  simp [after_eq]

@[simp] theorem outcome_after
    (notices : List (Notice R))
    (logged : Logged R α) :
    (logged.after notices).outcome = logged.outcome := by
  simp [after_eq]

@[simp] theorem notices_after
    (notices : List (Notice R))
    (logged : Logged R α) :
    (logged.after notices).notices = notices ++ logged.notices := by
  simp [after_eq]

/-- Notices in front of an operation stay in front of what follows it. -/
theorem after_bind
    (notices : List (Notice R))
    (first : Logged R α)
    (next : α → Logged R β) :
    first.after notices >>= next = (first >>= next).after notices := by
  obtain ⟨outcome, own⟩ := first
  cases outcome with
  | ok result => simp [after_eq, Bind.bind, andThen]
  | error failure => simp [after_eq, Bind.bind, andThen]

instance : LawfulMonad (Logged R) := LawfulMonad.mk' (Logged R)
  (by
    intro α logged
    obtain ⟨outcome, notices⟩ := logged
    cases outcome <;> simp [Functor.map, andThen, succeed, after_eq])
  (by
    intro α β result next
    simp)
  (by
    intro α β γ first second third
    obtain ⟨outcome, notices⟩ := first
    cases outcome with
    | ok result => simp [after_bind]
    | error failure => simp)

end Logged
end MelodyAutomation

import MelodyAutomation.Session
import Mathlib.Data.List.Forall2

/-!
# Outcomes of sequenced operations

When a sequence of operations comes to a result, every operation in it does. The
lemmas of this module read the intermediate results off a result: for attempts,
for logged operations, and for lists of them. Two attempts can also be followed
side by side, until both are refused for the same cause or both have results.
-/

namespace MelodyAutomation

variable {R α β γ δ : Type}

/-- In lists that are related item by item, there is an item to every item. -/
theorem exists_related
    {related : α → β → Prop}
    {items : List α}
    {others : List β}
    (all : List.Forall₂ related items others)
    {index : Nat}
    {item : α}
    (found : items[index]? = some item) :
    ∃ other, others[index]? = some other ∧ related item other := by
  obtain ⟨inside, rfl⟩ := List.getElem?_eq_some_iff.1 found
  have bound : index < others.length := all.length_eq ▸ inside
  exact ⟨others[index], List.getElem?_eq_getElem bound, all.get inside bound⟩

/-- Every item of the first of two related lists is related to one of the second. -/
theorem exists_related_of_mem
    {related : α → β → Prop}
    {items : List α}
    {others : List β}
    (all : List.Forall₂ related items others)
    {item : α}
    (member : item ∈ items) :
    ∃ other ∈ others, related item other := by
  obtain ⟨index, found⟩ := List.mem_iff_getElem?.1 member
  obtain ⟨other, present, own⟩ := exists_related all found
  exact ⟨other, List.mem_of_getElem? present, own⟩

/-- Where something lies between every two related items, there is a list between both
lists. -/
theorem exists_between
    {before : α → β → Prop}
    {after : γ → β → Prop}
    {items : List α}
    {others : List γ}
    (all : List.Forall₂ (fun item other => ∃ middle, before item middle ∧
      after other middle) items others) :
    ∃ middles, List.Forall₂ before items middles ∧
      List.Forall₂ after others middles := by
  induction all with
  | nil => exact ⟨[], .nil, .nil⟩
  | cons own rest hypothesis =>
      obtain ⟨middle, ofItem, ofOther⟩ := own
      obtain ⟨middles, ofItems, ofOthers⟩ := hypothesis
      exact ⟨middle :: middles, .cons ofItem ofItems, .cons ofOther ofOthers⟩

/-- Lists that are related through a list between them are related item by item. -/
theorem forall₂_through
    {before : α → β → Prop}
    {after : β → γ → Prop}
    {items : List α}
    {middles : List β}
    {others : List γ}
    (first : List.Forall₂ before items middles)
    (second : List.Forall₂ after middles others) :
    List.Forall₂ (fun item other => ∃ middle, before item middle ∧ after middle other)
      items others := by
  induction first generalizing others with
  | nil =>
      cases second
      exact .nil
  | cons own _ hypothesis =>
      cases second with
      | cons next rest => exact .cons ⟨_, own, next⟩ (hypothesis rest)

namespace Attempt

@[simp] theorem pure_eq_ok (result : α) :
    (pure result : Attempt R α) = .ok result := rfl

@[simp] theorem ok_bind (value : α) (next : α → Attempt R β) :
    (Except.ok value : Attempt R α) >>= next = next value := rfl

@[simp] theorem error_bind (failure : Failure R) (next : α → Attempt R β) :
    (Except.error failure : Attempt R α) >>= next = .error failure := rfl

/-- An attempt that is known to succeed has a result. -/
theorem exists_of_isOk
    {attempt : Attempt R α}
    (succeeds : attempt.isOk = true) :
    ∃ result, attempt = .ok result := by
  cases attempt with
  | ok result => exact ⟨result, rfl⟩
  | error failure => cases succeeds

/-- An attempt whose result is known to pass a test has a result that does. -/
theorem exists_of_any
    {attempt : Attempt R α}
    {test : α → Bool}
    (passes : attempt.toOption.any test = true) :
    ∃ result, attempt = .ok result ∧ test result = true := by
  cases attempt with
  | ok result => exact ⟨result, rfl, passes⟩
  | error failure => cases passes

/-- Whether an attempt is refused because a number is out of range. -/
def overflows : Attempt R α → Bool
  | .error .overflow => true
  | _ => false

theorem eq_of_overflows
    {attempt : Attempt R α}
    (overflows : attempt.overflows = true) :
    attempt = .error .overflow := by
  unfold Attempt.overflows at overflows
  split at overflows
  · rfl
  · cases overflows

/-- A sequence of attempts has a result exactly when both have. -/
@[simp] theorem bind_eq_ok
    {first : Attempt R α}
    {next : α → Attempt R β}
    {result : β} :
    first >>= next = .ok result ↔
      ∃ value, first = .ok value ∧ next value = .ok result := by
  cases first with
  | ok value => simp
  | error failure => simp

/-- The results of a list of attempts, one for every item. -/
theorem mapM_eq_ok
    {function : α → Attempt R β}
    {items : List α}
    {results : List β} :
    items.mapM function = .ok results ↔
      List.Forall₂ (fun item result => function item = .ok result)
        items results := by
  induction items generalizing results with
  | nil => simp [eq_comm]
  | cons item rest hypothesis =>
      cases results with
      | nil => simp [hypothesis]
      | cons result others => simp [hypothesis]

/-- A list of attempts has results exactly when every item has one. -/
theorem exists_mapM
    {function : α → Attempt R β}
    {items : List α} :
    (∃ results, items.mapM function = .ok results) ↔
      ∀ item ∈ items, ∃ result, function item = .ok result := by
  induction items with
  | nil => simp
  | cons item rest hypothesis =>
      rw [List.forall_mem_cons, ← hypothesis]
      simp only [List.mapM_cons, bind_eq_ok, pure_eq_ok, Except.ok.injEq]
      constructor
      · rintro ⟨_, result, own, results, others, rfl⟩
        exact ⟨⟨result, own⟩, results, others⟩
      · rintro ⟨⟨result, own⟩, results, others⟩
        exact ⟨_, result, own, results, others, rfl⟩

/-- A list of attempts is refused for what its items are refused for first. -/
theorem mapM_append_of_error
    {function : α → Attempt R β}
    {item : α}
    {failure : Failure R}
    (refused : function item = .error failure)
    (before after : List α) :
    (before ++ item :: after).mapM function =
      before.mapM function >>= fun _ => .error failure := by
  rw [List.mapM_append, List.mapM_cons, refused]
  rfl

/-- Every result of a list of attempts comes from one of the items. -/
theorem exists_of_mem_mapM
    {function : α → Attempt R β}
    {items : List α}
    {results : List β}
    (made : items.mapM function = .ok results)
    {result : β}
    (member : result ∈ results) :
    ∃ item ∈ items, function item = .ok result := by
  obtain ⟨item, present, makes⟩ :=
    exists_related_of_mem (mapM_eq_ok.1 made).flip member
  exact ⟨item, present, makes⟩

/-! ## Parallel attempts -/

/-- Two attempts are parallel when both are refused for the same cause or both have
results, which are related. -/
inductive Parallel (related : α → β → Prop) : Attempt R α → Attempt R β → Prop
  | ok {left : α} {right : β} (results : related left right) :
      Parallel related (.ok left) (.ok right)
  | error (failure : Failure R) :
      Parallel related (.error failure) (.error failure)

namespace Parallel

theorem refl (attempt : Attempt R α) : Parallel (· = ·) attempt attempt := by
  cases attempt with
  | ok result => exact .ok rfl
  | error failure => exact .error failure

/-- Attempts with the same results are the same. -/
theorem eq
    {left right : Attempt R α}
    (parallel : Parallel (· = ·) left right) :
    left = right := by
  cases parallel with
  | ok results => rw [results]
  | error failure => rfl

/-- Parallel attempts are continued in parallel. -/
theorem bind
    {related : α → β → Prop}
    {further : γ → δ → Prop}
    {left : Attempt R α}
    {right : Attempt R β}
    (parallel : Parallel related left right)
    {leftNext : α → Attempt R γ}
    {rightNext : β → Attempt R δ}
    (next : ∀ first second, related first second →
      Parallel further (leftNext first) (rightNext second)) :
    Parallel further (left >>= leftNext) (right >>= rightNext) := by
  cases parallel with
  | ok results => exact next _ _ results
  | error failure => exact .error failure

/-- Lists of attempts that are parallel one by one are parallel. -/
theorem mapM
    {related : α → β → Prop}
    {further : γ → δ → Prop}
    {lefts : List α}
    {rights : List β}
    (items : List.Forall₂ related lefts rights)
    {left : α → Attempt R γ}
    {right : β → Attempt R δ}
    (each : ∀ first second, related first second →
      Parallel further (left first) (right second)) :
    Parallel (List.Forall₂ further) (lefts.mapM left) (rights.mapM right) := by
  induction items with
  | nil => exact .ok .nil
  | @cons first second lefts rights own rest hypothesis =>
      rw [List.mapM_cons, List.mapM_cons]
      apply (each first second own).bind
      intro result other results
      apply hypothesis.bind
      intro others more all
      exact .ok (.cons results all)

end Parallel

/-- Two attempts are refused alike when both have results or both are refused for
the same cause. -/
abbrev RefusedAlike (left : Attempt R α) (right : Attempt R β) : Prop :=
  Parallel (fun _ _ => True) left right

end Attempt

namespace Logged

@[simp] theorem outcome_liftM (attempt : Attempt R α) :
    (liftM attempt : Logged R α).outcome = attempt := rfl

@[simp] theorem liftM_ok (value : α) :
    (liftM (Except.ok value : Attempt R α) : Logged R α) = pure value := rfl

@[simp] theorem outcome_report (notice : Notice R) :
    (report notice).outcome = .ok () := rfl

/-- A sequence of logged operations has a result exactly when both have. -/
@[simp] theorem outcome_bind_eq_ok
    {first : Logged R α}
    {next : α → Logged R β}
    {result : β} :
    (first >>= next).outcome = .ok result ↔
      ∃ value, first.outcome = .ok value ∧
        (next value).outcome = .ok result := by
  obtain ⟨outcome, notices⟩ := first
  cases outcome with
  | ok value => simp
  | error failure => simp

@[simp] theorem outcome_map_eq_ok
    {function : α → β}
    {logged : Logged R α}
    {result : β} :
    (function <$> logged).outcome = .ok result ↔
      ∃ value, logged.outcome = .ok value ∧ function value = result := by
  rw [map_eq_pure_bind, outcome_bind_eq_ok]
  simp

/-- The results of a list of logged operations, one for every item. -/
theorem outcome_mapM_eq_ok
    {function : α → Logged R β}
    {items : List α}
    {results : List β} :
    (items.mapM function).outcome = .ok results ↔
      List.Forall₂ (fun item result => (function item).outcome = .ok result)
        items results := by
  induction items generalizing results with
  | nil => simp [eq_comm]
  | cons item rest hypothesis =>
      cases results with
      | nil => simp [List.mapM_cons]
      | cons result others => simp [List.mapM_cons, hypothesis]

end Logged
end MelodyAutomation

import MelodyAutomation.Proofs.Outcome
import MelodyAutomation.Value.Arithmetic

/-!
# Values alike up to records

A record inside a literal can be turned into the map of its fields. Operations on
numbers and sequences cannot tell the difference, because a record is neither: their
results are the same once records are maps again. Two literals that differ in nothing
else are called alike here. A number is like no other value than itself, so alike
literals lead to the same numbers.
-/

namespace MelodyAutomation

variable {R α β : Type}

namespace Value

/-- The names of a record's fields stay what they are. -/
theorem flattenEntries_zip
    (names : List String)
    (values : List (Value R)) :
    flattenEntries ((names.map text).zip values) =
      (names.map text).zip (flattenItems values) := by
  induction names generalizing values with
  | nil => rfl
  | cons name others hypothesis =>
      cases values with
      | nil => rfl
      | cons value rest =>
          simp [flattenEntries, flattenItems, hypothesis, flatten]

mutual

/-- Nothing is left to be turned into a map. -/
theorem flatten_flatten : (value : Value R) →
    value.flatten.flatten = value.flatten
  | null => rfl
  | bool _ => rfl
  | int _ => rfl
  | real _ => rfl
  | text _ => rfl
  | bytes _ => rfl
  | date _ => rfl
  | moment _ => rfl
  | list items => by
      simp only [flatten, flattenItems_flattenItems items]
  | tuple items => by
      simp only [flatten, flattenItems_flattenItems items]
  | set _ => rfl
  | map entries => by
      simp only [flatten, flattenEntries_flattenEntries entries]
  | record kind fields => by
      simp only [flatten, flattenEntries_zip, flattenItems_flattenItems fields]
  | circular label collection => by
      simp only [flatten]
      rw [flatten_flatten (collection ())]

theorem flattenItems_flattenItems : (items : List (Value R)) →
    flattenItems (flattenItems items) = flattenItems items
  | [] => rfl
  | item :: rest => by
      simp only [flattenItems, flatten_flatten item,
        flattenItems_flattenItems rest]

theorem flattenEntries_flattenEntries : (entries : Entries R) →
    flattenEntries (flattenEntries entries) = flattenEntries entries
  | [] => rfl
  | (key, value) :: rest => by
      simp only [flattenEntries, flatten_flatten key, flatten_flatten value,
        flattenEntries_flattenEntries rest]

end

@[simp] theorem number?_flatten (value : Value R) :
    value.flatten.number? = value.number? := by
  cases value <;> rfl

@[simp] theorem exposed_flatten (value : Value R) :
    value.flatten.exposed = value.exposed.flatten := by
  cases value <;> rfl

theorem toNumber_flatten (value : Value R) :
    value.flatten.toNumber = value.toNumber := by
  simp [toNumber]

/-- A number has no records inside. -/
theorem flatten_toValue (number : Number R) :
    number.toValue.flatten = number.toValue := by
  cases number <;> rfl

/-! ## Literals that are alike -/

/-- Two literals are alike when they are the same once records are maps. -/
def Alike (left right : Value R) : Prop := left.flatten = right.flatten

namespace Alike

variable {left right : Value R}

theorem refl (value : Value R) : Alike value value := rfl

theorem of_flatten (value : Value R) : Alike value value.flatten :=
  (flatten_flatten value).symm

theorem number?_eq (alike : Alike left right) :
    left.number? = right.number? := by
  rw [← number?_flatten left, alike, number?_flatten]

theorem toNumber_eq (alike : Alike left right) :
    left.toNumber = right.toNumber := by
  rw [toNumber, toNumber, alike.number?_eq]

theorem exposed (alike : Alike left right) :
    Alike left.exposed right.exposed := by
  rw [Alike, ← exposed_flatten, ← exposed_flatten, alike]

/-- A number is like no other literal. -/
theorem eq_of_number
    (alike : Alike left right)
    (number : left.number?.isSome) :
    left = right := by
  cases left <;> simp [number?] at number <;>
    cases right <;> simp_all [Alike, flatten]

/-- Attempts whose results have the same flattened form are parallel. -/
theorem parallel
    {left right : Attempt R (Value R)}
    (agree : left.map flatten = right.map flatten) :
    Attempt.Parallel Alike left right := by
  cases left <;> cases right <;> simp only [Except.map, reduceCtorEq,
    Except.ok.injEq, Except.error.injEq] at agree
  · exact agree ▸ .error _
  · exact .ok agree

end Alike

/-! ## Operations -/

theorem arithmetic_flatten
    (operation : Number R → Number R → Attempt R (Number R))
    (left right : Value R) :
    arithmetic operation left.flatten right.flatten =
      (arithmetic operation left right).map flatten := by
  simp only [arithmetic, toNumber_flatten]
  cases left.toNumber with
  | error failure => rfl
  | ok first =>
      cases right.toNumber with
      | error failure => rfl
      | ok second =>
          simp only [Attempt.ok_bind]
          cases operation first second with
          | error failure => rfl
          | ok result => exact congrArg Except.ok (flatten_toValue result).symm

section

variable [Scalar R]

theorem add_flatten (left right : Value R) :
    left.flatten.add right.flatten = (left.add right).map flatten := by
  simp only [add, exposed_flatten]
  generalize left.exposed = first
  generalize right.exposed = second
  cases first with
  | text content => cases second <;> rfl
  | bytes octets => cases second <;> rfl
  | list items =>
      cases second <;>
        first
          | rfl
          | simp [flatten, flattenItems_eq_map, Except.map]
  | tuple items =>
      cases second <;>
        first
          | rfl
          | simp [flatten, flattenItems_eq_map, Except.map]
  | _ => exact arithmetic_flatten _ _ _

/-- Only a number can be added to a number. -/
theorem add_of_number
    {left : Value R}
    (number : left.number?.isSome)
    (right : Value R) :
    left.add right = arithmetic Number.add left right.exposed := by
  cases left <;> first | rfl | simp [number?] at number

/-- A number with something added to it is a number. -/
theorem number_of_add
    {left right sum : Value R}
    (number : left.number?.isSome)
    (added : left.add right = .ok sum) :
    sum.number?.isSome := by
  rw [add_of_number number] at added
  simp only [arithmetic, Attempt.bind_eq_ok, Except.ok.injEq] at added
  obtain ⟨_, _, _, _, result, _, rfl⟩ := added
  cases result <;> rfl

namespace Alike

variable {left left' right right' : Value R}

/-- Sums of alike literals are alike. -/
theorem add
    (first : Alike left left')
    (second : Alike right right') :
    Attempt.Parallel Alike (left.add right) (left'.add right') := by
  apply parallel
  rw [← add_flatten, ← add_flatten, first, second]

/-- What is added to a number matters as a number only. -/
theorem add_eq
    (alike : Alike right right')
    (number : left.number?.isSome) :
    left.add right = left.add right' := by
  rw [add_of_number number, add_of_number number, arithmetic, arithmetic,
    alike.exposed.toNumber_eq]

end Alike

end

/-! ## Repetition -/

variable [Machine R]

/-- Copies of changed items are changed copies. -/
theorem repeatItems_map
    (excess : Failure R)
    (function : α → β)
    (items : List α)
    (times : Int) :
    repeatItems excess (items.map function) times =
      (repeatItems excess items times).map (List.map function) := by
  simp only [repeatItems, List.isEmpty_map, List.length_map]
  split_ifs <;> simp [Except.map, List.map_flatten]

theorem repeated_flatten (times : Int) (value : Value R) :
    value.flatten.repeated times = (value.repeated times).map flatten := by
  simp only [repeated, exposed_flatten]
  cases value.exposed with
  | list items =>
      simp only [flatten, flattenItems_eq_map, repeatItems_map]
      cases (repeatItems .outOfMemory items times : Attempt R _) <;>
        simp [Except.map, flatten, flattenItems_eq_map]
  | tuple items =>
      simp only [flatten, flattenItems_eq_map, repeatItems_map]
      cases (repeatItems .outOfMemory items times : Attempt R _) <;>
        simp [Except.map, flatten, flattenItems_eq_map]
  | text content =>
      simp only [flatten]
      cases (repeatItems .overflow (Text.points content.toList) times : Attempt R _) <;> rfl
  | bytes octets =>
      simp only [flatten]
      cases (repeatItems .overflow octets times : Attempt R _) <;> rfl
  | _ => rfl

theorem mul_flatten (left right : Value R) :
    left.flatten.mul right.flatten = (left.mul right).map flatten := by
  simp only [mul, number?_flatten]
  split
  · exact arithmetic_flatten _ _ _
  · exact repeated_flatten _ _
  · exact repeated_flatten _ _
  · rfl

/-- Products of alike literals are alike. -/
theorem Alike.mul
    {left left' right right' : Value R}
    (first : Alike left left')
    (second : Alike right right') :
    Attempt.Parallel Alike (left.mul right) (left'.mul right') := by
  apply parallel
  rw [← mul_flatten, ← mul_flatten, first, second]

end Value
end MelodyAutomation

import MelodyAutomation.Value.Equality
import MelodyAutomation.Value.Obstacle

/-!
# What keys stand for

Two keys are the same when they stand for the same thing, however each of them is
spelled: a whole number, a scalar and a truth value may all stand for one number. So
among keys sameness is an equivalence. This fails for values in general, since a scalar
that is no number is not even the same as itself; a name is a key that is.
-/

namespace MelodyAutomation

/-! ## Numbers and moments -/

theorem Reading.compare?_eq_some_eq
    {left right : Reading} :
    left.compare? right = some .eq ↔ left ≠ .undefined ∧ left = right := by
  cases left with
  | finite value =>
      cases right with
      | finite other =>
          simp only [compare?, Option.some.injEq, ne_eq, reduceCtorEq,
            not_false_eq_true, finite.injEq, true_and]
          constructor
          · intro order
            split at order
            · cases order
            · split at order
              · assumption
              · cases order
          · rintro rfl
            rw [if_neg Rat.lt_irrefl, if_pos rfl]
      | infinite negative => cases negative <;> simp [compare?]
      | undefined => simp
  | infinite negative =>
      cases right with
      | finite other => cases negative <;> simp [compare?]
      | infinite other => cases negative <;> cases other <;> simp [compare?]
      | undefined => simp
  | undefined => simp [compare?]

/-- What a moment stands for: a number of microseconds on the zero meridian, or on a
clock whose offset is not known. -/
def Moment.standing (moment : Moment) : Int ⊕ Nat :=
  match moment.instant? with
  | some instant => .inl instant
  | none => .inr moment.clockReading

theorem Moment.same_iff
    {left right : Moment} :
    left.same right = true ↔ left.standing = right.standing := by
  unfold same standing
  cases left.instant? <;> cases right.instant? <;> simp

namespace Value

/-- What a value stands for as a key. Values that cannot be keys stand for nothing. -/
inductive Standing
  | null
  | number (reading : Reading)
  | text (content : String)
  | bytes (octets : List UInt8)
  | date (day : Date)
  | moment (reached : Int ⊕ Nat)
  | tuple (items : List Standing)
  | record (kind : RecordKind) (fields : List Standing)
  | nothing

variable {R : Type} [Scalar R]

mutual

/-- What a key stands for. -/
def standing : Value R → Standing
  | null => .null
  | bool truth => .number (.finite (if truth then 1 else 0))
  | int number => .number (.finite (number : Rat))
  | real scalar => .number (Scalar.reading scalar)
  | text content => .text content
  | bytes octets => .bytes octets
  | date day => .date day
  | moment reached => .moment reached.standing
  | tuple items => .tuple (standings items)
  | record kind fields => .record kind (standings fields)
  | _ => .nothing

/-- What the items of a list stand for. -/
def standings : List (Value R) → List Standing
  | [] => []
  | item :: rest => item.standing :: standings rest

end

/-- Two numbers are the same when they stand for one number. -/
theorem sameNumber_iff
    {left right : Value R}
    {reading : Reading}
    (number : left.reading? = some reading) :
    left.sameNumber right = true ↔
      reading ≠ .undefined ∧ right.reading? = some reading := by
  rw [sameNumber, number]
  cases right.reading? with
  | none => simp
  | some other =>
      simp only [beq_iff_eq, Reading.compare?_eq_some_eq, Option.some.injEq]
      rw [eq_comm (a := other)]

/-- A value that stands for a number is one. -/
theorem standing_eq_number
    {value : Value R}
    {reading : Reading} :
    value.standing = .number reading ↔ value.reading? = some reading := by
  cases value <;> simp [standing, reading?]

/-- A number is compared as a number, whatever it is compared with. -/
theorem same_of_number
    {value : Value R}
    {reading : Reading}
    (number : value.reading? = some reading)
    (other : Value R) :
    value.same other = value.sameNumber other := by
  cases value <;> cases number <;> cases other <;> simp [same]

/-- A number that is the same as itself is the same as what stands for it. -/
theorem same_iff_of_number
    {value : Value R}
    {reading : Reading}
    (number : value.reading? = some reading)
    (reflexive : value.same value = true)
    (other : Value R) :
    value.same other = true ↔ value.standing = other.standing := by
  rw [same_of_number number, sameNumber_iff number] at reflexive
  rw [same_of_number number, sameNumber_iff number,
    standing_eq_number.2 number, eq_comm (a := Standing.number reading),
    standing_eq_number]
  simp [reflexive.1]

/-! ## Keys -/

mutual

/-- A key that is the same as itself is the same as what stands for the same. -/
theorem same_iff :
    (key : Value R) →
      key.isHashable = true → key.isCircular = false →
      key.same key = true →
      ∀ other, key.same other = true ↔ key.standing = other.standing
  | null, _, _, _, other => by
      cases other <;> simp [same, sameNumber, reading?, standing]
  | bool truth, _, _, reflexive, other =>
      same_iff_of_number rfl reflexive other
  | int number, _, _, reflexive, other =>
      same_iff_of_number rfl reflexive other
  | real scalar, _, _, reflexive, other =>
      same_iff_of_number rfl reflexive other
  | text content, _, _, _, other => by
      cases other <;> simp [same, sameNumber, reading?, standing]
  | bytes octets, _, _, _, other => by
      cases other <;> simp [same, sameNumber, reading?, standing]
  | date day, _, _, _, other => by
      cases other <;> simp [same, sameNumber, reading?, standing]
  | moment reached, _, _, _, other => by
      cases other <;> simp [same, sameNumber, reading?, standing, Moment.same_iff]
  | tuple items, hashable, finite, reflexive, other => by
      simp only [isHashable, isCircular, same] at hashable finite reflexive
      have each := sameItems_iff items hashable finite reflexive
      cases other <;> simp [same, sameNumber, reading?, standing, each]
  | record kind fields, hashable, finite, reflexive, other => by
      simp only [isHashable, Bool.and_eq_true] at hashable
      simp only [isCircular] at finite
      simp only [same, Bool.and_eq_true] at reflexive
      have each := sameItems_iff fields hashable.2 finite reflexive.2
      cases other <;> simp [same, sameNumber, reading?, standing, each]
  | list _, hashable, _, _, _ => by simp [isHashable] at hashable
  | set _, hashable, _, _, _ => by simp [isHashable] at hashable
  | map _, hashable, _, _, _ => by simp [isHashable] at hashable
  | circular _ _, _, finite, _, _ => by simp [isCircular] at finite

/-- Lists of such keys are the same item by item. -/
theorem sameItems_iff :
    (items : List (Value R)) →
      allHashable items = true → anyCircular items = false →
      sameItems items items = true →
      ∀ others, sameItems items others = true ↔
        standings items = standings others
  | [], _, _, _, others => by cases others <;> simp [sameItems, standings]
  | item :: rest, hashable, finite, reflexive, others => by
      simp only [allHashable, Bool.and_eq_true] at hashable
      simp only [anyCircular, Bool.or_eq_false_iff] at finite
      simp only [sameItems, Bool.and_eq_true] at reflexive
      have first := same_iff item hashable.1 finite.1 reflexive.1
      have later := sameItems_iff rest hashable.2 finite.2 reflexive.2
      cases others with
      | nil => simp [sameItems, standings]
      | cons other others => simp [sameItems, standings, first, later]

end

end Value

/-! ## Names -/

/-- A name: a value that can be a key and can be shown, and that is the same as
itself. -/
structure Name (R : Type) [Machine R] where
  value : Value R
  hashable : value.isHashable = true
  finite : value.isCircular = false
  reflexive : value.same value = true
  shown : value.obstacle? = none

namespace Name

variable {R : Type} [Machine R]

/-- Every text is a name. -/
def ofText (content : String) : Name R where
  value := .text content
  hashable := by simp [Value.isHashable]
  finite := by simp [Value.isCircular]
  reflexive := by simp [Value.same]
  shown := by simp

/-- Names are the same as their values are. -/
instance : BEq (Name R) where
  beq left right := left.value.same right.value

@[simp] theorem same_value (left right : Name R) :
    left.value.same right.value = (left == right) := rfl

theorem beq_iff
    {left right : Name R} :
    (left == right) = true ↔ left.value.standing = right.value.standing :=
  left.value.same_iff left.hashable left.finite left.reflexive right.value

instance : EquivBEq (Name R) where
  rfl := beq_iff.2 rfl
  symm same := beq_iff.2 (beq_iff.1 same).symm
  trans first second := beq_iff.2 ((beq_iff.1 first).trans (beq_iff.1 second))

end Name
end MelodyAutomation

import MelodyAutomation.Value.Arithmetic

/-!
# Shapes

A shape says how an operation applies to the notes of a melody. A repeat shape
is a count for the whole melody or one count per note, a list of a single count
being broadcast to every note. A transform shape is one value for every note or
one value per note. A shape that was decoded before stands for what it wraps.
-/

namespace MelodyAutomation

/-- A decoded repeat shape. -/
inductive RepeatShape
  | count (times : Nat)
  | perElement (counts : List Nat)
  deriving DecidableEq, Repr

/-- A decoded transform shape. -/
inductive TransformShape (R : Type)
  | uniform (value : Value R)
  | perElement (values : List (Value R))

section

variable {R : Type}

/-- A decoded repeat shape as a literal. -/
def RepeatShape.toValue : RepeatShape → Value R
  | count times => .record .count [.int times]
  | perElement counts =>
      .record .counts [.tuple (counts.map fun times : Nat => .int times)]

/-- A decoded transform shape as a literal. -/
def TransformShape.toValue : TransformShape R → Value R
  | uniform value => .record .uniform [value]
  | perElement values => .record .perElement [.tuple values]

/-- What a decoded repeat shape wraps; any other literal stands for itself. -/
def unwrapRepeat : Value R → Value R
  | .record .count [times] => times
  | .record .counts [.tuple counts] => .list counts
  | .record .counts [.list counts] => .list counts
  | literal => literal

/-- What a decoded transform shape wraps; any other literal stands for itself. -/
def unwrapTransform : Value R → Value R
  | .record .uniform [value] => value
  | .record .perElement [.tuple values] => .list values
  | .record .perElement [.list values] => .list values
  | literal => literal

/-- Whether a literal is a number and not a truth value. -/
def isProperNumber : Value R → Bool
  | .int _ => true
  | .real _ => true
  | _ => false

/-- Counts for a number of notes: a single count is broadcast to every note. -/
def broadcast (counts : List Nat) (length : Nat) : List Nat :=
  match counts with
  | [only] => if 1 < length then List.replicate length only else counts
  | _ => counts

/-- The shape for a number of notes, if there is one count per note. -/
def RepeatShape.fit (length : Nat) :
    RepeatShape → Except (Misuse R) RepeatShape
  | count times => .ok (count times)
  | perElement counts =>
      let broadcast := broadcast counts length
      if broadcast.length = length then .ok (perElement broadcast)
      else .error (.repeatLength broadcast.length (.int length))

/-- The shape for a number of notes, if there is one value per note. -/
def TransformShape.fit (length : Nat) (label : String) :
    TransformShape R → Except (Misuse R) (TransformShape R)
  | uniform value => .ok (uniform value)
  | perElement values =>
      if values.length = length then .ok (perElement values)
      else .error (.transformLength label values.length (.int length))

variable [Scalar R]

/-- The count a literal stands for: a whole number that is not negative, or a
scalar that stands for one. -/
def count? : Value R → Option Nat
  | .int number => if number < 0 then none else some number.toNat
  | .real scalar =>
      match Scalar.wholeNumber? scalar with
      | some number => if number < 0 then none else some number.toNat
      | none => none
  | _ => none

/-- The counts of a list. -/
def RepeatShape.ofCounts (items : List (Value R)) :
    Except (Misuse R) RepeatShape :=
  match items.mapM count? with
  | none => .error (.repeatCounts items)
  | some counts => .ok (.perElement counts)

/-- Decode a repeat shape without regard to the number of notes. -/
def RepeatShape.read (literal : Value R) : Except (Misuse R) RepeatShape :=
  let shape := unwrapRepeat literal
  match shape.exposed with
  | .list items => RepeatShape.ofCounts items
  | .tuple items => RepeatShape.ofCounts items
  | _ =>
      match count? shape with
      | some times => .ok (.count times)
      | none => .error (.repeatShape shape)

/-- Decode a repeat shape for a melody of the given length. -/
def RepeatShape.ofValue (literal : Value R) (length : Nat) :
    Except (Misuse R) RepeatShape := do
  let shape ← RepeatShape.read literal
  shape.fit length

omit [Scalar R] in
/-- Decode a transform shape without regard to the number of notes. -/
def TransformShape.read (literal : Value R) (label : String) :
    Except (Misuse R) (TransformShape R) :=
  let shape := unwrapTransform literal
  match shape.exposed with
  | .list items => .ok (.perElement items)
  | .tuple items => .ok (.perElement items)
  | _ =>
      if isProperNumber shape then .ok (.uniform shape)
      else .error (.transformShape label shape)

omit [Scalar R] in
/-- Decode a transform shape for a melody of the given length. -/
def TransformShape.ofValue (literal : Value R) (length : Nat)
    (label : String) : Except (Misuse R) (TransformShape R) := do
  let shape ← TransformShape.read literal label
  shape.fit length label

end

/-! ## Lengths given by literals -/

section

variable {R : Type} [Machine R]

omit [Machine R] in
/-- An attempt that is refused because of a misuse. -/
def misused {α : Type} (result : Except (Misuse R) α) : Attempt R α :=
  match result with
  | .ok value => .ok value
  | .error fault => .error (.misuse fault)

/-- Counts for a length that a literal gives. A single count is repeated when the
length is more than one. -/
def broadcastTo (counts : List Nat) (length : Value R) :
    Attempt R (List Nat) :=
  match counts with
  | [_] => do
      let order ← length.compareNumbers (.int 1)
      if order = some .gt then
        match length.wholeNumber? with
        | some times => Value.repeatItems .outOfMemory counts times
        | none => .error .illTyped
      else .ok counts
  | _ => .ok counts

/-- Decode a repeat shape for a length that a literal gives. -/
def RepeatShape.forLength (literal length : Value R) :
    Attempt R RepeatShape := do
  match ← misused (RepeatShape.read literal) with
  | .count times => .ok (.count times)
  | .perElement own => do
      let counts ← broadcastTo own length
      if (Value.int counts.length).same length then .ok (.perElement counts)
      else .error (.misuse (.repeatLength counts.length length))

/-- Decode a transform shape for a length that a literal gives. -/
def TransformShape.forLength (literal length : Value R) (label : String) :
    Attempt R (TransformShape R) := do
  match ← misused (TransformShape.read literal label) with
  | .uniform value => .ok (.uniform value)
  | .perElement values =>
      if (Value.int values.length).same length then .ok (.perElement values)
      else .error (.misuse (.transformLength label values.length length))

end

end MelodyAutomation

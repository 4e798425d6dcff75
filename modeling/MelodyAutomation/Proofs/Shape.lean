import MelodyAutomation.Melody

/-!
# Decoded shapes

A shape that is decoded for a number of notes fits them: it holds for all of them
alike, or it has an entry for each. A single count in a list is one for every note.
-/

namespace MelodyAutomation

variable {R : Type}

namespace RepeatShape

/-- Counts that fit a number of notes are as many. -/
theorem length_of_fit
    {length : Nat}
    {shape : RepeatShape}
    {counts : List Nat}
    (fits : (shape.fit length : Except (Misuse R) RepeatShape) =
      .ok (.perElement counts)) :
    counts.length = length := by
  cases shape with
  | count times => cases fits
  | perElement own =>
      simp only [fit] at fits
      split at fits
      next same =>
          cases fits
          exact same
      next => cases fits

variable [Scalar R]

/-- There is one count per note in a decoded shape. -/
theorem length_of_ofValue
    {shape : Value R}
    {length : Nat}
    {counts : List Nat}
    (decodes : ofValue shape length = .ok (.perElement counts)) :
    counts.length = length := by
  unfold ofValue at decodes
  cases read : RepeatShape.read shape with
  | error fault => rw [read] at decodes; cases decodes
  | ok own =>
      rw [read] at decodes
      exact length_of_fit decodes

/-- A literal that is a count is one for the whole melody. -/
theorem ofValue_of_count
    {literal : Value R}
    {times : Nat}
    (counts : count? literal = some times)
    (length : Nat) :
    ofValue literal length = .ok (.count times) := by
  have itself : unwrapRepeat literal = literal := by
    cases literal <;> first | rfl | cases counts
  have read : RepeatShape.read literal = .ok (.count times) := by
    unfold RepeatShape.read
    simp only [itself, counts]
    cases literal <;> first | rfl | cases counts
  rw [ofValue, read]
  rfl

/-- A whole number that is not negative is a count. -/
@[simp] theorem count?_natCast (times : Nat) :
    count? (.int times : Value R) = some times := by
  simp [count?]

theorem ofValue_natCast (times length : Nat) :
    ofValue (.int times : Value R) length = .ok (.count times) :=
  ofValue_of_count (count?_natCast times) length

/-- A list of a single count is decoded to that count for every note, if there are
any. -/
theorem ofValue_singleton
    {literal : Value R}
    {times : Nat}
    (counts : count? literal = some times)
    {length : Nat}
    (some : 0 < length) :
    ofValue (.list [literal]) length =
      .ok (.perElement (List.replicate length times)) := by
  have read : RepeatShape.read (.list [literal]) = .ok (.perElement [times]) := by
    simp [RepeatShape.read, unwrapRepeat, ofCounts, counts]
  have spread : broadcast [times] length = List.replicate length times := by
    unfold broadcast
    by_cases more : 1 < length
    · simp [more]
    · obtain rfl : length = 1 := by omega
      rfl
  rw [ofValue, read]
  change RepeatShape.fit length (.perElement [times]) = _
  simp [RepeatShape.fit, spread]

end RepeatShape

namespace TransformShape

/-- A number holds for every note. -/
theorem ofValue_of_number
    {literal : Value R}
    (proper : isProperNumber literal = true)
    (length : Nat)
    (label : String) :
    ofValue literal length label = .ok (.uniform literal) := by
  cases literal <;> first | rfl | cases proper

/-- A list with an entry per note is decoded to its entries. -/
theorem ofValue_list
    (items : List (Value R))
    (label : String) :
    ofValue (.list items) items.length label = .ok (.perElement items) := by
  change TransformShape.fit items.length label (.perElement items) = _
  simp [TransformShape.fit]

/-- A decoded shape has a value for every note. -/
theorem length_shapeValues
    {literal : Value R}
    {length : Nat}
    {label : String}
    {decoded : TransformShape R}
    (decodes : ofValue literal length label = .ok decoded) :
    (Melody.shapeValues length decoded).length = length := by
  unfold ofValue at decodes
  cases read : TransformShape.read literal label with
  | error fault => rw [read] at decodes; cases decodes
  | ok own =>
      rw [read] at decodes
      change own.fit length label = _ at decodes
      cases own with
      | uniform value =>
          cases decodes
          exact List.length_replicate
      | perElement values =>
          simp only [fit] at decodes
          split at decodes
          next same =>
              cases decodes
              exact same
          next => cases decodes

end TransformShape
end MelodyAutomation

import MelodyAutomation.Numeral.Integer
import MelodyAutomation.Value

/-!
# What cannot be shown

Not every value has a text: a whole number has one only up to a number of digits,
and collections inside collections only up to a depth. The first obstacle on the
way through a value is what keeps it from being shown. A collection that contains
itself is no obstacle, because it is not looked into again.
-/

namespace MelodyAutomation
namespace Value

variable {R : Type}

/-- What keeps a value from being shown. -/
inductive Obstacle
  | tooManyDigits
  | tooDeep
  deriving DecidableEq, Repr

/-- Whether a whole number has few enough digits to be shown. -/
def isShort (number : Int) : Bool :=
  number.natAbs < Nat.pow 10 Numeral.digitLimit

mutual

/-- The first obstacle in a value inside the circular collections of some labels,
with room for a number of collections inside each other. -/
def obstacleInside? (around : List Nat) (room : Nat) :
    Value R → Option Obstacle
  | int number => if isShort number then none else some .tooManyDigits
  | list items => obstacleOfItems? around room items
  | tuple items => obstacleOfItems? around room items
  | set members => obstacleOfItems? around room members
  | map entries => obstacleOfEntries? around room entries
  | record _ fields => obstacleOfItems? around room fields
  | circular label collection =>
      if around.contains label then none
      else obstacleInside? (label :: around) room (collection ())
  | _ => none

/-- The first obstacle in the items of a collection. -/
def obstacleOfItems? (around : List Nat) (room : Nat) :
    List (Value R) → Option Obstacle
  | [] => none
  | item :: rest =>
      if room = 0 then some .tooDeep
      else
        (obstacleInside? around (room - 1) item).or
          (obstacleOfItems? around room rest)

/-- The first obstacle in the entries of a map. -/
def obstacleOfEntries? (around : List Nat) (room : Nat) :
    Entries R → Option Obstacle
  | [] => none
  | (key, value) :: rest =>
      if room = 0 then some .tooDeep
      else
        ((obstacleInside? around (room - 1) key).or
          (obstacleInside? around (room - 1) value)).or
          (obstacleOfEntries? around room rest)

end

variable [Machine R]

/-- What keeps a value from being written, if anything does. -/
def obstacle? (value : Value R) : Option Obstacle :=
  obstacleInside? [] (Machine.limits R).shownDepth value

@[simp] theorem obstacle?_text (content : String) :
    (text content : Value R).obstacle? = none := by
  simp [obstacle?, obstacleInside?]

end Value
end MelodyAutomation

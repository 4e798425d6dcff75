import MelodyAutomation.Value.Arithmetic
import MelodyAutomation.Value.Iteration

/-!
# Envelope specifications

An envelope is specified by the name of a registered curve, by an exponential
decay with a rate and a peak, or by its points. This module holds the
specifications and the points each of them stands for. What is given as a point
need not be one; this only matters when the curve is laid over a window.
-/

namespace MelodyAutomation
namespace Envelope

/-- A point of a curve: a time from 0 to 1 across a note, and a value there; or a
literal that was given for a point and is not a pair. -/
inductive Point (R : Type)
  | pair (time value : Value R)
  | unpaired (literal : Value R)

/-- What an envelope is made from. -/
inductive Spec (R : Type)
  | named (name : Value R)
  | damp (alpha beta : Value R)
  | explicit (points : List (Point R))

section

variable {R : Type}

/-- A point as a literal. -/
def Point.toValue : Point R → Value R
  | pair time value => .tuple [time, value]
  | unpaired literal => literal

/-- The point that a literal stands for. -/
def Point.ofValue (literal : Value R) : Point R :=
  match literal.toPair with
  | .ok (time, value) => pair time value
  | .error _ => unpaired literal

/-- The time and the value of a point. -/
def Point.coordinates : Point R → Attempt R (Value R × Value R)
  | pair time value => .ok (time, value)
  | unpaired literal => literal.toPair

@[simp] theorem Point.coordinates_pair (time value : Value R) :
    (pair time value).coordinates = .ok (time, value) := rfl

/-- A specification as a literal. -/
def Spec.toValue : Spec R → Value R
  | named name => .record .named [name]
  | damp alpha beta => .record .damp [alpha, beta]
  | explicit points => .record .explicit [.tuple (points.map Point.toValue)]

/-- The points that a record of explicit points holds. -/
def pointsOfRecord (points : Value R) : Attempt R (List (Point R)) := do
  let items ← points.toItems
  .ok (items.map Point.ofValue)

/-- The registered curves, in hundredths of time and value. -/
def registeredCurves : List (String × List (Nat × Nat)) :=
  [("bowed-string", [(0, 20), (10, 70), (50, 100), (80, 70), (100, 10)]),
    ("plucked-string", [(0, 0), (5, 100), (80, 20), (100, 0)]),
    ("drum-kick", [(0, 0), (1, 100), (100, 0)]),
    ("drum-hihat", [(0, 0), (1, 100), (10, 10), (20, 1), (100, 0)]),
    ("10", [(0, 0), (1, 100), (100, 0)])]

/-- The registered curve of a name, in hundredths. -/
def registeredCurve? (name : String) : Option (List (Nat × Nat)) :=
  registeredCurves.lookup name

section

variable [Scalar R]

/-- A number of hundredths as a literal. -/
def hundredths (number : Nat) : Value R :=
  .real (Scalar.ofDecimal number (-2))

/-- A point given in hundredths. -/
def pointOfHundredths (point : Nat × Nat) : Point R :=
  .pair (hundredths point.1) (hundredths point.2)

/-- The points of a named curve. -/
def namedPoints (name : Value R) : Attempt R (List (Point R)) :=
  if name.isHashable then
    match name with
    | .text content =>
        match registeredCurve? content with
        | some curve => .ok (curve.map pointOfHundredths)
        | none => .error .unknownKey
    | _ => .error .unknownKey
  else .error .illTyped

/-- The exponential of a literal. -/
def exponential (argument : Value R) : Attempt R R := do
  let number ← argument.toNumber
  let scalar ← number.toScalar
  match Scalar.bounded? Scalar.exp scalar with
  | some result => .ok result
  | none => .error .overflow

end

variable [Machine R]

/-- The decay at grid point `index`: the exponential of `-alpha · index` before
the last point, and zero there. -/
def decayAt (alpha : Value R) (steps : Int) (index : Int) : Attempt R R :=
  if index < steps then do
    let rate ← alpha.neg
    let argument ← rate.mul (.int index)
    exponential argument
  else .ok Scalar.zero

/-- Grid point `index` of a decay in a number of steps. -/
def decayPoint (alpha beta : Value R) (steps : Int) (index : Int) :
    Attempt R (Point R) := do
  let level ← decayAt alpha steps index
  let time ← Number.divWhole index steps
  let value ← (Value.real level).mul beta
  .ok (.pair (.real time) value)

/-- The number of grid points of a decay unless another one is asked for. -/
def decaySteps : Int := 4

/-- An exponential decay: a start at zero, the peak at once, then the decay at
every grid point. -/
def dampPoints (alpha beta steps : Value R) :
    Attempt R (List (Point R)) := do
  match steps.wholeNumber? with
  | some count =>
      let grid ← (List.range count.toNat).mapM fun index : Nat =>
        decayPoint alpha beta count (index + 1)
      .ok (.pair (hundredths 0) (hundredths 0) ::
        .pair (hundredths 1) beta :: grid)
  | none => .error .illTyped

/-- The points a specification stands for. -/
def Spec.points : Spec R → Attempt R (List (Point R))
  | named name => namedPoints name
  | damp alpha beta => dampPoints alpha beta (.int decaySteps)
  | explicit points => .ok points

end

end Envelope
end MelodyAutomation

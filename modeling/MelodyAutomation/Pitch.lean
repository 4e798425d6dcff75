import MelodyAutomation.Value.Arithmetic

/-!
# Pitches

The twelve pitch classes and their frequencies. The reference pitch is an A, so
a class is counted in halfsteps above A, and the frequency doubles with every
twelve halfsteps.
-/

namespace MelodyAutomation
namespace Pitch

/-- The pitch class of a rest. -/
def rest : String := "0"

/-- The pitch classes, in halfsteps above A. -/
def classes : List String :=
  ["A", "A#", "B", "C", "C#", "D", "D#", "E", "F", "F#", "G", "G#"]

/-- Halfsteps in an octave. -/
def halfstepsPerOctave : Int := 12

/-- The distance of a pitch class above A, if the name is one. -/
def halfsteps? (name : String) : Option Nat :=
  let index := classes.findIdx fun own => own == name
  if index < classes.length then some index else none

/-- The distance of the pitch class that a literal names. -/
def halfstepsOf? {R : Type} : Value R → Option Nat
  | .text name => halfsteps? name
  | _ => none

variable {R : Type} [Machine R]

/-- The reference frequency, of the A in octave zero. -/
def referenceFrequency : Value R := .real (Scalar.ofDecimal 440 0)

/-- A power of two, unless a finite exponent leads out of range. -/
def powerOfTwo (exponent : R) : Attempt R R :=
  match Scalar.bounded? Scalar.exp2 exponent with
  | some power => .ok power
  | none => .error .overflow

/-- The distance from the reference pitch, in halfsteps. -/
def distance (index : Nat) (octave offset : Value R) :
    Attempt R (Value R) := do
  let shifted ← (Value.int index).add offset
  let octaves ← octave.mul (.int halfstepsPerOctave)
  shifted.add octaves

/-- The frequency at a distance from the reference pitch. -/
def frequencyAt (halfsteps base : Value R) : Attempt R (Value R) := do
  let octaves ← halfsteps.div (.int halfstepsPerOctave)
  let power ← powerOfTwo octaves
  (Value.real power).mul base

/-- The frequency of a pitch class: zero for a rest, none for an unknown name. -/
def frequency? (pitch octave offset base : Value R) :
    Attempt R (Option (Value R)) :=
  if pitch.isText rest then .ok (some (.real Scalar.zero))
  else if pitch.isHashable then
    match halfstepsOf? pitch with
    | none => .ok none
    | some index => do
        let halfsteps ← distance index octave offset
        let frequency ← frequencyAt halfsteps base
        .ok (some frequency)
  else .error .illTyped

/-- A frequency depends on the octave and the offset through the distance from the
reference pitch alone. -/
theorem frequency?_congr
    {octave octave' offset offset' : Value R}
    (agree : ∀ index, distance index octave offset =
      distance index octave' offset')
    (pitch base : Value R) :
    frequency? pitch octave offset base =
      frequency? pitch octave' offset' base := by
  simp only [frequency?, agree]

end Pitch
end MelodyAutomation

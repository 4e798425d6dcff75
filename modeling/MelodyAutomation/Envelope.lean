import MelodyAutomation.Envelope.Descriptor
import MelodyAutomation.Logged

/-!
# Envelopes

An envelope is a nonempty curve made from a literal: a descriptor, a sequence
of time and value pairs, or a specification. Laid over a window of time it
becomes a block of segments that all start with the window; the segment of a
point reaches the point's value, scaled, at the point's share of the window.
-/

namespace MelodyAutomation

/-- One ramp instruction: reach `value` at `start + ramp`. -/
structure Segment (R : Type) where
  start : Value R
  ramp : Value R
  value : Value R

/-- A segment as a literal. -/
def Segment.toValue {R : Type} (segment : Segment R) : Value R :=
  .tuple [segment.start, segment.ramp, segment.value]

/-- The segments of one envelope laid over one window. -/
abbrev Block (R : Type) := List (Segment R)

/-- A curve together with the specification it was made from. -/
structure Envelope (R : Type) where
  spec : Envelope.Spec R
  points : List (Envelope.Point R)

namespace Envelope

variable {R : Type}

section

variable [Scalar R]

/-- Two literals as a point of scalars. -/
def scalarPoint (item : Value R) : Attempt R (Point R) := do
  let (time, value) ← item.toPair
  let first ← time.toScalar
  let second ← value.toScalar
  .ok (.pair (.real first) (.real second))

/-- The points of a sequence of time and value pairs, all as scalars. -/
def scalarPoints (literal : Value R) : Attempt R (List (Point R)) := do
  let items ← literal.toItems
  items.mapM scalarPoint

/-- Decode a literal that must be a sequence of time and value pairs. A number
out of range is a failure of its own. -/
def explicitSpec (literal : Value R) : Attempt R (Spec R) :=
  match scalarPoints literal with
  | .ok points => .ok (.explicit points)
  | .error .illTyped => .error (.configuration (.notPoints literal))
  | .error .malformed => .error (.configuration (.notPoints literal))
  | .error failure => .error failure

/-- Decode any envelope literal. -/
def specOfValue : Value R → Attempt R (Spec R)
  | .record .named [name] => .ok (.named name)
  | .record .damp [alpha, beta] => .ok (.damp alpha beta)
  | .record .explicit [points] => do
      let decoded ← pointsOfRecord points
      .ok (.explicit decoded)
  | .text descriptor => parseDescriptor descriptor
  | literal => explicitSpec literal

/-- The number of points. -/
def length (envelope : Envelope R) : Nat := envelope.points.length

/-- The written form of an envelope. -/
def written (envelope : Envelope R) : String :=
  "Envelope(" ++ envelope.spec.toValue.written ++ ")"

/-- The window of time that an envelope is laid over, the scale of its values,
and whether the first and the last value are forced to zero. -/
structure Window (R : Type) where
  start : Value R
  duration : Value R
  scale : Value R
  zeroFirst : Bool
  zeroLast : Bool

/-- The value of the point at `index` of `length` points once ends are zeroed.
Curves of fewer than three points are never zeroed. -/
def endValue (window : Window R) (length index : Nat) (value : Value R) :
    Value R :=
  if length < 3 then value
  else if window.zeroFirst ∧ index = 0 then .real Scalar.zero
  else if window.zeroLast ∧ index + 1 = length then .real Scalar.zero
  else value

end

variable [Machine R]

/-- Make an envelope from a literal; a literal without points takes the points
of a default instead. -/
def ofValue (literal default : Value R) : Logged R (Envelope R) := do
  let spec ← specOfValue literal
  let own ← spec.points
  if own.isEmpty then
    Logged.report .emptyEnvelope
    let points ← scalarPoints default
    if points.isEmpty then throw (.configuration .noPoints)
    else pure ⟨spec, points⟩
  else pure ⟨spec, own⟩

/-- The segment of one point. -/
def segment (window : Window R) (length index : Nat) (point : Point R) :
    Attempt R (Segment R) := do
  let (time, level) ← point.coordinates
  let ramp ← time.mul window.duration
  let value ← (endValue window length index level).mul window.scale
  .ok ⟨window.start, ramp, value⟩

/-- The segments of points from `index` on. -/
def segmentsFrom (window : Window R) (length : Nat) :
    Nat → List (Point R) → Attempt R (Block R)
  | _, [] => .ok []
  | index, point :: rest => do
      let first ← segment window length index point
      let others ← segmentsFrom window length (index + 1) rest
      .ok (first :: others)

/-- Lay an envelope over a window. -/
def reduce (envelope : Envelope R) (window : Window R) : Attempt R (Block R) :=
  segmentsFrom window envelope.length 0 envelope.points

end Envelope
end MelodyAutomation

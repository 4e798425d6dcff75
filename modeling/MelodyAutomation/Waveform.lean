import MelodyAutomation.Failure
import MelodyAutomation.Value.Equality

/-!
# Waveforms

A waveform is one of the built-in shapes or a periodic wave given by the
amplitudes of its harmonics, the constant term first. Amplitudes are quotients
of small numbers or values of an elementary function at the harmonic's number.
-/

namespace MelodyAutomation

/-- A built-in shape, or a periodic wave with its harmonic amplitudes. -/
structure Waveform (R : Type) where
  name : String
  builtin : Option String
  amplitudes : List R

namespace Waveform

variable {R : Type}

/-- Whether a waveform is given by its harmonics. -/
def isPeriodic (waveform : Waveform R) : Bool := waveform.builtin.isNone

/-- The built-in shapes under all their names. -/
def builtins : List (String × String) :=
  [("sine", "sine"), ("triangle", "triangle"), ("square", "square"),
    ("sawtooth", "sawtooth"), ("saw", "sawtooth")]

/-- Tables of amplitudes with one denominator each. -/
def quotientTables : List (String × Nat × List Nat) :=
  [("violin", 9, [0, 9, 4, 4, 4, 6, 5, 6, 5, 3, 3, 2, 1, 2, 2, 1]),
    ("viola", 12, [0, 6, 12, 5, 10, 4, 8, 2, 4, 1, 2]),
    ("string_a", 40,
      [0, 40, 37, 33, 23, 2, 18, 22, 21, 14, 2, 11, 16, 15, 8, 2, 6, 12, 11,
        5]),
    ("bass", 10000, [0, 10000, 8144, 2062, 206]),
    ("horn", 10, [0, 4, 4, 10, 10, 10, 3, 7, 6, 5, 9, 8]),
    ("organ_1", 1, [0, 1, 1, 1, 1, 0, 1, 0, 1, 0, 0, 0, 1]),
    ("organ_2", 10, [0, 8, 6, 6, 7, 6, 0, 8, 3, 10])]

/-- The circle constant. -/
def circle : Float := 3.141592653589793

/-- A narrow pulse wave: the amplitude of one harmonic. -/
def pulseAmplitude (harmonic : Float) : Float :=
  4.0 / (harmonic * circle) * Float.sin (circle * harmonic * 0.18)

/-- Harmonics that fall with the exponential of the square root. -/
def rootDecay (harmonic : Float) : Float :=
  Float.exp (1.0 - Float.sqrt (2.0 * harmonic))

/-- Harmonics that fall with the exponential of the squared logarithm. -/
def logarithmDecay (harmonic : Float) : Float :=
  Float.exp (1.0 - Float.pow (Float.log (harmonic + 2.0)) 2.0)

/-- Harmonics that fall exponentially. -/
def exponentialDecay (harmonic : Float) : Float := Float.exp (1.0 - harmonic)

/-- Harmonics that fall quadratically with a cosine of the square. -/
def cosineDecay (harmonic : Float) : Float :=
  1.5 * Float.cos (harmonic * harmonic) / (harmonic * harmonic)

/-- Tables of amplitudes computed from the number of the harmonic: the number of
harmonics, and the amplitude of each. -/
def computedTables : List (String × Nat × (Float → Float)) :=
  [("chiptune", 99, pulseAmplitude), ("exp1", 49, rootDecay),
    ("exp2", 49, logarithmDecay), ("exp3", 49, exponentialDecay),
    ("exp4", 49, cosineDecay)]

variable [Scalar R]

/-- A quotient as a scalar. -/
def quotient (denominator numerator : Nat) : R :=
  (Scalar.nearest? false (mkRat numerator denominator)).getD Scalar.zero

/-- The amplitudes of a periodic waveform. -/
def amplitudes? (name : String) : Option (List R) :=
  match quotientTables.lookup name with
  | some (denominator, numerators) =>
      some (numerators.map (quotient denominator))
  | none =>
      (computedTables.lookup name).map fun (count, amplitude) =>
        (List.range count).map fun index =>
          Scalar.ofDouble (amplitude (Float.ofNat (index + 1)))

/-- The waveform of a name. -/
def ofName? (name : String) : Option (Waveform R) :=
  match builtins.lookup name with
  | some builtin => some ⟨name, some builtin, []⟩
  | none => (amplitudes? name).map fun amplitudes => ⟨name, none, amplitudes⟩

/-- The waveform that a literal names. -/
def ofValue (literal : Value R) : Attempt R (Waveform R) :=
  if literal.isHashable then
    match literal with
    | .text name =>
        match ofName? name with
        | some waveform => .ok waveform
        | none => .error (.configuration (.unknownWaveform literal))
    | _ => .error (.configuration (.unknownWaveform literal))
  else .error .illTyped

/-- The cosine coefficients of a periodic waveform, all zero. -/
def cosines (waveform : Waveform R) : List R :=
  waveform.amplitudes.map fun _ => Scalar.zero

end Waveform
end MelodyAutomation

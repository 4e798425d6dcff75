/-!
# Envelope targets

The four parameters of an instrument that an envelope can drive: frequency and
gain of the oscillator, gain of the noise, frequency of the filter. A value for
each of them is a `PerTarget`, observed by `get` alone.
-/

namespace MelodyAutomation

/-- A parameter that an envelope can drive. -/
inductive Target
  | oscillatorFrequency
  | oscillatorGain
  | noiseGain
  | filterFrequency
  deriving DecidableEq, Repr

namespace Target

/-- The name of a target in settings and messages. -/
def name : Target → String
  | oscillatorFrequency => "osc.freq"
  | oscillatorGain => "osc.gain"
  | noiseGain => "noise.gain"
  | filterFrequency => "filter.freq"

/-- All targets, in the order in which they are scheduled and written. -/
def all : List Target :=
  [oscillatorFrequency, oscillatorGain, noiseGain, filterFrequency]

/-- The target of a name. -/
def ofName? (name : String) : Option Target :=
  all.find? fun target => target.name == name

theorem mem_all (target : Target) : target ∈ all := by
  cases target <;> simp [all]

@[simp] theorem ofName?_name (target : Target) :
    ofName? target.name = some target := by
  cases target <;> decide

end Target

/-- One value for every target. -/
structure PerTarget (α : Type) where
  oscillatorFrequency : α
  oscillatorGain : α
  noiseGain : α
  filterFrequency : α

namespace PerTarget

variable {α β : Type}

/-- The value for a target. -/
def get (values : PerTarget α) : Target → α
  | .oscillatorFrequency => values.oscillatorFrequency
  | .oscillatorGain => values.oscillatorGain
  | .noiseGain => values.noiseGain
  | .filterFrequency => values.filterFrequency

/-- The values of a function at every target. -/
def tabulate (function : Target → α) : PerTarget α where
  oscillatorFrequency := function .oscillatorFrequency
  oscillatorGain := function .oscillatorGain
  noiseGain := function .noiseGain
  filterFrequency := function .filterFrequency

@[simp] theorem get_tabulate (function : Target → α) (target : Target) :
    (tabulate function).get target = function target := by
  cases target <;> rfl

@[ext] theorem ext
    {left right : PerTarget α}
    (agree : ∀ target, left.get target = right.get target) :
    left = right := by
  cases left
  cases right
  have first := agree .oscillatorFrequency
  have second := agree .oscillatorGain
  have third := agree .noiseGain
  have fourth := agree .filterFrequency
  simp_all [get]

/-- Compute a value for every target, in the order of `Target.all`. -/
def tabulateM {m : Type → Type} [Monad m] (function : Target → m α) :
    m (PerTarget α) := do
  let oscillatorFrequency ← function .oscillatorFrequency
  let oscillatorGain ← function .oscillatorGain
  let noiseGain ← function .noiseGain
  let filterFrequency ← function .filterFrequency
  pure ⟨oscillatorFrequency, oscillatorGain, noiseGain, filterFrequency⟩

/-- The targets with their values, in order. -/
def entries (values : PerTarget α) : List (Target × α) :=
  Target.all.map fun target => (target, values.get target)

end PerTarget
end MelodyAutomation

import MelodyAutomation.Melody

/-!
# Melody transforms as data

The nine operations of the algebra that can be named from outside, with their
arguments, as a data type; chains of them, where a chain may also be mapped over
the notes; and the steps of a song file, which spell transforms as a name, as a
list of a name and arguments, or as a map from a name to one argument.
-/

namespace MelodyAutomation

/-- The operations of the algebra that can be named from outside. -/
inductive Operation
  | repeatBy
  | loop
  | transpose
  | stretch
  | arpeggio
  | chord
  | prolongLast
  | blueMondayBass
  | funkyBass
  deriving DecidableEq, Repr

namespace Operation

/-- The name of an operation. -/
def name : Operation → String
  | repeatBy => "repeat"
  | loop => "loop"
  | transpose => "transpose"
  | stretch => "temp"
  | arpeggio => "arpeggio"
  | chord => "chord"
  | prolongLast => "prolong_last"
  | blueMondayBass => "blue_monday_bass"
  | funkyBass => "funky_bass"

/-- All operations. -/
def all : List Operation :=
  [repeatBy, loop, transpose, stretch, arpeggio, chord, prolongLast,
    blueMondayBass, funkyBass]

/-- The operation of a name. -/
def ofName? (name : String) : Option Operation :=
  all.find? fun operation => operation.name == name

@[simp] theorem ofName?_name (operation : Operation) :
    ofName? operation.name = some operation := by
  cases operation <;> decide

end Operation

/-- An operation with its arguments. -/
inductive Transform (R : Type)
  | repeatBy (shape fit : Value R)
  | loop (times : Value R)
  | transpose (shape : Value R)
  | stretch (shape : Value R)
  | arpeggio (offsets : Value R)
  | chord (tuning : Value R)
  | prolongLast (duration : Value R)
  | blueMondayBass
  | funkyBass

namespace Transform

variable {R : Type}

/-- The transform of an operation and its arguments, defaults filled in; too few
or too many arguments are refused. -/
def ofArguments : Operation → List (Value R) → Attempt R (Transform R)
  | .repeatBy, [shape] => .ok (repeatBy shape (.bool true))
  | .repeatBy, [shape, fit] => .ok (repeatBy shape fit)
  | .loop, [times] => .ok (loop times)
  | .transpose, [shape] => .ok (transpose shape)
  | .stretch, [shape] => .ok (stretch shape)
  | .arpeggio, [offsets] => .ok (arpeggio offsets)
  | .chord, [] => .ok (chord (.text "maj"))
  | .chord, [tuning] => .ok (chord tuning)
  | .prolongLast, [] => .ok (prolongLast (.int 1))
  | .prolongLast, [duration] => .ok (prolongLast duration)
  | .blueMondayBass, [] => .ok blueMondayBass
  | .funkyBass, [] => .ok funkyBass
  | _, _ => .error .illTyped

variable [Machine R]

/-- Apply a transform to a melody. -/
def apply : Transform R → Melody R → Logged R (Melody R)
  | repeatBy shape fit, melody => melody.repeatBy shape fit
  | loop times, melody => melody.loop times
  | transpose shape, melody => melody.transpose shape
  | stretch shape, melody => melody.stretch shape
  | arpeggio offsets, melody => melody.arpeggio offsets
  | chord tuning, melody => melody.chord tuning
  | prolongLast duration, melody => melody.prolongLast duration
  | blueMondayBass, melody => melody.blueMondayBass
  | funkyBass, melody => melody.funkyBass

end Transform

/-- A call in a chain: a transform, or a chain mapped over the notes. -/
inductive Call (R : Type)
  | transform (operation : Transform R)
  | map (chain : List (Call R))

namespace Call

variable {R : Type} [Machine R]

mutual

/-- Perform a call on a melody. -/
def perform : Call R → Melody R → Logged R (Melody R)
  | transform operation, melody => operation.apply melody
  | map chain, melody => melody.map (performAll chain)

/-- Perform the calls of a chain one after another. -/
def performAll : List (Call R) → Melody R → Logged R (Melody R)
  | [], melody => pure melody
  | call :: rest, melody => do
      let next ← perform call melody
      performAll rest next

end

@[simp] theorem performAll_nil (melody : Melody R) :
    performAll [] melody = pure melody := by
  simp [performAll]

theorem performAll_cons
    (call : Call R)
    (rest : List (Call R))
    (melody : Melody R) :
    performAll (call :: rest) melody =
      call.perform melody >>= performAll rest := by
  simp [performAll]

end Call

namespace Step

variable {R : Type}

/-- The name and arguments that a step of a song file spells. -/
def split (step : Value R) : Attempt R (Value R × List (Value R)) :=
  match step.exposed with
  | .text name => .ok (.text name, [])
  | .list (.text name :: arguments) => .ok (.text name, arguments)
  | .tuple (.text name :: arguments) => .ok (.text name, arguments)
  | .map [(name, argument)] =>
      .ok (name, if argument.isNull then [] else [argument])
  | _ => .error (.configuration (.malformedStep step))

/-- The operation that the name of a step stands for. -/
def operation (name : Value R) : Attempt R Operation :=
  match name with
  | .text content =>
      match Operation.ofName? content with
      | some operation => .ok operation
      | none => .error (.configuration (.unknownStep name))
  | _ => .error (.configuration (.unknownStep name))

/-- Perform the steps of a list in order. What it means to perform an operation
is left to the kind of object at hand. -/
def performItems {α : Type}
    (perform : Operation → List (Value R) → α → Logged R α) :
    List (Value R) → α → Logged R α
  | [], subject => pure subject
  | step :: rest, subject => do
      let (name, arguments) ← split step
      let chosen ← operation name
      let next ← perform chosen arguments subject
      performItems perform rest next

/-- Perform the steps of a sequence literal in order. -/
def performAll {α : Type}
    (perform : Operation → List (Value R) → α → Logged R α)
    (steps : Value R) (subject : α) : Logged R α := do
  let items ← steps.toItems
  performItems perform items subject

/-- An object without operations understands none. -/
def refuseAll {α : Type} :
    Operation → List (Value R) → α → Logged R α :=
  fun _ _ _ => .refuse .notUnderstood

variable [Machine R]

/-- Perform an operation on a melody. -/
def onMelody (operation : Operation) (arguments : List (Value R))
    (melody : Melody R) : Logged R (Melody R) := do
  let transform ← Transform.ofArguments operation arguments
  transform.apply melody

end Step

/-- Apply the transform steps of a song file to a melody. -/
def Melody.applySteps {R : Type} [Machine R] (melody : Melody R)
    (steps : Value R) : Logged R (Melody R) :=
  Step.performAll Step.onMelody steps melody

end MelodyAutomation

import MelodyAutomation.Envelope.Spec

/-!
# Envelope descriptors

A descriptor is a text that names a registered curve or applies a function:
`name`, `function(alpha)` or `function(alpha)*beta`, where both factors are
nonempty runs of digits and points. White space around a descriptor is ignored.

A descriptor has at most one reading as an application, because neither a
factor nor the punctuation between the factors can be mistaken for the other:
it is found from the end of the text.
-/

namespace MelodyAutomation
namespace Envelope

/-- Whether a character may stand in a factor. -/
def isFactorCharacter (character : Char) : Bool :=
  character == '.' || Text.isDigit character

/-- A descriptor read as an application of a function. -/
structure Application where
  function : List Char
  alpha : List Char
  beta : Option (List Char)
  deriving DecidableEq

/-- Read `function(alpha` backwards, given the rest of the application. -/
def openApplication? (beta : Option (List Char)) (reversed : List Char) :
    Option Application :=
  let alpha := reversed.takeWhile isFactorCharacter
  match reversed.dropWhile isFactorCharacter with
  | '(' :: function =>
      if alpha = [] ∨ function = [] ∨ '\n' ∈ function then none
      else some ⟨function.reverse, alpha.reverse, beta⟩
  | _ => none

/-- Read a text as an application, if it has that form. -/
def application? (characters : List Char) : Option Application :=
  let reversed := characters.reverse
  let last := reversed.takeWhile isFactorCharacter
  match reversed.dropWhile isFactorCharacter with
  | ')' :: rest =>
      if last = [] then openApplication? none rest else none
  | '*' :: ')' :: rest =>
      if last = [] then none else openApplication? (some last.reverse) rest
  | _ => none

/-- The written form of an application. -/
def Application.written (application : Application) : List Char :=
  application.function ++ '(' :: (application.alpha ++ ')' ::
    match application.beta with
    | some beta => '*' :: beta
    | none => [])

variable {R : Type} [Scalar R]

/-- The value of a factor: one when it is absent or zero. -/
def factor (text : Option (List Char)) (descriptor : String) : Attempt R R :=
  match text with
  | none => .ok Scalar.one
  | some characters =>
      let content := String.ofList characters
      match (Numeral.readReal? content).bind Scalar.ofLiteral? with
      | some scalar =>
          .ok (if Scalar.isZero scalar then Scalar.one else scalar)
      | none => .error (.configuration (.malformedFactor content descriptor))

/-- The only function of descriptors. -/
def dampFunction : String := "damp"

/-- Decode a descriptor. -/
def parseDescriptor (text : String) : Attempt R (Spec R) :=
  let characters := Text.strip text.toList
  let descriptor := String.ofList characters
  match application? characters with
  | none =>
      if (registeredCurve? descriptor).isSome then
        .ok (.named (.text descriptor))
      else .error (.configuration (.unknownEnvelope descriptor))
  | some application =>
      let function := String.ofList application.function
      if function = dampFunction then do
        let alpha ← factor (some application.alpha) descriptor
        let beta ← factor application.beta descriptor
        .ok (.damp (.real alpha) (.real beta))
      else .error (.configuration (.unknownFunction function descriptor))

end Envelope
end MelodyAutomation

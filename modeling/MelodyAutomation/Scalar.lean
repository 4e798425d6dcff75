import MelodyAutomation.Numeral.Layout
import MelodyAutomation.Numeral.Real

/-!
# Scalars

The library computes with times, durations, gains and frequencies over a type
of scalars that is left open. Double-precision numbers run it; the rational
numbers give every definition its exact reading. What a scalar stands for is
its `Reading`, and comparison, truncation and formatting are defined through
it, once for all scalars.
-/

namespace MelodyAutomation

/-- What a scalar stands for: a rational number, an infinity, or no number. -/
inductive Reading
  | finite (value : Rat)
  | infinite (negative : Bool)
  | undefined
  deriving DecidableEq

namespace Reading

/-- The order of two readings; an undefined one has no order. -/
def compare? : Reading → Reading → Option Ordering
  | .finite left, .finite right =>
      some (if left < right then .lt else if left = right then .eq else .gt)
  | .finite _, .infinite negative => some (if negative then .gt else .lt)
  | .infinite negative, .finite _ => some (if negative then .lt else .gt)
  | .infinite left, .infinite right =>
      some (if left == right then .eq else if left then .lt else .gt)
  | .undefined, _ => none
  | _, .undefined => none

@[simp] theorem compare?_undefined (reading : Reading) :
    compare? reading .undefined = none := by
  cases reading <;> rfl

/-- The whole number a reading stands for, if it is one. -/
def wholeNumber? : Reading → Option Int
  | .finite value => if value.den = 1 then some value.num else none
  | _ => none

@[simp] theorem wholeNumber?_finite_intCast (number : Int) :
    wholeNumber? (.finite (number : Rat)) = some number := by
  simp [wholeNumber?]

end Reading

/-- The operations the library needs on its scalars. Rounding is part of the
operations: `nearest?` finds the scalar nearest to a rational number, and has
none for a number beyond the scalars' range. -/
class Scalar (R : Type) where
  /-- What a scalar stands for. -/
  reading : R → Reading
  /-- Whether a scalar carries a minus sign, which zero may do as well. -/
  isNegative : R → Bool
  /-- The scalar nearest to a rational number; the flag is the sign of zero. -/
  nearest? : Bool → Rat → Option R
  /-- The scalar nearest to `coefficient · 10 ^ exponent`. -/
  ofDecimal : Nat → Int → R
  /-- Positive infinity, where there is one. -/
  infinity? : Option R
  /-- The scalar that is no number, where there is one. -/
  notANumber? : Option R
  /-- The scalar nearest to a tabulated double. -/
  ofDouble : Float → R
  add : R → R → R
  sub : R → R → R
  mul : R → R → R
  /-- Division by a scalar that does not stand for zero. -/
  div : R → R → R
  neg : R → R
  /-- The exponential function. -/
  exp : R → R
  /-- Powers of two. -/
  exp2 : R → R
  /-- The text that reads back as the scalar. -/
  text : R → String

namespace Scalar

variable {R : Type} [Scalar R]

/-- The scalar zero. -/
def zero : R := ofDecimal 0 0

/-- The scalar one. -/
def one : R := ofDecimal 1 0

/-- The scalar nearest to a whole number, if there is one in range. -/
def ofInt? (number : Int) : Option R := nearest? false (number : Rat)

/-- Compare a scalar with another one by what they stand for. -/
def compare? (left right : R) : Option Ordering :=
  (reading left).compare? (reading right)

/-- Compare a scalar with a whole number, exactly. -/
def compareInt? (left : R) (right : Int) : Option Ordering :=
  (reading left).compare? (.finite (right : Rat))

/-- Whether a scalar stands for zero. -/
def isZero (scalar : R) : Bool := compareInt? scalar 0 == some .eq

/-- Whether a scalar is greater than zero. -/
def isPositive (scalar : R) : Bool := compareInt? scalar 0 == some .gt

/-- The whole number a scalar stands for, if it is one. -/
def wholeNumber? (scalar : R) : Option Int := (reading scalar).wholeNumber?

/-- Apply a function that grows beyond all bounds: a finite argument whose value
is out of range has no result. -/
def bounded? (function : R → R) (argument : R) : Option R :=
  let result := function argument
  match reading argument, reading result with
  | .finite _, .infinite _ => none
  | _, _ => some result

/-- A scalar with a fixed number of digits after the point, rounded from its
exact value. -/
def fixedText (places : Nat) (scalar : R) : String :=
  let sign := if isNegative scalar then ['-'] else []
  match reading scalar with
  | .finite value =>
      String.ofList
        (sign ++ Numeral.writeFixed places value.num.natAbs value.den)
  | .infinite _ => String.ofList (sign ++ "inf".toList)
  | .undefined => "nan"

/-- The scalar a numeral denotes, if it has one. -/
def ofLiteral? : Numeral.RealLiteral → Option R
  | .decimal negative coefficient exponent =>
      let magnitude : R := ofDecimal coefficient exponent
      some (if negative then neg magnitude else magnitude)
  | .infinity negative =>
      infinity?.map fun infinity => if negative then neg infinity else infinity
  | .notANumber => notANumber?

end Scalar
end MelodyAutomation

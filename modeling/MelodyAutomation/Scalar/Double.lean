import MelodyAutomation.Machine
import MelodyAutomation.Scalar.Binary

/-!
# Doubles as scalars

The scalars that run the library. The elementary functions agree with exact
values where these are exact: the exponential at zero, and every whole power
of two in range. The exponential of a number below zero does not exceed one.
-/

namespace MelodyAutomation
namespace Binary

/-- A double that stands for a number of at most one; one in place of any other. -/
def atMostOne (double : Float) : Float :=
  match reading double with
  | .finite value => if value ≤ 1 then double else 1.0
  | _ => 1.0

/-- The exponential function of a double; at zero it is exactly one. -/
def exp (double : Float) : Float :=
  match reading double with
  | .finite value =>
      if value = 0 then 1.0
      else if value < 0 then atMostOne (Float.exp double)
      else Float.exp double
  | .infinite negative => if negative then 0.0 else infinity
  | .undefined => notANumber

/-- A power of two; a whole exponent gives the exact power. -/
def exp2 (double : Float) : Float :=
  match reading double with
  | .finite value =>
      if value.den = 1 then
        if value.num < leastExponent - 1 then 0.0
        else if 1023 < value.num then infinity
        else (nearest? false (scaled 1 value.num)).getD infinity
      else Float.pow 2.0 double
  | .infinite negative => if negative then 0.0 else infinity
  | .undefined => notANumber

end Binary

instance : Scalar Float where
  reading := Binary.reading
  isNegative double := (Binary.fields double).negative
  nearest? := Binary.nearest?
  ofDecimal := Binary.ofDecimal
  infinity? := some Binary.infinity
  notANumber? := some Binary.notANumber
  ofDouble double := double
  add left right := left + right
  sub left right := left - right
  mul left right := left * right
  div left right := left / right
  neg double := -double
  exp := Binary.exp
  exp2 := Binary.exp2
  text := Binary.text

/-- Doubles run on any machine. -/
instance [limits : Limits] : Machine Float where
  limits := limits

end MelodyAutomation

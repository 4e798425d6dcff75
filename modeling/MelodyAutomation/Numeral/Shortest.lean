/-!
# Shortest decimals

A binary number `m · 2 ^ q` stands for every real number that rounds to it, an
interval around it whose ends belong to it exactly when `m` is even. The
shortest decimal of the number is the decimal of fewest digits in that
interval, and among those of that many digits the one nearest to the number.

For each count of digits only the number's two neighbours on the decimal grid
of that count have to be tried: if any point of the grid lies in the interval,
one of the two does.
-/

namespace MelodyAutomation
namespace Numeral

/-- A decimal number `coefficient · 10 ^ exponent`. -/
structure Decimal where
  coefficient : Nat
  exponent : Int
  deriving DecidableEq, Repr

/-- Move trailing zeros of the coefficient into the exponent. -/
def Decimal.trim : Nat → Decimal → Decimal
  | 0, decimal => decimal
  | fuel + 1, decimal =>
      if decimal.coefficient ≠ 0 ∧ decimal.coefficient % 10 = 0 then
        Decimal.trim fuel ⟨decimal.coefficient / 10, decimal.exponent + 1⟩
      else decimal

/-- `base ^ exponent` as a factor of a numerator: one for negative exponents. -/
def powerUp (base : Nat) (exponent : Int) : Nat := base.pow exponent.toNat

/-- `base ^ (-exponent)`: the factor of a denominator for negative exponents. -/
def powerDown (base : Nat) (exponent : Int) : Nat := base.pow (-exponent).toNat

/-- The numbers that round to `mantissa · 2 ^ exponent`, in quarters of its unit:
from `4 m - 2` to `4 m + 2`, and from `4 m - 1` just above a power of two, where
the lower neighbour is half as far away. -/
structure RoundingInterval where
  low : Nat
  centre : Nat
  high : Nat
  exponent : Int
  closed : Bool

/-- The rounding interval of a binary number. -/
def RoundingInterval.of (mantissa : Nat) (exponent : Int) (narrow : Bool) :
    RoundingInterval where
  low := 4 * mantissa - (if narrow then 1 else 2)
  centre := 4 * mantissa
  high := 4 * mantissa + 2
  exponent := exponent - 2
  closed := mantissa % 2 == 0

namespace RoundingInterval

/-- Factors that turn quarters of the unit (left) and grid steps of size
`10 ^ step` (right) into a common unit. -/
def factors (interval : RoundingInterval) (step : Int) : Nat × Nat :=
  (powerUp 2 interval.exponent * powerDown 10 step,
    powerDown 2 interval.exponent * powerUp 10 step)

/-- Whether `candidate · 10 ^ step` lies in the interval. -/
def contains (interval : RoundingInterval) (step : Int) (candidate : Nat) :
    Bool :=
  let (unit, grid) := interval.factors step
  if interval.closed then
    interval.low * unit ≤ candidate * grid &&
      candidate * grid ≤ interval.high * unit
  else
    interval.low * unit < candidate * grid &&
      candidate * grid < interval.high * unit

/-- The better of the centre's two neighbours on the grid of size `10 ^ step`,
when one of them lies in the interval; an exact tie goes to the even one. -/
def onGrid? (interval : RoundingInterval) (step : Int) : Option Nat :=
  let (unit, grid) := interval.factors step
  let below := interval.centre * unit / grid
  let twiceRest := 2 * (interval.centre * unit % grid)
  let upper := interval.contains step (below + 1)
  if interval.contains step below then
    if upper && (grid < twiceRest || (twiceRest == grid && below % 2 == 1)) then
      some (below + 1)
    else some below
  else if upper then some (below + 1)
  else none

/-- The centre's decimal exponent: the greatest power of ten that is at most the
centre, corrected by at most one step from an estimate. -/
def decimalExponent (interval : RoundingInterval) : Int :=
  let estimate :=
    (((interval.centre.log2 : Int) + interval.exponent) * 30103) / 100000
  let reached (power : Int) : Bool :=
    let (unit, grid) := interval.factors power
    grid ≤ interval.centre * unit
  if reached (estimate + 1) then estimate + 1
  else if reached estimate then estimate
  else estimate - 1

/-- The first hit among the grids of `count`, `count + 1`, … digits. -/
def search (interval : RoundingInterval) (leading : Int) : Nat → Nat → Decimal
  | 0, count => ⟨interval.centre, leading - count⟩
  | fuel + 1, count =>
      let step := leading - count + 1
      match interval.onGrid? step with
      | some coefficient => ⟨coefficient, step⟩
      | none => interval.search leading fuel (count + 1)

end RoundingInterval

/-- The shortest decimal of `mantissa · 2 ^ exponent`, for a positive mantissa of
at most 53 bits. Seventeen digits always suffice. -/
def shortest (mantissa : Nat) (exponent : Int) (narrow : Bool) : Decimal :=
  let interval := RoundingInterval.of mantissa exponent narrow
  Decimal.trim 20 (interval.search interval.decimalExponent 17 1)

end Numeral
end MelodyAutomation

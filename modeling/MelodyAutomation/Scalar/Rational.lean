import MelodyAutomation.Scalar.Double

/-!
# Rational numbers as scalars

The exact reading of the library: sums, products, quotients and decimals are
those of the rational numbers, and nothing is out of range. The two
transcendental functions take the values of the doubles, except at whole
exponents, where powers of two are exact.
-/

namespace MelodyAutomation
namespace Rational

/-- The rational number a double stands for; zero where there is none. -/
def ofDouble (double : Float) : Rat :=
  match Binary.reading double with
  | .finite value => value
  | _ => 0

/-- The double nearest to a rational number, of either infinity beyond range. -/
def toDouble (value : Rat) : Float :=
  (Binary.nearest? false value).getD
    (if value < 0 then -Binary.infinity else Binary.infinity)

/-- A power of two, exact at whole exponents. -/
def exp2 (value : Rat) : Rat :=
  if value.den = 1 then Binary.scaled 1 value.num
  else ofDouble (Binary.exp2 (toDouble value))

/-- A rational number as a quotient in lowest terms. -/
def text (value : Rat) : String :=
  let sign := if value.num < 0 then ['-'] else []
  let whole := sign ++ Numeral.digitsOf value.num.natAbs
  String.ofList
    (if value.den = 1 then whole
    else whole ++ '/' :: Numeral.digitsOf value.den)

end Rational

instance : Scalar Rat where
  reading := .finite
  isNegative value := decide (value < 0)
  nearest? _ value := some value
  ofDecimal coefficient exponent :=
    mkRat (coefficient * Numeral.powerUp 10 exponent)
      (Numeral.powerDown 10 exponent)
  infinity? := none
  notANumber? := none
  ofDouble := Rational.ofDouble
  add left right := left + right
  sub left right := left - right
  mul left right := left * right
  div left right := left / right
  neg value := -value
  exp value :=
    if value = 0 then 1
    else Rational.ofDouble (Binary.exp (Rational.toDouble value))
  exp2 := Rational.exp2
  text := Rational.text

/-- The exact reading is that of any machine. -/
instance [limits : Limits] : Machine Rat where
  limits := limits

/-- A rational number stands for itself. -/
@[simp] theorem Scalar.reading_rat (value : Rat) :
    Scalar.reading value = .finite value := rfl

@[simp] theorem Scalar.add_rat (left right : Rat) :
    Scalar.add left right = left + right := rfl

@[simp] theorem Scalar.sub_rat (left right : Rat) :
    Scalar.sub left right = left - right := rfl

@[simp] theorem Scalar.mul_rat (left right : Rat) :
    Scalar.mul left right = left * right := rfl

@[simp] theorem Scalar.div_rat (left right : Rat) :
    Scalar.div left right = left / right := rfl

end MelodyAutomation

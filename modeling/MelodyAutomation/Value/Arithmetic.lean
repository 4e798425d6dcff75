import MelodyAutomation.Failure
import MelodyAutomation.Value.Equality

/-!
# Arithmetic on values

Sums, products, differences and quotients of literals. Truth values count as
one and zero. Whole numbers combine exactly; with a scalar on either side the
other operand is first rounded to a scalar, which refuses a whole number out of
range. A quotient is always a scalar. Texts, octets, lists and tuples are joined by
a sum and repeated by a product with a whole number; every other combination is
ill typed.
-/

namespace MelodyAutomation

/-- A number inside a literal: whole or scalar. -/
inductive Number (R : Type)
  | whole (number : Int)
  | scalar (value : R)

namespace Number

variable {R : Type} [Scalar R]

omit [Scalar R] in
/-- A number as a literal. -/
def toValue : Number R → Value R
  | whole number => .int number
  | scalar value => .real value

/-- A number as a scalar, unless it is a whole number out of range. -/
def toScalar : Number R → Attempt R R
  | whole number =>
      match Scalar.ofInt? number with
      | some value => .ok value
      | none => .error .overflow
  | scalar value => .ok value

/-- Combine two numbers, exactly when both are whole. -/
def combine
    (exact : Int → Int → Int)
    (rounded : R → R → R) :
    Number R → Number R → Attempt R (Number R)
  | whole left, whole right => .ok (whole (exact left right))
  | left, right => do
      let first ← left.toScalar
      let second ← right.toScalar
      .ok (scalar (rounded first second))

/-- The sum of two numbers. -/
def add : Number R → Number R → Attempt R (Number R) :=
  combine (· + ·) Scalar.add

/-- The difference of two numbers. -/
def sub : Number R → Number R → Attempt R (Number R) :=
  combine (· - ·) Scalar.sub

/-- The product of two numbers. -/
def mul : Number R → Number R → Attempt R (Number R) :=
  combine (· * ·) Scalar.mul

/-- The quotient of two whole numbers as the nearest scalar. A zero dividend
takes the sign of the divisor. -/
def divWhole (dividend divisor : Int) : Attempt R R :=
  if divisor = 0 then .error .divisionByZero
  else
    match Scalar.nearest? (decide (divisor < 0))
        ((dividend : Rat) / (divisor : Rat)) with
    | some quotient => .ok quotient
    | none => .error .overflow

/-- The quotient of two numbers, always a scalar. -/
def div : Number R → Number R → Attempt R R
  | whole dividend, whole divisor => divWhole dividend divisor
  | dividend, divisor => do
      let first ← dividend.toScalar
      let second ← divisor.toScalar
      if Scalar.isZero second then .error .divisionByZero
      else .ok (Scalar.div first second)

/-- A number with the opposite sign. -/
def neg : Number R → Number R
  | whole number => whole (-number)
  | scalar value => scalar (Scalar.neg value)

/-- What a number stands for. -/
def reading : Number R → Reading
  | whole number => .finite (number : Rat)
  | scalar value => Scalar.reading value

/-- The order of two numbers, exactly; a scalar that is no number has none. -/
def compare? (left right : Number R) : Option Ordering :=
  left.reading.compare? right.reading

end Number

namespace Value

variable {R : Type}

/-- The number a literal is, truth values included. -/
def number? : Value R → Option (Number R)
  | bool truth => some (.whole (if truth then 1 else 0))
  | int number => some (.whole number)
  | real scalar => some (.scalar scalar)
  | _ => none

/-- The whole number a literal is, truth values included. -/
def wholeNumber? : Value R → Option Int
  | bool truth => some (if truth then 1 else 0)
  | int number => some number
  | _ => none

/-- The number a literal is, or a refusal. -/
def toNumber (value : Value R) : Attempt R (Number R) :=
  match value.number? with
  | some number => .ok number
  | none => .error .illTyped

section

variable [Scalar R]

/-- Combine two literals that must be numbers. -/
def arithmetic
    (operation : Number R → Number R → Attempt R (Number R))
    (left right : Value R) : Attempt R (Value R) := do
  let first ← left.toNumber
  let second ← right.toNumber
  let result ← operation first second
  .ok result.toValue

/-- The sum of two literals: numbers are added, sequences of one kind joined. -/
def add (left right : Value R) : Attempt R (Value R) :=
  match left.exposed, right.exposed with
  | text left, text right => .ok (text (left ++ right))
  | bytes left, bytes right => .ok (bytes (left ++ right))
  | list left, list right => .ok (list (left ++ right))
  | tuple left, tuple right => .ok (tuple (left ++ right))
  | left, right => arithmetic Number.add left right

/-- The difference of two literals. -/
def sub (left right : Value R) : Attempt R (Value R) :=
  arithmetic Number.sub left right

/-- The quotient of two literals. -/
def div (left right : Value R) : Attempt R R := do
  let first ← left.toNumber
  let second ← right.toNumber
  Number.div first second

/-- A literal with the opposite sign. -/
def neg (value : Value R) : Attempt R (Value R) := do
  let number ← value.toNumber
  .ok number.neg.toValue

/-- The order of two literals that must be numbers; a scalar that is no number
has none. -/
def compareNumbers (left right : Value R) :
    Attempt R (Option Ordering) := do
  let first ← left.toNumber
  let second ← right.toNumber
  .ok (first.compare? second)

/-- Whether a literal counts as true in a condition: nulls, zeros and empty
sequences, sets and maps do not. -/
def isTruthy : Value R → Bool
  | null => false
  | bool truth => truth
  | int number => number != 0
  | real scalar => !Scalar.isZero scalar
  | text content => content != ""
  | bytes octets => !octets.isEmpty
  | list items => !items.isEmpty
  | tuple items => !items.isEmpty
  | set members => !members.isEmpty
  | map entries => !entries.isEmpty
  | _ => true

/-- The literal itself when it counts as true, and a default otherwise. -/
def orElse (value default : Value R) : Value R :=
  if value.isTruthy then value else default

/-- Octets as a text in which those beyond ASCII belong to no numeral. -/
def numeralOf (octets : List UInt8) : String :=
  String.ofList (octets.map fun octet =>
    if octet < 128 then Char.ofNat octet.toNat else '\ufffd')

/-- The scalar that a text spells. -/
def readScalar (content : String) : Attempt R R :=
  match (Numeral.readReal? content).bind Scalar.ofLiteral? with
  | some scalar => .ok scalar
  | none => .error .malformed

/-- A literal as a scalar: numbers are rounded, texts and octets are read. -/
def toScalar : Value R → Attempt R R
  | text content => readScalar content
  | bytes octets => readScalar (numeralOf octets)
  | value => do
      let number ← value.toNumber
      number.toScalar

/-- The whole number toward zero of what a scalar stands for. -/
def truncate : Reading → Attempt R Int
  | .finite value => .ok (Int.tdiv value.num value.den)
  | .infinite _ => .error .overflow
  | .undefined => .error .malformed

/-- The whole number that a text spells in some base. -/
def readWhole (base : Nat) (content : String) : Attempt R Int :=
  match Numeral.readInteger? base content with
  | some number => .ok number
  | none => .error .malformed

/-- A literal as a whole number: scalars are truncated, texts and octets are
read. -/
def toWhole : Value R → Attempt R Int
  | text content => readWhole 10 content
  | bytes octets => readWhole 10 (numeralOf octets)
  | real scalar => truncate (Scalar.reading scalar)
  | value =>
      match value.wholeNumber? with
      | some number => .ok number
      | none => .error .illTyped

/-- A text or octets as a whole number of a base that a literal gives: from two to
thirty-six, or zero for a base that the text announces. -/
def toWholeOfBase (value base : Value R) : Attempt R Int := do
  match base.wholeNumber? with
  | none => .error .illTyped
  | some number =>
      if number ≠ 0 ∧ (number < 2 ∨ 36 < number) then .error .malformed
      else
        match value with
        | text content => readWhole number.toNat content
        | bytes octets => readWhole number.toNat (numeralOf octets)
        | _ => .error .illTyped

end

/-! ## Repetition -/

variable [Machine R]

/-- Repeat a list as often as a whole number says; a negative one empties it. The
number itself must be one that a length can be; `excess` is the failure of a
result that is longer than any sequence can be. -/
def repeatItems {α : Type} (excess : Failure R) (items : List α)
    (times : Int) : Attempt R (List α) :=
  if times < -sizeLimit - 1 ∨ sizeLimit < times then .error .overflow
  else if items.isEmpty ∨ times ≤ 0 then .ok []
  else if sizeLimit < items.length * times then .error excess
  else if (Machine.limits R).room < items.length * times then .error .outOfMemory
  else .ok (List.replicate times.toNat items).flatten

/-- Repeat a sequence literal as often as a whole number says. -/
def repeated (times : Int) (value : Value R) : Attempt R (Value R) :=
  match value.exposed with
  | text content => do
      let points ← repeatItems .overflow (Text.points content.toList) times
      .ok (text (String.ofList (Text.ofPoints points)))
  | bytes octets => do
      let copies ← repeatItems .overflow octets times
      .ok (bytes copies)
  | list items => do
      let copies ← repeatItems .outOfMemory items times
      .ok (list copies)
  | tuple items => do
      let copies ← repeatItems .outOfMemory items times
      .ok (tuple copies)
  | _ => .error .illTyped

/-- The product of two literals: numbers are multiplied, and a sequence is
repeated by a whole number on either side. -/
def mul (left right : Value R) : Attempt R (Value R) :=
  match left.number?, right.number? with
  | some _, some _ => arithmetic Number.mul left right
  | none, some (.whole times) => left.repeated times
  | some (.whole times), none => right.repeated times
  | _, _ => .error .illTyped

end Value
end MelodyAutomation

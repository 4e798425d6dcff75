import MelodyAutomation.Proofs.Yields
import MelodyAutomation.Value.Arithmetic
import MelodyAutomation.Value.Iteration

/-!
# What literals are refused for

An operation on literals is refused for what is wrong with the literals. There are few
causes of this kind, and only a quotient adds one of its own. None of the operations
looks up a name, and so none is refused because something is missing under one. This
holds of everything that is computed from literals alone, and it is shown here for what
the rest is made of: reading a literal as a number or a sequence, and arithmetic.
-/

namespace MelodyAutomation

section

variable {R : Type}

/-- A literal does not fit: it is of the wrong kind, or its content is malformed. -/
def Failure.IsMisfit (failure : Failure R) : Prop :=
  failure = .illTyped ∨ failure = .malformed

/-- A failure is about something else than a name under which a registry has no
entry. -/
def Failure.FindsNames : Failure R → Prop
  | .missing _ => False
  | _ => True

/-- Some causes cover all for which literals are refused where nothing is divided. -/
class Failure.CoversLiterals (causes : Failure R → Prop) : Prop where
  illTyped : causes .illTyped
  malformed : causes .malformed
  notUnderstood : causes .notUnderstood
  overflow : causes .overflow
  outOfMemory : causes .outOfMemory

instance : Failure.CoversLiterals (Failure.FindsNames (R := R)) :=
  ⟨trivial, trivial, trivial, trivial, trivial⟩

theorem Failure.IsMisfit.covered
    {causes : Failure R → Prop}
    [covers : CoversLiterals causes]
    {failure : Failure R}
    (misfit : failure.IsMisfit) :
    causes failure := by
  rcases misfit with rfl | rfl
  · exact covers.illTyped
  · exact covers.malformed

/-- What is refused for a literal that does not fit is refused for a cause that is
covered. -/
theorem Attempt.Yields.covered
    {α : Type}
    {causes : Failure R → Prop}
    [Failure.CoversLiterals causes]
    {results : α → Prop}
    {attempt : Attempt R α}
    (yields : attempt.Yields results Failure.IsMisfit) :
    attempt.RefusedFor causes :=
  yields.imp (fun _ _ => trivial) fun _ => Failure.IsMisfit.covered

/-- Whether an attempt is refused because an entry is missing. -/
def Attempt.missesName {α : Type} : Attempt R α → Bool
  | .error (.missing _) => true
  | _ => false

theorem Attempt.not_findsNames
    {α : Type}
    {attempt : Attempt R α}
    (misses : attempt.missesName = true) :
    ¬ attempt.RefusedFor Failure.FindsNames := by
  unfold Attempt.missesName at misses
  split at misses
  · exact id
  · cases misses

namespace Value

theorem yields_toItems (literal : Value R) :
    literal.toItems.Yields (literal.toItems = .ok ·) Failure.IsMisfit := by
  refine .of_refusedFor ?_ fun result found => found
  unfold toItems
  cases literal.exposed with
  | list items => trivial
  | tuple items => trivial
  | set members => trivial
  | map entries => trivial
  | text content => trivial
  | bytes octets => trivial
  | _ => exact .inl rfl

theorem yields_toPair (literal : Value R) :
    literal.toPair.Yields (literal.toPair = .ok ·) Failure.IsMisfit := by
  refine .of_refusedFor ?_ fun result found => found
  refine literal.yields_toItems.bind fun items _ => ?_
  split
  · trivial
  · exact .inr rfl

section

variable {causes : Failure R → Prop} [covers : Failure.CoversLiterals causes]

theorem refusedFor_toEntries (literal : Value R) :
    literal.toEntries.RefusedFor causes := by
  unfold toEntries
  split
  · trivial
  · exact covers.notUnderstood

theorem refusedFor_toSpread (literal : Value R) :
    literal.toSpread.RefusedFor causes := by
  unfold toSpread
  split
  · trivial
  · exact covers.illTyped

end

/-- A list is not repeated when there would be too many copies, or too long ones. -/
theorem refusedFor_repeatItems
    [Machine R]
    {α : Type}
    {causes : Failure R → Prop}
    {excess : Failure R}
    (tooMany : causes .overflow)
    (tooLong : causes excess)
    (noRoom : causes .outOfMemory)
    (items : List α)
    (times : Int) :
    (repeatItems excess items times).RefusedFor causes := by
  unfold repeatItems
  split_ifs
  · exact tooMany
  · trivial
  · exact tooLong
  · exact noRoom
  · trivial

section

variable {causes : Failure R → Prop} [covers : Failure.CoversLiterals causes]

theorem refusedFor_repeated [Machine R] (times : Int) (value : Value R) :
    (value.repeated times).RefusedFor causes := by
  have copied {α : Type} (excess : Failure R) (covered : causes excess)
      (items : List α) (finish : List α → Value R) :
      (repeatItems excess items times >>= fun copies =>
        .ok (finish copies) : Attempt R (Value R)).RefusedFor causes :=
    (refusedFor_repeatItems covers.overflow covered covers.outOfMemory items times).bind
      fun _ _ => trivial
  unfold repeated
  cases value.exposed with
  | text content => exact copied .overflow covers.overflow _ _
  | bytes octets => exact copied .overflow covers.overflow _ _
  | list items => exact copied .outOfMemory covers.outOfMemory _ _
  | tuple items => exact copied .outOfMemory covers.outOfMemory _ _
  | _ => exact covers.illTyped

end

theorem refusedFor_toNumber (value : Value R) :
    value.toNumber.RefusedFor Failure.IsMisfit := by
  unfold toNumber
  split
  · trivial
  · exact .inl rfl

/-- A number is no misfit. -/
theorem refusedFor_toNumber_of_number
    {causes : Failure R → Prop}
    {value : Value R}
    (number : value.number?.isSome) :
    value.toNumber.RefusedFor causes := by
  obtain ⟨own, found⟩ := Option.isSome_iff_exists.1 number
  rw [toNumber, found]
  trivial

/-- A number of a literal can be used for anything that is not refused itself. -/
theorem refusedFor_toNumber_bind
    {α : Type}
    {causes : Failure R → Prop}
    [Failure.CoversLiterals causes]
    (value : Value R)
    {next : Number R → Attempt R α}
    (continued : ∀ number, (next number).RefusedFor causes) :
    (value.toNumber >>= next).RefusedFor causes :=
  value.refusedFor_toNumber.covered.bind fun number _ => continued number

end Value

end

variable {R : Type} {causes : Failure R → Prop}

section

variable [Scalar R]

namespace Number

theorem refusedFor_toScalar
    (outOfRange : causes .overflow)
    (number : Number R) :
    number.toScalar.RefusedFor causes := by
  unfold toScalar
  split
  · split
    · trivial
    · exact outOfRange
  · trivial

theorem refusedFor_combine
    (outOfRange : causes .overflow)
    (exact : Int → Int → Int)
    (rounded : R → R → R)
    (left right : Number R) :
    (combine exact rounded left right).RefusedFor causes := by
  unfold combine
  split
  · trivial
  · exact (refusedFor_toScalar outOfRange _).bind fun _ _ =>
      (refusedFor_toScalar outOfRange _).bind fun _ _ => trivial

variable [covers : Failure.CoversLiterals causes]

/-- A quotient of whole numbers is refused for a divisor of zero, or it is out of
range. -/
theorem refusedFor_divWhole
    {dividend divisor : Int}
    (divides : divisor = 0 → causes .divisionByZero) :
    (divWhole dividend divisor : Attempt R R).RefusedFor causes := by
  unfold divWhole
  split_ifs with zero
  · exact divides zero
  · split
    · trivial
    · exact covers.overflow

theorem refusedFor_div
    (divides : causes .divisionByZero)
    (dividend divisor : Number R) :
    (div dividend divisor).RefusedFor causes := by
  unfold div
  split
  · exact refusedFor_divWhole fun _ => divides
  · refine (refusedFor_toScalar covers.overflow _).bind fun first _ => ?_
    refine (refusedFor_toScalar covers.overflow _).bind fun second _ => ?_
    split
    · exact divides
    · trivial

end Number

namespace Value

theorem refusedFor_readScalar (content : String) :
    (readScalar content : Attempt R R).RefusedFor Failure.IsMisfit := by
  unfold readScalar
  split
  · trivial
  · exact .inr rfl

/-- Two numbers are added unless one of them is out of range. -/
theorem refusedFor_add_of_number
    (outOfRange : causes .overflow)
    {left right : Value R}
    (first : left.number?.isSome)
    (second : right.number?.isSome) :
    (left.add right).RefusedFor causes := by
  have bare {value : Value R} (number : value.number?.isSome) :
      value.exposed = value := by
    cases value <;> first | rfl | cases number
  have added : left.add right = arithmetic Number.add left right := by
    rw [add, bare first, bare second]
    cases left with
    | bool truth => rfl
    | int number => rfl
    | real scalar => rfl
    | _ => cases first
  rw [added]
  refine (refusedFor_toNumber_of_number first).bind fun own _ => ?_
  refine (refusedFor_toNumber_of_number second).bind fun other _ => ?_
  exact (Number.refusedFor_combine outOfRange _ _ own other).bind fun _ _ => trivial

variable [covers : Failure.CoversLiterals causes]

theorem refusedFor_toScalar (value : Value R) :
    value.toScalar.RefusedFor causes := by
  unfold toScalar
  split
  · exact (refusedFor_readScalar _).covered
  · exact (refusedFor_readScalar _).covered
  · exact refusedFor_toNumber_bind _ fun number =>
      number.refusedFor_toScalar covers.overflow

theorem refusedFor_arithmetic
    (exact : Int → Int → Int)
    (rounded : R → R → R)
    (left right : Value R) :
    (arithmetic (Number.combine exact rounded) left right).RefusedFor causes :=
  refusedFor_toNumber_bind _ fun first => refusedFor_toNumber_bind _ fun second =>
    (Number.refusedFor_combine covers.overflow exact rounded first second).bind
      fun _ _ => trivial

theorem refusedFor_add (left right : Value R) :
    (left.add right).RefusedFor causes := by
  unfold add
  split
  · trivial
  · trivial
  · trivial
  · trivial
  · exact refusedFor_arithmetic _ _ _ _

theorem refusedFor_div
    (divides : causes .divisionByZero)
    (left right : Value R) :
    (left.div right).RefusedFor causes :=
  refusedFor_toNumber_bind _ fun first => refusedFor_toNumber_bind _ fun second =>
    Number.refusedFor_div divides first second

theorem refusedFor_compareNumbers (left right : Value R) :
    (left.compareNumbers right).RefusedFor causes :=
  refusedFor_toNumber_bind _ fun _ => refusedFor_toNumber_bind _ fun _ => trivial

end Value

end

variable [Machine R]

/-- A literal is not shown if it is too long or too deep. -/
theorem refusedFor_requireShown
    (tooLong : causes .malformed)
    (tooDeep : causes .tooDeep)
    (value : Value R) :
    (requireShown value).RefusedFor causes := by
  unfold requireShown
  split
  · trivial
  next obstacle _ =>
      cases obstacle with
      | tooManyDigits => exact tooLong
      | tooDeep => exact tooDeep

theorem refusedFor_shownText
    (tooLong : causes .malformed)
    (tooDeep : causes .tooDeep)
    (value : Value R) :
    (shownText value).RefusedFor causes :=
  (refusedFor_requireShown tooLong tooDeep value).bind fun _ _ => trivial

theorem Value.refusedFor_mul
    [covers : Failure.CoversLiterals causes]
    (left right : Value R) :
    (left.mul right).RefusedFor causes := by
  unfold mul
  split
  · exact refusedFor_arithmetic _ _ _ _
  · exact refusedFor_repeated _ _
  · exact refusedFor_repeated _ _
  · exact covers.illTyped

end MelodyAutomation

import MelodyAutomation.Proofs.Scalar.Zero
import MelodyAutomation.Proofs.Value.Refusals
import MelodyAutomation.Proofs.Value.Sameness

/-!
# What quotients are refused for

A quotient of numbers is refused for a divisor that stands for zero, or because something
in it is beyond the range of doubles. With a divisor of zero there is none, and only with
a divisor of zero it is refused for that: no other number becomes zero on the way.
-/

namespace MelodyAutomation

/-- A failure is a division by zero only in some case. -/
def Failure.DividesOnlyIf {R : Type} (occurs : Prop) (failure : Failure R) : Prop :=
  failure = .divisionByZero → occurs

instance {R : Type} (occurs : Prop) :
    Failure.CoversLiterals (@Failure.DividesOnlyIf R occurs) :=
  ⟨nofun, nofun, nofun, nofun, nofun⟩

theorem Failure.dividesOnlyIf_configuration
    {R : Type}
    {occurs : Prop}
    (fault : ConfigurationFault R) :
    DividesOnlyIf occurs (.configuration fault) := nofun

theorem Failure.dividesOnlyIf_illTyped
    {R : Type}
    {occurs : Prop} :
    DividesOnlyIf occurs (.illTyped : Failure R) := nofun

theorem Failure.dividesOnlyIf_unknownKey
    {R : Type}
    {occurs : Prop} :
    DividesOnlyIf occurs (.unknownKey : Failure R) := nofun

/-- A scalar stands for zero if that is what it is read as. -/
theorem Scalar.isZero_iff
    {R : Type}
    [Scalar R]
    {scalar : R} :
    isZero scalar = true ↔ reading scalar = .finite 0 := by
  rw [isZero, compareInt?, beq_iff_eq, Reading.compare?_eq_some_eq, Int.cast_zero]
  constructor
  · exact And.right
  · intro zero
    exact ⟨by simp [zero], zero⟩

namespace Number

/-- A double stands for zero exactly when the number from which it is rounded does. -/
theorem isZero_of_toScalar
    {number : Number Float}
    {scalar : Float}
    (converted : number.toScalar = .ok scalar) :
    Scalar.isZero scalar = true ↔ number.reading = .finite 0 := by
  rw [Scalar.isZero_iff]
  cases number with
  | scalar own =>
      obtain rfl := Except.ok.inj converted
      rfl
  | whole number =>
      have nearest : Binary.nearest? false (number : Rat) = some scalar := by
        rw [toScalar] at converted
        split at converted
        next found =>
          obtain rfl := Except.ok.inj converted
          exact found
        next => cases converted
      have exact : (whole number : Number Float).reading = .finite 0 ↔ number = 0 := by
        rw [reading, Reading.finite.injEq, Int.cast_eq_zero]
      rw [exact]
      constructor
      · exact Binary.eq_zero_of_nearest nearest
      · rintro rfl
        obtain rfl := Option.some.inj nearest
        exact Binary.reading_zero

/-- A quotient is refused for a divisor of zero, or it is out of range. -/
theorem yields_div (dividend divisor : Number Float) :
    (dividend.div divisor).Yields (fun _ => divisor.reading ≠ .finite 0)
      fun failure => failure = .overflow ∨
        failure = .divisionByZero ∧ divisor.reading = .finite 0 := by
  have outOfRange (number : Number Float) : number.toScalar.Yields
      (number.toScalar = .ok ·) fun failure => failure = .overflow ∨
        failure = .divisionByZero ∧ divisor.reading = .finite 0 :=
    .of_refusedFor (refusedFor_toScalar (.inl rfl) number) fun _ => id
  unfold div
  split
  next dividend divisor =>
    have exact : (whole divisor : Number Float).reading = .finite 0 ↔ divisor = 0 := by
      rw [reading, Reading.finite.injEq, Int.cast_eq_zero]
    unfold divWhole
    split_ifs with zero
    · exact .inr ⟨rfl, exact.2 zero⟩
    · split
      · exact fun read => zero (exact.1 read)
      · exact .inl rfl
  · refine (outOfRange dividend).bind fun first _ => ?_
    refine (outOfRange divisor).bind fun second converted => ?_
    split_ifs with zero
    · exact .inr ⟨rfl, (isZero_of_toScalar converted).1 zero⟩
    · exact fun read => zero ((isZero_of_toScalar converted).2 read)

end Number

namespace Value

/-- A literal is compared with zero if it is a number, as what it stands for. -/
theorem compareNumbers_zero_eq_ok
    {R : Type}
    [Scalar R]
    {value : Value R}
    {order : Option Ordering} :
    value.compareNumbers (.int 0) = .ok order ↔
      ∃ number, value.toNumber = .ok number ∧
        number.reading.compare? (.finite 0) = order := by
  have zero : (Value.int 0 : Value R).toNumber = .ok (.whole 0) := rfl
  simp only [compareNumbers, zero, Attempt.bind_eq_ok, Attempt.ok_bind,
    Except.ok.injEq, Number.compare?, Number.reading, Int.cast_zero]

/-- A quotient of literals that are numbers. -/
theorem yields_div
    {dividend divisor : Value Float}
    {first second : Number Float}
    (ofDividend : dividend.toNumber = .ok first)
    (ofDivisor : divisor.toNumber = .ok second) :
    (dividend.div divisor).Yields (fun _ => second.reading ≠ .finite 0)
      fun failure => failure = .overflow ∨
        failure = .divisionByZero ∧ second.reading = .finite 0 := by
  rw [div, ofDividend, ofDivisor]
  exact first.yields_div second

/-- Whatever is divided, a division by zero is met for a divisor of zero. -/
theorem div_dividesOnlyIf (dividend divisor : Value Float) :
    (dividend.div divisor).RefusedFor
      (Failure.DividesOnlyIf (divisor.compareNumbers (.int 0) = .ok (some .eq))) := by
  refine dividend.refusedFor_toNumber_bind fun first => ?_
  have read : divisor.toNumber.Yields (divisor.toNumber = .ok ·)
      (Failure.DividesOnlyIf (divisor.compareNumbers (.int 0) = .ok (some .eq))) :=
    .of_refusedFor divisor.refusedFor_toNumber.covered fun _ => id
  refine read.bind fun second read => ?_
  refine (first.yields_div second).imp (fun _ _ => trivial) ?_
  rintro failure (rfl | ⟨rfl, zero⟩) divides
  · cases divides
  · exact compareNumbers_zero_eq_ok.2 ⟨second, read, by rw [zero]; rfl⟩

end Value
end MelodyAutomation

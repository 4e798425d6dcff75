import MelodyAutomation.Proofs.Outcome
import MelodyAutomation.Value.Arithmetic

/-!
# Arithmetic with a scalar

A scalar on the left of a sum or a product makes a scalar of it: the right operand has
to be a number, which is rounded to a scalar first.
-/

namespace MelodyAutomation
namespace Value

variable {R : Type}

section

variable [Scalar R]

/-- A literal is a number that counts as a scalar. -/
def CountsAs (value : Value R) (scalar : R) : Prop :=
  ∃ number, value.toNumber = .ok number ∧ number.toScalar = .ok scalar

@[simp] theorem countsAs_real {scalar other : R} :
    (real scalar).CountsAs other ↔ scalar = other := by
  constructor
  · rintro ⟨number, read, converted⟩
    obtain rfl := Except.ok.inj read
    exact Except.ok.inj converted
  · rintro rfl
    exact ⟨.scalar scalar, rfl, rfl⟩

/-- Combining two literals, the left one a scalar, combines scalars. -/
theorem arithmetic_real_eq_ok
    {exact : Int → Int → Int}
    {rounded : R → R → R}
    {scalar : R}
    {operand result : Value R} :
    arithmetic (Number.combine exact rounded) (real scalar) operand =
        .ok result ↔
      ∃ other, operand.CountsAs other ∧
        result = real (rounded scalar other) := by
  have left : (real scalar : Value R).toNumber = .ok (.scalar scalar) := rfl
  simp only [arithmetic, left, Attempt.ok_bind, Attempt.bind_eq_ok,
    Number.combine, Number.toScalar, Except.ok.injEq, CountsAs]
  constructor
  · rintro ⟨number, read, _, ⟨other, converted, rfl⟩, rfl⟩
    exact ⟨other, ⟨number, read, converted⟩, rfl⟩
  · rintro ⟨other, ⟨number, read, converted⟩, rfl⟩
    exact ⟨number, read, _, ⟨other, converted, rfl⟩, rfl⟩

/-- A scalar plus a literal. -/
theorem real_add_eq_ok
    {scalar : R}
    {summand result : Value R} :
    (real scalar).add summand = .ok result ↔
      ∃ other, summand.exposed.CountsAs other ∧
        result = real (Scalar.add scalar other) := by
  have summed : (real scalar).add summand =
      arithmetic Number.add (real scalar) summand.exposed := by
    unfold add
    cases summand.exposed <;> rfl
  rw [summed]
  exact arithmetic_real_eq_ok

@[simp] theorem real_add_real (left right : R) :
    (real left).add (real right) = .ok (real (Scalar.add left right)) := rfl

/-- A scalar plus a literal is a scalar. -/
theorem real_of_add
    {scalar : R}
    {summand result : Value R}
    (added : (real scalar).add summand = .ok result) :
    ∃ total, result = .real total := by
  obtain ⟨other, -, rfl⟩ := real_add_eq_ok.1 added
  exact ⟨_, rfl⟩

/-- A whole number is added to a scalar as the scalar that it is. -/
theorem real_add_int
    {number : Int}
    {whole : R}
    (found : Scalar.ofInt? number = some whole)
    (scalar : R) :
    (real scalar).add (.int number) =
      .ok (.real (Scalar.add scalar whole)) :=
  real_add_eq_ok.2 ⟨whole, ⟨.whole number, rfl, by
    simp [Number.toScalar, found]⟩, rfl⟩

end

variable [Machine R]

/-- A scalar times a literal. -/
theorem real_mul_eq_ok
    {scalar : R}
    {factor result : Value R} :
    (real scalar).mul factor = .ok result ↔
      ∃ other, factor.CountsAs other ∧
        result = real (Scalar.mul scalar other) := by
  have left : (real scalar : Value R).number? = some (.scalar scalar) := rfl
  unfold mul
  rw [left]
  cases found : factor.number? with
  | some number => exact arithmetic_real_eq_ok
  | none =>
      constructor
      · intro multiplied
        cases multiplied
      · rintro ⟨other, ⟨number, read, -⟩, -⟩
        rw [toNumber, found] at read
        cases read

/-- A literal times a scalar: it has to be a number, which is rounded to a scalar
first. -/
theorem mul_real (value : Value R) (factor : R) :
    value.mul (.real factor) = (do
      let number ← value.toNumber
      let scalar ← number.toScalar
      .ok (.real (Scalar.mul scalar factor))) := by
  have right : (real factor : Value R).toNumber = .ok (.scalar factor) := rfl
  unfold mul
  cases found : value.number? with
  | none => rw [toNumber, found]; rfl
  | some number =>
      have left : value.toNumber = .ok number := by rw [toNumber, found]
      have product : number.mul (.scalar factor) = (do
          let scalar ← number.toScalar
          .ok (.scalar (Scalar.mul scalar factor))) := by
        cases number <;> rfl
      simp only [number?, arithmetic, left, right, product, Attempt.ok_bind,
        bind_assoc]
      rfl

/-- A product with a scalar on the right is one of scalars. -/
theorem mul_real_eq_ok
    {value product : Value R}
    {factor : R} :
    value.mul (.real factor) = .ok product ↔
      ∃ scalar, value.CountsAs scalar ∧
        product = .real (Scalar.mul scalar factor) := by
  simp only [mul_real, Attempt.bind_eq_ok, Except.ok.injEq, CountsAs]
  constructor
  · rintro ⟨number, read, scalar, converted, rfl⟩
    exact ⟨scalar, ⟨number, read, converted⟩, rfl⟩
  · rintro ⟨scalar, ⟨number, read, converted⟩, rfl⟩
    exact ⟨number, read, scalar, converted, rfl⟩

/-- A scalar times a literal is a scalar. -/
theorem real_of_mul
    {scalar : R}
    {factor result : Value R}
    (multiplied : (real scalar).mul factor = .ok result) :
    ∃ product, result = .real product := by
  obtain ⟨other, -, rfl⟩ := real_mul_eq_ok.1 multiplied
  exact ⟨_, rfl⟩

end Value
end MelodyAutomation

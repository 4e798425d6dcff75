import MelodyAutomation.Proofs.Value.Scalars
import MelodyAutomation.Scalar.Rational

/-!
# Arithmetic over the rationals

In the exact reading nothing is rounded and nothing is out of range: every number
counts as a rational number. Numbers are combined to what counts as the combination of
what they count as, and they are compared as that. A product that is a number has
factors that are numbers, if one of them is.
-/

namespace MelodyAutomation

/-- A rational number stands for zero only if it is zero. -/
theorem Scalar.isZero_of_ne {value : Rat} (nonzero : value ≠ 0) :
    isZero value = false := by
  have different : value ≠ ((0 : Int) : Rat) := nonzero
  simp only [isZero, compareInt?, reading_rat, Reading.compare?, different, if_false]
  split <;> rfl

namespace Number

@[simp] theorem toScalar_whole (number : Int) :
    (whole number : Number Rat).toScalar = .ok (number : Rat) := rfl

@[simp] theorem toScalar_scalar (value : Rat) :
    (scalar value : Number Rat).toScalar = .ok value := rfl

/-- A number is compared as the rational number that it is. -/
theorem reading_of_toScalar
    {number : Number Rat}
    {value : Rat}
    (converted : number.toScalar = .ok value) :
    number.reading = .finite value := by
  cases number with
  | whole number => rw [← Except.ok.inj converted]; rfl
  | scalar own => rw [← Except.ok.inj converted]; rfl

/-- Quotients of whole numbers are exact. -/
theorem divWhole_rat (dividend : Int) {divisor : Int} (nonzero : divisor ≠ 0) :
    divWhole dividend divisor = .ok ((dividend : Rat) / divisor) := by
  unfold divWhole
  rw [if_neg nonzero]
  rfl

end Number

namespace Value

/-- A literal that is a number counts as a rational number. -/
theorem exists_countsAs
    {value : Value Rat}
    {number : Number Rat}
    (read : value.number? = some number) :
    ∃ scalar, value.CountsAs scalar := by
  have reads : value.toNumber = .ok number := by rw [toNumber, read]
  cases number with
  | whole number => exact ⟨_, _, reads, rfl⟩
  | scalar own => exact ⟨_, _, reads, rfl⟩

theorem CountsAs.unique
    {value : Value Rat}
    {first second : Rat}
    (counts : value.CountsAs first)
    (other : value.CountsAs second) :
    first = second := by
  obtain ⟨number, read, converted⟩ := counts
  obtain ⟨same, again, convertedAgain⟩ := other
  obtain rfl := Except.ok.inj (read.symm.trans again)
  exact Except.ok.inj (converted.symm.trans convertedAgain)

/-- A number contains nothing, and so not itself. -/
theorem CountsAs.exposed
    {value : Value Rat}
    {scalar : Rat}
    (counts : value.CountsAs scalar) :
    value.exposed.CountsAs scalar := by
  obtain ⟨number, read, -⟩ := id counts
  cases value with
  | circular label collection => cases read
  | _ => exact counts

/-- A literal that counts as a rational number is a number. -/
theorem CountsAs.exists_number?
    {value : Value Rat}
    {scalar : Rat}
    (counts : value.CountsAs scalar) :
    ∃ number, value.number? = some number ∧ number.toScalar = .ok scalar := by
  obtain ⟨number, read, converted⟩ := counts
  refine ⟨number, ?_, converted⟩
  unfold toNumber at read
  split at read
  next found => rw [found, Except.ok.inj read]
  next => cases read

/-- Two numbers are combined to a number that counts as the combination of what they
count as, if whole numbers are combined as rational numbers are. -/
theorem exists_arithmetic
    {exact : Int → Int → Int}
    {rounded : Rat → Rat → Rat}
    (agrees : ∀ left right : Int, (exact left right : Rat) = rounded left right)
    {left right : Value Rat}
    {first second : Rat}
    (ofLeft : left.CountsAs first)
    (ofRight : right.CountsAs second) :
    ∃ result, arithmetic (Number.combine exact rounded) left right = .ok result ∧
      result.CountsAs (rounded first second) := by
  obtain ⟨own, read, converted⟩ := ofLeft
  obtain ⟨other, readOther, convertedOther⟩ := ofRight
  rw [arithmetic, read, readOther]
  cases own with
  | whole number =>
      obtain rfl := Except.ok.inj converted
      cases other with
      | whole factor =>
          obtain rfl := Except.ok.inj convertedOther
          exact ⟨.int (exact number factor), rfl, .whole (exact number factor), rfl,
            congrArg Except.ok (agrees number factor)⟩
      | scalar factor =>
          obtain rfl := Except.ok.inj convertedOther
          exact ⟨_, rfl, countsAs_real.2 rfl⟩
  | scalar number =>
      obtain rfl := Except.ok.inj converted
      rw [Attempt.ok_bind, Attempt.ok_bind, Number.combine]
      · rw [Number.toScalar_scalar, convertedOther]
        exact ⟨_, rfl, countsAs_real.2 rfl⟩
      · intro number factor same
        cases same

/-- The product of two numbers counts as the product of what they count as. -/
theorem exists_mul
    [Limits]
    {left right : Value Rat}
    {first second : Rat}
    (ofLeft : left.CountsAs first)
    (ofRight : right.CountsAs second) :
    ∃ product, left.mul right = .ok product ∧
      product.CountsAs (first * second) := by
  obtain ⟨own, found, -⟩ := ofLeft.exists_number?
  obtain ⟨other, foundOther, -⟩ := ofRight.exists_number?
  unfold mul
  rw [found, foundOther]
  exact exists_arithmetic Rat.intCast_mul ofLeft ofRight

/-- The sum of two numbers counts as the sum of what they count as. -/
theorem exists_add
    {left right : Value Rat}
    {first second : Rat}
    (ofLeft : left.CountsAs first)
    (ofRight : right.CountsAs second) :
    ∃ total, left.add right = .ok total ∧ total.CountsAs (first + second) := by
  obtain ⟨own, found, -⟩ := ofLeft.exists_number?
  have numbers : left.add right = arithmetic Number.add left.exposed right.exposed := by
    unfold add
    cases left <;> first | rfl | cases found
  rw [numbers]
  exact exists_arithmetic Rat.intCast_add ofLeft.exposed ofRight.exposed

/-- The difference of two numbers counts as the difference of what they count as. -/
theorem exists_sub
    {left right : Value Rat}
    {first second : Rat}
    (ofLeft : left.CountsAs first)
    (ofRight : right.CountsAs second) :
    ∃ rest, left.sub right = .ok rest ∧ rest.CountsAs (first - second) :=
  exists_arithmetic Rat.intCast_sub ofLeft ofRight

/-- The quotient of two numbers is the quotient of what they count as. -/
theorem div_of_countsAs
    {left right : Value Rat}
    {first second : Rat}
    (ofLeft : left.CountsAs first)
    (ofRight : right.CountsAs second)
    (nonzero : second ≠ 0) :
    left.div right = .ok (first / second) := by
  obtain ⟨dividend, read, converted⟩ := ofLeft
  obtain ⟨divisor, readOther, convertedOther⟩ := ofRight
  have rounded : (do
      let first ← dividend.toScalar
      let second ← divisor.toScalar
      if Scalar.isZero second then .error .divisionByZero
      else .ok (Scalar.div first second)) = (.ok (first / second) : Attempt Rat Rat) := by
    rw [converted, convertedOther, Attempt.ok_bind, Attempt.ok_bind,
      Scalar.isZero_of_ne nonzero]
    rfl
  rw [div, read, readOther, Attempt.ok_bind, Attempt.ok_bind]
  cases dividend with
  | scalar own => exact rounded
  | whole number =>
      cases divisor with
      | scalar own => exact rounded
      | whole other =>
          obtain rfl := Except.ok.inj converted
          obtain rfl := Except.ok.inj convertedOther
          exact Number.divWhole_rat number fun zero => nonzero (by rw [zero]; rfl)

/-- Two numbers are compared as what they count as. -/
theorem compareNumbers_of_countsAs
    {left right : Value Rat}
    {first second : Rat}
    (ofLeft : left.CountsAs first)
    (ofRight : right.CountsAs second) :
    left.compareNumbers right =
      .ok ((Reading.finite first).compare? (.finite second)) := by
  obtain ⟨number, read, converted⟩ := ofLeft
  obtain ⟨other, readOther, convertedOther⟩ := ofRight
  rw [compareNumbers, read, readOther, Attempt.ok_bind, Attempt.ok_bind,
    Number.compare?, Number.reading_of_toScalar converted,
    Number.reading_of_toScalar convertedOther]

/-- What is repeated is not a number. -/
theorem number?_of_repeated
    [Limits]
    {times : Int}
    {value result : Value Rat}
    (repeats : value.repeated times = .ok result) :
    result.number? = none := by
  have joined {α : Type} {copies : Attempt Rat α} {join : α → Value Rat}
      (sequence : ∀ items, (join items).number? = none)
      (repeats : (copies >>= fun items => .ok (join items)) = .ok result) :
      result.number? = none := by
    obtain ⟨items, -, same⟩ := Attempt.bind_eq_ok.1 repeats
    rw [← Except.ok.inj same, sequence]
  unfold repeated at repeats
  cases exposed : value.exposed with
  | text content => exact joined (fun _ => rfl) (exposed ▸ repeats)
  | bytes octets => exact joined (fun _ => rfl) (exposed ▸ repeats)
  | list items => exact joined (fun _ => rfl) (exposed ▸ repeats)
  | tuple items => exact joined (fun _ => rfl) (exposed ▸ repeats)
  | _ =>
      rw [exposed] at repeats
      cases repeats

/-- A number that is a product with a number has a number as its other factor. -/
theorem exists_factor
    [Limits]
    {left right product : Value Rat}
    {second total : Rat}
    (multiplied : left.mul right = .ok product)
    (ofRight : right.CountsAs second)
    (ofProduct : product.CountsAs total) :
    ∃ first, left.CountsAs first ∧ total = first * second := by
  cases read : left.number? with
  | some number =>
      obtain ⟨first, ofLeft⟩ := exists_countsAs read
      obtain ⟨same, again, counts⟩ := exists_mul ofLeft ofRight
      obtain rfl := Except.ok.inj (multiplied.symm.trans again)
      exact ⟨first, ofLeft, ofProduct.unique counts⟩
  | none =>
      obtain ⟨number, readProduct, -⟩ := ofProduct
      unfold mul at multiplied
      rw [read] at multiplied
      cases times : right.number? with
      | none =>
          rw [times] at multiplied
          cases multiplied
      | some factor =>
          rw [times] at multiplied
          cases factor with
          | scalar factor => cases multiplied
          | whole factor =>
              rw [toNumber, number?_of_repeated multiplied] at readProduct
              cases readProduct

end Value
end MelodyAutomation

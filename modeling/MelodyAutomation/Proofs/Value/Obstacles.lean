import MelodyAutomation.Proofs.Outcome

/-!
# Failures that cannot be told

The message of a failure shows the literal that is at fault. If that literal cannot be
shown, what is met in place of the failure is the obstacle.
-/

namespace MelodyAutomation

variable {R : Type} [Machine R]

/-- A failure is met as it is, unless there is an obstacle; then the obstacle is met. -/
structure Failure.ToldUnless (failure : Failure R)
    (obstacle? : Option Value.Obstacle) : Prop where
  told : obstacle? = none → failure.told = failure
  untold : ∀ obstacle, obstacle? = some obstacle →
    failure.told = obstacleFailure obstacle

theorem Failure.toldUnless
    {failure : Failure R}
    {obstacle? : Option Value.Obstacle}
    (same : failure.obstacle? = obstacle?) :
    failure.ToldUnless obstacle? := by
  refine ⟨fun clear => told_of_no_obstacle (same.trans clear), ?_⟩
  intro obstacle unclear
  rw [Failure.told, same.trans unclear]

/-- A literal that can be shown has a text. -/
theorem shownText_eq_ok {value : Value R} {content : String} :
    shownText value = .ok content ↔
      value.obstacle? = none ∧ content = value.display := by
  unfold shownText requireShown
  cases value.obstacle? <;> simp [eq_comm]

/-- The obstacle to a text is what it is refused for. -/
theorem shownText_of_obstacle
    {value : Value R}
    {obstacle : Value.Obstacle}
    (unshown : value.obstacle? = some obstacle) :
    shownText value = .error (obstacleFailure obstacle) := by
  rw [shownText, requireShown, unshown]
  rfl

namespace Value

/-- A whole number of more digits than can be shown. -/
def overlong : Int := Int.ofNat (Nat.pow 16 3600)

theorem obstacle?_overlong : (int overlong : Value R).obstacle? = some .tooManyDigits := by
  have long : isShort overlong = false := by decide +kernel
  rw [obstacle?, obstacleInside?, long]
  rfl

/-- A number that can be a length has few enough digits to be shown. -/
theorem obstacle?_of_le_sizeLimit {length : Nat} (possible : (length : Int) ≤ sizeLimit) :
    (int length : Value R).obstacle? = none := by
  have below : length < 10 ^ 19 := by
    simp only [sizeLimit] at possible
    omega
  have fits {digits : Nat} (enough : 19 ≤ digits) : length < Nat.pow 10 digits :=
    Nat.lt_of_lt_of_le below (Nat.pow_le_pow_right (by decide) enough)
  have short : isShort (length : Int) = true := decide_eq_true (fits (by decide))
  rw [obstacle?, obstacleInside?, if_pos short]

/-- The sign of a number makes it neither longer nor shorter. -/
theorem obstacle?_neg (number : Int) :
    (int (-number) : Value R).obstacle? = (int number : Value R).obstacle? := by
  have asLong : isShort (-number) = isShort number := by
    rw [isShort, isShort, Int.natAbs_neg]
  rw [obstacle?, obstacle?, obstacleInside?, obstacleInside?, asLong]

end Value
end MelodyAutomation

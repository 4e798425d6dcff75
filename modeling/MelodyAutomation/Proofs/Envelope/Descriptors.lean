import MelodyAutomation.Proofs.Envelope.Grammar
import MelodyAutomation.Proofs.Envelope.Scalars
import MelodyAutomation.Proofs.Scalar.Range
import MelodyAutomation.Proofs.Scalar.Sign
import MelodyAutomation.Proofs.Yields

/-!
# Curves of descriptors

The factors of a descriptor are digits and points, so neither of them carries a minus
sign. A decay whose rate carries none is in range at every grid point, and so every
descriptor that is read at all stands for a curve of scalars.
-/

namespace MelodyAutomation

/-- What is told of a failure is a fault of the configuration. -/
def Failure.IsConfiguration {R : Type} [Machine R] (failure : Failure R) : Prop :=
  ∃ fault, failure.told = .configuration fault

namespace Envelope

variable [Limits]

/-- What a factor counts as carries no minus sign. -/
theorem hasSign_of_countsAs
    {characters : List Char}
    (factor : IsFactor characters)
    {number : Float}
    (counts : CountsAs (some characters) number) :
    Binary.HasSign .positive number := by
  cases counts with
  | zero => exact Binary.hasSign_ofDecimal 1 0
  | number read _ =>
      obtain ⟨whole, fraction, -, rfl⟩ :=
        (Value.toScalar_text_eq_ok factor.isPointed).1 read
      exact Binary.hasSign_ofDecimal _ _

/-- A specification stands for a curve of scalars: its name is registered, its decay is
in range at every grid point and starts at a scalar, or its points are pairs of
scalars. -/
def Spec.IsOrdinary : Spec Float → Prop
  | .named name => ∃ content, name = .text content ∧
      (registeredCurve? content).isSome = true
  | .damp alpha beta => (∃ peak, beta = .real peak) ∧
      ∀ index : Int, 0 < index → (decayAt alpha decaySteps index).isOk = true
  | .explicit points => ∀ point ∈ points, point.IsScalar

omit [Limits] in
theorem exponential_real
    {scalar result : Float}
    (bounded : Scalar.bounded? Scalar.exp scalar = some result) :
    exponential (.real scalar) = .ok result := by
  have read : (Value.real scalar).toNumber = .ok (.scalar scalar) := rfl
  simp only [exponential, read, Attempt.ok_bind, Number.toScalar, bounded]

/-- A decay whose rate carries no minus sign is in range. -/
theorem isOk_decayAt
    {rate : Float}
    (positive : Binary.HasSign .positive rate)
    {index : Int}
    (after : 0 < index) :
    (decayAt (.real rate) decaySteps index).isOk = true := by
  unfold decayAt
  split
  next before =>
    obtain ⟨index, rfl⟩ := Int.eq_ofNat_of_zero_le after.le
    have close : (index : Int) < 4 := before
    have steps : ∀ step < 4,
        (Scalar.ofInt? (step : Nat) : Option Float).isSome = true := by
      decide +kernel
    obtain ⟨step, found⟩ :=
      Option.isSome_iff_exists.1 (steps index (by omega))
    have whole : Binary.HasSign .positive step :=
      Binary.hasSign_nearest (by exact_mod_cast Nat.zero_le index) found
    have argument : (Value.real (Scalar.neg rate)).mul (.int index) =
        .ok (.real (Scalar.mul (Scalar.neg rate) step)) :=
      Value.real_mul_eq_ok.2
        ⟨step, ⟨.whole index, rfl, by simp [Number.toScalar, found]⟩, rfl⟩
    have inRange : (Scalar.bounded? Scalar.exp
        (Scalar.mul (Scalar.neg rate) step)).isSome = true :=
      (positive.neg.mul whole).isSome_exp
    obtain ⟨result, bounded⟩ := Option.isSome_iff_exists.1 inRange
    change (((Value.real (Scalar.neg rate)).mul (.int index) >>=
      exponential).isOk) = true
    rw [argument, Attempt.ok_bind, exponential_real bounded]
    rfl
  next => rfl

/-- Every text is the descriptor of a curve of scalars, or no descriptor. -/
theorem yields_parseDescriptor (text : String) :
    (parseDescriptor text).Yields Spec.IsOrdinary Failure.IsConfiguration := by
  have decodes : Decodes (Text.strip text.toList)
      (parseDescriptor text : Attempt Float (Spec Float)) :=
    decodes_parseDescriptor text
  cases parsed : (parseDescriptor text : Attempt Float (Spec Float)) with
  | error failure =>
      rw [parsed] at decodes
      obtain ⟨fault, rfl, told⟩ := decodes.told_of_error
      exact ⟨fault, told⟩
  | ok spec =>
      rw [parsed] at decodes
      cases decodes with
      | named registered => exact ⟨_, rfl, registered⟩
      | damp form _ ofAlpha ofBeta =>
          have rate := hasSign_of_countsAs form.alpha ofAlpha
          exact ⟨⟨_, rfl⟩, fun _ => isOk_decayAt rate⟩

/-- Where a decay is in range, its grid point is a pair of scalars. -/
theorem yields_decayPoint
    {alpha : Value Float}
    (peak : Float)
    {index : Nat}
    (close : index < 4)
    (inRange : (decayAt alpha decaySteps (index + 1)).isOk = true) :
    (decayPoint alpha (.real peak) decaySteps (index + 1)).Yields
      Point.IsScalar fun _ => False := by
  obtain ⟨level, decayed⟩ := Attempt.exists_of_isOk inRange
  obtain ⟨time, divided⟩ : ∃ time : Float,
      Number.divWhole (index + 1 : Nat) decaySteps = .ok time :=
    Number.exists_divWhole (by decide) close
  have scaled : (Value.real level).mul (.real peak) =
      .ok (.real (Scalar.mul level peak)) :=
    Value.real_mul_eq_ok.2 ⟨peak, Value.countsAs_real.2 rfl, rfl⟩
  rw [Nat.cast_succ] at divided
  simp only [decayPoint, decayed, divided, scaled, Attempt.ok_bind,
    Attempt.yields_ok]
  exact ⟨_, _, rfl⟩

/-- A specification that stands for a curve of scalars gives it. -/
theorem Spec.IsOrdinary.yields_points
    {spec : Spec Float}
    (ordinary : spec.IsOrdinary) :
    spec.points.Yields (fun points => ∀ point ∈ points, point.IsScalar)
      fun _ => False := by
  cases spec with
  | explicit points => exact ordinary
  | named name =>
      obtain ⟨content, rfl, registered⟩ := ordinary
      obtain ⟨curve, found⟩ := Option.isSome_iff_exists.1 registered
      simp only [Spec.points, namedPoints, Value.isHashable, if_true, found,
        Attempt.yields_ok]
      intro point member
      obtain ⟨corner, -, rfl⟩ := List.mem_map.1 member
      exact ⟨_, _, rfl⟩
  | damp alpha beta =>
      obtain ⟨⟨peak, rfl⟩, inRange⟩ := ordinary
      have grid : ∀ index ∈ List.range decaySteps.toNat,
          (decayPoint alpha (.real peak) decaySteps (index + 1)).Yields
            Point.IsScalar fun _ => False :=
        fun index member => yields_decayPoint peak (List.mem_range.1 member)
          (inRange (index + 1) (by omega))
      refine (Attempt.yields_mapM grid).bind fun points scalar => ?_
      intro point member
      rcases List.mem_cons.1 member with rfl | member
      · exact ⟨_, _, rfl⟩
      rcases List.mem_cons.1 member with rfl | member
      · exact ⟨_, _, rfl⟩
      · exact scalar point member

end Envelope
end MelodyAutomation

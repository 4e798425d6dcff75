import MelodyAutomation.Proofs.Envelope.Descriptors
import MelodyAutomation.Proofs.Value.Refusals

/-!
# Envelopes of literals

A literal makes an envelope of scalars or it is refused as a fault of the
configuration, as long as its whole numbers are in the range of scalars and it can be
shown. A specification has to stand for a curve of scalars by itself, because what it
holds is taken as it is.

A whole number beyond the range is where this ends: its own failure takes the place of
the fault.
-/

namespace MelodyAutomation

namespace Value

/-- A literal is a sequence of pairs of scalars. -/
def IsCurve (literal : Value Float) : Prop :=
  ∃ items, literal.toItems = .ok items ∧ ∀ item ∈ items,
    ∃ time value, item.toPair = .ok (.real time, .real value)

/-- A whole number is in the range of scalars. -/
def IsInRange (value : Value Float) : Prop :=
  ∀ number, value = .int number →
    (Scalar.ofInt? number : Option Float).isSome = true

/-- The coordinates in a sequence of pairs are in the range of scalars. -/
def HasCoordinatesInRange (literal : Value Float) : Prop :=
  ∀ items, literal.toItems = .ok items → ∀ item ∈ items,
    ∀ time value, item.toPair = .ok (time, value) →
      time.IsInRange ∧ value.IsInRange

/-- A literal in range is a scalar or does not fit. -/
theorem IsInRange.refusedFor_toScalar
    {value : Value Float}
    (inRange : value.IsInRange) :
    value.toScalar.RefusedFor Failure.IsMisfit := by
  have whole (number : Int)
      (found : (Scalar.ofInt? number : Option Float).isSome = true) :
      (Number.whole number : Number Float).toScalar.RefusedFor
        Failure.IsMisfit := by
    obtain ⟨scalar, found⟩ := Option.isSome_iff_exists.1 found
    simp only [Number.toScalar, found]
    trivial
  cases value with
  | text content => exact refusedFor_readScalar content
  | bytes octets => exact refusedFor_readScalar (numeralOf octets)
  | int number => exact whole number (inRange number rfl)
  | real scalar => trivial
  | bool truth =>
      cases truth with
      | false => exact whole 0 (by decide +kernel)
      | true => exact whole 1 (by decide +kernel)
  | _ => exact .inl rfl

end Value

namespace Envelope

/-- A literal of an envelope is ordinary. A specification stands for a curve of
scalars; whatever else is no text can be shown, and its coordinates are in the range of
scalars. -/
def IsOrdinary [Limits] : Value Float → Prop
  | .record .named [name] => (Spec.named name).IsOrdinary
  | .record .damp [alpha, beta] => (Spec.damp alpha beta).IsOrdinary
  | .record .explicit [points] => points.IsCurve
  | .text _ => True
  | literal => literal.obstacle? = none ∧ literal.HasCoordinatesInRange

theorem yields_scalarPoint
    {item : Value Float}
    (inRange : ∀ time value, item.toPair = .ok (time, value) →
      time.IsInRange ∧ value.IsInRange) :
    (scalarPoint item).Yields Point.IsScalar Failure.IsMisfit := by
  refine item.yields_toPair.bind fun (time, value) found => ?_
  obtain ⟨ofTime, ofValue⟩ := inRange time value found
  refine ofTime.refusedFor_toScalar.bind fun first _ => ?_
  refine ofValue.refusedFor_toScalar.bind fun second _ => ?_
  exact ⟨first, second, rfl⟩

theorem yields_scalarPoints
    {literal : Value Float}
    (inRange : literal.HasCoordinatesInRange) :
    (scalarPoints literal).Yields (fun points => ∀ point ∈ points, point.IsScalar)
      Failure.IsMisfit :=
  literal.yields_toItems.bind fun items found =>
    Attempt.yields_mapM fun item member =>
      yields_scalarPoint (inRange items found item member)

theorem yields_explicitSpec
    [Limits]
    {literal : Value Float}
    (shown : literal.obstacle? = none)
    (inRange : literal.HasCoordinatesInRange) :
    (explicitSpec literal).Yields Spec.IsOrdinary Failure.IsConfiguration := by
  have yields := yields_scalarPoints inRange
  have fault : Failure.IsConfiguration
      (.configuration (.notPoints literal) : Failure Float) :=
    ⟨_, Failure.told_of_no_obstacle shown⟩
  unfold explicitSpec
  cases made : scalarPoints literal with
  | ok points =>
      rw [made] at yields
      exact yields
  | error failure =>
      rw [made] at yields
      rcases yields with rfl | rfl
      · exact fault
      · exact fault

/-- What a record of explicit points holds is taken as it is. -/
theorem yields_pointsOfRecord
    {points : Value Float}
    (curve : points.IsCurve) :
    (pointsOfRecord points).Yields (fun points => ∀ point ∈ points, point.IsScalar)
      fun _ => False := by
  obtain ⟨items, found, pairs⟩ := curve
  unfold pointsOfRecord
  rw [found]
  intro point member
  obtain ⟨item, inside, rfl⟩ := List.mem_map.1 member
  obtain ⟨time, value, pair⟩ := pairs item inside
  exact ⟨time, value, by simp [Point.ofValue, pair]⟩

/-- An ordinary literal is a curve of scalars or a fault. -/
theorem yields_specOfValue
    [Limits]
    {literal : Value Float}
    (ordinary : IsOrdinary literal) :
    (specOfValue literal).Yields Spec.IsOrdinary Failure.IsConfiguration := by
  unfold specOfValue
  split
  next name => exact ordinary
  next alpha beta => exact ordinary
  next points =>
      refine ((yields_pointsOfRecord ordinary).imp (fun _ => id)
        fun _ => False.elim).bind fun decoded scalar => ?_
      exact scalar
  next descriptor => exact yields_parseDescriptor descriptor
  next noName noDecay noPoints noText =>
      rw [IsOrdinary.eq_5 literal noName noDecay noPoints noText] at ordinary
      exact yields_explicitSpec ordinary.1 ordinary.2

/-- A curve is taken over as a default. -/
theorem yields_scalarPoints_of_curve
    {default : Value Float}
    (curve : default.IsCurve) :
    (scalarPoints default).Yields (fun points => ∀ point ∈ points, point.IsScalar)
      fun _ => False := by
  obtain ⟨items, found, pairs⟩ := curve
  unfold scalarPoints
  rw [found]
  refine Attempt.yields_mapM fun item member => ?_
  obtain ⟨time, value, pair⟩ := pairs item member
  unfold scalarPoint
  rw [pair]
  exact ⟨time, value, rfl⟩

/-- An ordinary literal makes an envelope that has points, all of them pairs of
scalars, or what is told of it is a fault of the configuration. -/
theorem curve_or_configuration
    [Limits]
    {literal default : Value Float}
    (ordinary : IsOrdinary literal)
    (curve : default.IsCurve) :
    (ofValue literal default).outcome.Yields
      (fun envelope => envelope.points ≠ [] ∧ envelope.IsScalar)
      Failure.IsConfiguration := by
  have impossible (failure : Failure Float) (never : False) :
      failure.IsConfiguration := never.elim
  unfold ofValue
  refine Logged.yields_bind (yields_specOfValue ordinary) fun spec known => ?_
  refine Logged.yields_bind (known.yields_points.imp (fun _ => id) impossible)
    fun own scalar => ?_
  split_ifs with empty
  · refine Logged.yields_bind Logged.yields_report fun _ _ => ?_
    refine Logged.yields_bind ((yields_scalarPoints_of_curve curve).imp
      (fun _ => id) impossible) fun points scalar => ?_
    split_ifs with none
    · exact ⟨_, rfl⟩
    · exact ⟨by simpa using none, scalar⟩
  · exact ⟨by simpa using empty, scalar⟩

/-- Whole numbers, a text and a truth value as coordinates. -/
def mixedCoordinates : Value Float :=
  .list
    [.list [.int 0, .text "0.5"],
      .tuple [.real 0.25, .bool true],
      .list [.int 1, .int 0]]

theorem curve_or_configuration_of_mixed :
    IsOrdinary mixedCoordinates ∧
      (Value.list [] : Value Float).IsCurve ∧
      (ofValue mixedCoordinates (.list [])).outcome.Yields
        (fun envelope => envelope.points ≠ [] ∧ envelope.IsScalar)
        Failure.IsConfiguration := by
  have zero : (Value.int 0 : Value Float).IsInRange := by
    rintro _ ⟨⟩
    decide +kernel
  have one : (Value.int 1 : Value Float).IsInRange := by
    rintro _ ⟨⟩
    decide +kernel
  have ordinary : IsOrdinary mixedCoordinates := by
    refine ⟨by decide +kernel, fun items found item member time value pair => ?_⟩
    obtain rfl := Except.ok.inj found
    simp only [List.mem_cons, List.not_mem_nil, or_false] at member
    rcases member with rfl | rfl | rfl
    · obtain ⟨rfl, rfl⟩ := Prod.mk.inj (Except.ok.inj pair)
      exact ⟨zero, by rintro _ ⟨⟩⟩
    · obtain ⟨rfl, rfl⟩ := Prod.mk.inj (Except.ok.inj pair)
      exact ⟨by rintro _ ⟨⟩, by rintro _ ⟨⟩⟩
    · obtain ⟨rfl, rfl⟩ := Prod.mk.inj (Except.ok.inj pair)
      exact ⟨one, zero⟩
  have curve : (Value.list [] : Value Float).IsCurve := ⟨[], rfl, by simp⟩
  exact ⟨ordinary, curve, curve_or_configuration ordinary curve⟩

/-- A whole number beyond the range of scalars is refused for that, and not as a fault
of the configuration. -/
theorem overflow_of_immense
    [Limits]
    {number : Int}
    (immense : (Scalar.ofInt? number : Option Float) = none)
    (value : Value Float)
    (rest : List (Value Float))
    (default : Value Float) :
    (ofValue (.list (.list [.int number, value] :: rest)) default).outcome =
      .error .overflow := by
  have refused : (Value.int number : Value Float).toScalar = .error .overflow := by
    change (Number.whole number : Number Float).toScalar = .error .overflow
    simp only [Number.toScalar, immense]
  have point : scalarPoint (.list [.int number, value]) =
      (.error .overflow : Attempt Float _) := by
    change (Value.int number : Value Float).toScalar >>= _ = _
    rw [refused]
    rfl
  have points : scalarPoints (.list (.list [.int number, value] :: rest)) =
      (.error .overflow : Attempt Float _) := by
    unfold scalarPoints
    rw [Value.toItems_list, Attempt.ok_bind, List.mapM_cons, point]
    rfl
  have spec : specOfValue (.list (.list [.int number, value] :: rest)) =
      (.error .overflow : Attempt Float _) := by
    change explicitSpec _ = _
    unfold explicitSpec
    rw [points]
  unfold ofValue
  rw [spec]
  rfl

theorem immense_coordinate_overflows :
    (ofValue (.list [.list [.int (Int.ofNat (Nat.pow 10 400)), .int 1]])
      (.list []) : Logged Float (Envelope Float)).outcome = .error .overflow ∧
      ¬ (Failure.overflow : Failure Float).IsConfiguration := by
  refine ⟨overflow_of_immense (by decide +kernel) _ _ _, ?_⟩
  rintro ⟨fault, told⟩
  cases told

end Envelope
end MelodyAutomation

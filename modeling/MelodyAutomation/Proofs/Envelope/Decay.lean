import MelodyAutomation.Proofs.Envelope.Descriptors
import MelodyAutomation.Proofs.Scalar.Order
import MelodyAutomation.Proofs.Scalar.Range

/-!
# The times of decays

A decay has a start at time zero, an attack at one hundredth, and then a point at the end of
every step of a grid from zero to one. Its times are what is nearest to these moments.
Rounding keeps the order, so the times never decrease if the moments do not. The grid is in
order, and up to a hundred steps the attack comes before it.

In more than a hundred steps, the first of them ends before the attack, and the rounded
times tell the two apart. So the curve goes back in time there, and nowhere else.
-/

namespace MelodyAutomation
namespace Envelope

/-! ## Moments -/

/-- The moments of a decay: its start, its attack, and the ends of its steps. -/
def decayMoments (count : Nat) : List Rat :=
  0 :: 1 / 100 :: (List.range count).map fun index => ((index + 1 : Nat) : Rat) / count

theorem length_decayMoments (count : Nat) :
    (decayMoments count).length = count + 2 := by
  simp [decayMoments]

theorem getLast?_decayMoments
    {count : Nat}
    (positive : 0 < count) :
    (decayMoments count).getLast? = some 1 := by
  obtain ⟨count, rfl⟩ := Nat.exists_eq_succ_of_ne_zero positive.ne'
  have last : ((count + 1 : Nat) : Rat) / (count.succ : Nat) = 1 := div_self (by positivity)
  simp only [decayMoments, List.range_succ, List.map_append, List.map_cons, List.map_nil,
    List.getLast?_cons, List.getLast?_append, List.getLast?_nil, last]
  rfl

/-- The ends of the steps are in order. -/
theorem pairwise_steps (count : Nat) :
    ((List.range count).map fun index => ((index + 1 : Nat) : Rat) / count).Pairwise
      (· ≤ ·) := by
  rw [List.pairwise_map]
  refine List.pairwise_lt_range.imp fun less => ?_
  exact div_le_div_of_nonneg_right (by exact_mod_cast Nat.succ_le_succ less.le)
    (Nat.cast_nonneg count)

theorem decayMoments_nonneg
    {count : Nat}
    {moment : Rat}
    (member : moment ∈ decayMoments count) :
    0 ≤ moment := by
  simp only [decayMoments, List.mem_cons, List.mem_map] at member
  rcases member with rfl | rfl | ⟨index, -, rfl⟩
  · exact le_rfl
  · norm_num
  · positivity

/-- The moments other than the attack are in order. -/
theorem pairwise_eraseIdx_decayMoments (count : Nat) :
    ((decayMoments count).eraseIdx 1).Pairwise (· ≤ ·) := by
  refine List.pairwise_cons.2 ⟨fun moment member => ?_, pairwise_steps count⟩
  exact decayMoments_nonneg (List.mem_cons_of_mem _ (List.mem_cons_of_mem _ member))

/-- The moments are in order if there are no more than a hundred steps. -/
theorem pairwise_decayMoments
    {count : Nat}
    (few : count ≤ 100) :
    (decayMoments count).Pairwise (· ≤ ·) := by
  refine List.pairwise_cons.2 ⟨fun moment member => ?_,
    List.pairwise_cons.2 ⟨fun moment member => ?_, pairwise_steps count⟩⟩
  · exact decayMoments_nonneg (List.mem_cons_of_mem _ member)
  · obtain ⟨index, inside, rfl⟩ := List.mem_map.1 member
    have positive : 0 < count := (Nat.zero_le _).trans_lt (List.mem_range.1 inside)
    rw [div_le_div_iff₀ (by norm_num) (by exact_mod_cast positive)]
    have enough : count ≤ (index + 1) * 100 := by omega
    rw [one_mul]
    exact_mod_cast enough

/-! ## Times -/

section

variable {R : Type}

/-- A point is reached at a time. -/
def Point.IsAt (point : Point R) (time : R) : Prop :=
  ∃ value, point = .pair (.real time) value

section

variable [Scalar R]

/-- Times are what is nearest to moments. -/
abbrev AreNearest (moments : List Rat) (times : List R) : Prop :=
  List.Forall₂ (fun moment time => Scalar.nearest? false moment = some time) moments times

/-- Hundredths are what is nearest to them. -/
def RoundsHundredths (R : Type) [Scalar R] : Prop :=
  ∀ number ≤ 100, Scalar.nearest? false ((number : Nat) / 100 : Rat) =
    some (Scalar.ofDecimal number (-2) : R)

end

variable [Machine R]

/-- What is made of a grid point is reached at what is nearest to its moment. -/
theorem exists_time_of_decayPoint
    {alpha beta : Value R}
    {count : Nat}
    (positive : 0 < count)
    {index : Nat}
    {point : Point R}
    (made : decayPoint alpha beta count (index + 1) = .ok point) :
    ∃ time, Scalar.nearest? false (((index + 1 : Nat) : Rat) / count) = some time ∧
      point.IsAt time := by
  simp only [decayPoint, Attempt.bind_eq_ok, Except.ok.injEq] at made
  obtain ⟨level, -, time, divided, value, -, rfl⟩ := made
  exact ⟨time, (Number.divWhole_eq_ok positive).1 divided, value, rfl⟩

/-- A decay is made in a whole number of steps, and its points are reached at what is
nearest to its moments. -/
theorem exists_times_of_dampPoints
    (hundredths : RoundsHundredths R)
    {alpha beta steps : Value R}
    {points : List (Point R)}
    (made : dampPoints alpha beta steps = .ok points) :
    ∃ count times, steps.wholeNumber? = some count ∧
      AreNearest (decayMoments count.toNat) times ∧
      List.Forall₂ Point.IsAt points times := by
  unfold dampPoints at made
  split at made
  next count whole =>
    simp only [Attempt.bind_eq_ok, Except.ok.injEq, Attempt.mapM_eq_ok] at made
    obtain ⟨grid, related, rfl⟩ := made
    have start : Scalar.nearest? false 0 = some (Scalar.ofDecimal 0 (-2) : R) := by
      simpa using hundredths 0 (by decide)
    have attack : Scalar.nearest? false (1 / 100) =
        some (Scalar.ofDecimal 1 (-2) : R) := by
      simpa using hundredths 1 (by decide)
    obtain ⟨times, nearest, reached⟩ : ∃ times : List R,
        AreNearest ((List.range count.toNat).map fun index =>
          ((index + 1 : Nat) : Rat) / count.toNat) times ∧
        List.Forall₂ Point.IsAt grid times := by
      rcases le_or_gt count 0 with absent | positive
      · -- Where there are no steps, there is no grid.
        rw [Int.toNat_eq_zero.2 absent] at related ⊢
        cases related
        exact ⟨[], .nil, .nil⟩
      · obtain ⟨count, rfl⟩ := Int.eq_ofNat_of_zero_le positive.le
        obtain ⟨times, nearest, reached⟩ := exists_between
          (related.imp fun index point =>
            exists_time_of_decayPoint (Int.natCast_pos.1 positive))
        exact ⟨times, List.forall₂_map_left_iff.2 nearest, reached⟩
    exact ⟨count, _ :: _ :: times, whole,
      .cons start (.cons attack nearest), .cons ⟨_, rfl⟩ (.cons ⟨_, rfl⟩ reached)⟩
  next => cases made

end

/-! ## The order of times -/

theorem roundsHundredths_double : RoundsHundredths Float := by
  unfold RoundsHundredths
  decide +kernel

/-- Times that are nearest to moments in order are in order. -/
theorem AreNearest.pairwise
    {moments : List Rat}
    {times : List Float}
    (nearest : AreNearest moments times)
    (nonneg : ∀ moment ∈ moments, 0 ≤ moment)
    (ordered : moments.Pairwise (· ≤ ·)) :
    times.Pairwise Scalar.AtMost := by
  rw [List.pairwise_iff_getElem] at ordered ⊢
  intro earlier later inside insideLater less
  have bound : later < moments.length := nearest.length_eq ▸ insideLater
  exact Binary.atMost_of_nearest (nonneg _ (List.getElem_mem _))
    (ordered earlier later (less.trans bound) bound less)
    (nearest.get (less.trans bound) inside) (nearest.get bound insideLater)

/-- In more than a hundred steps, the first of them ends before the attack. -/
theorem not_atMost_of_step
    {count : Nat}
    (many : 100 < count)
    {attack step : Float}
    (ofAttack : Scalar.nearest? false (1 / 100) = some attack)
    (ofStep : Scalar.nearest? false (1 / count) = some step) :
    ¬ Scalar.AtMost attack step := by
  intro after
  have early : (1 : Rat) / count ≤ 1 / 101 :=
    one_div_le_one_div_of_le (by norm_num) (by exact_mod_cast many)
  have apart : (Scalar.nearest? false (1 / 100) : Option Float).bind (fun attack =>
      (Scalar.nearest? false (1 / 101)).bind (Scalar.compare? attack)) = some .gt := by
    decide +kernel
  obtain ⟨latest, ofLatest⟩ : ∃ latest : Float,
      Scalar.nearest? false (1 / 101) = some latest :=
    Binary.exists_nearest (by norm_num) (by norm_num)
  obtain ⟨own, greatest, read, readLatest, ordered⟩ :=
    Binary.exists_readings (by positivity) early ofStep ofLatest
  obtain ⟨-, behind, -, readAttack, -⟩ :=
    Binary.exists_readings (by norm_num) (by norm_num : (1 : Rat) / 101 ≤ 1 / 100)
      ofLatest ofAttack
  have turned : Scalar.AtMost attack latest :=
    (Binary.atMost_iff readAttack readLatest).2
      (((Binary.atMost_iff readAttack read).1 after).trans ordered)
  rw [ofAttack, ofLatest, Option.bind_some, Option.bind_some] at apart
  rw [Scalar.AtMost, apart] at turned
  simp at turned

/-- The last moment is rounded to one exactly. -/
theorem AreNearest.getLast?_times
    {count : Nat}
    (positive : 0 < count)
    {times : List Float}
    (nearest : AreNearest (decayMoments count) times) :
    times.getLast? = some 1.0 := by
  have moment := getLast?_decayMoments positive
  rw [List.getLast?_eq_getElem?, nearest.length_eq] at moment
  obtain ⟨time, found, ofOne⟩ := exists_related nearest moment
  rw [List.getLast?_eq_getElem?, found]
  exact ofOne.symm.trans (by decide +kernel)

/-- Without the attack, the rounded times are in order. -/
theorem AreNearest.pairwise_eraseIdx
    {count : Nat}
    {times : List Float}
    (nearest : AreNearest (decayMoments count) times) :
    (times.eraseIdx 1).Pairwise Scalar.AtMost := by
  have erased : AreNearest ((decayMoments count).eraseIdx 1) (times.eraseIdx 1) := by
    cases nearest with
    | cons ofStart rest =>
        cases rest with
        | cons _ grid => exact .cons ofStart grid
  exact erased.pairwise
    (fun _ member => decayMoments_nonneg (List.mem_of_mem_eraseIdx member))
    (pairwise_eraseIdx_decayMoments count)

/-- If all rounded times are in order, there are no more than a hundred steps. -/
theorem AreNearest.count_le_of_pairwise
    {count : Nat}
    (positive : 0 < count)
    {times : List Float}
    (nearest : AreNearest (decayMoments count) times)
    (ordered : times.Pairwise Scalar.AtMost) :
    count ≤ 100 := by
  by_contra many
  -- The second and the third time are those of the attack and of the first step.
  obtain ⟨others, rfl⟩ := Nat.exists_eq_succ_of_ne_zero positive.ne'
  rw [decayMoments, List.range_succ_eq_map, List.map_cons] at nearest
  cases nearest with
  | cons _ rest =>
      cases rest with
      | cons ofAttack grid =>
          cases grid with
          | cons ofStep _ =>
              have behind := (List.pairwise_cons.1 (List.pairwise_cons.1 ordered).2).1
              rw [Nat.zero_add, Nat.cast_one] at ofStep
              exact not_atMost_of_step (by omega) ofAttack ofStep
                (behind _ (List.mem_cons_self ..))

/-- The times of a decay in a number of steps. -/
structure AreDecayTimes (count : Int) (times : List Float) : Prop where
  starts : times.head? = some 0.0
  ends : times.getLast? = some 1.0
  /-- Without the attack the times never decrease. -/
  steps : (times.eraseIdx 1).Pairwise Scalar.AtMost
  /-- With the attack they never decrease exactly if no step is shorter than a hundredth. -/
  ordered : times.Pairwise Scalar.AtMost ↔ count ≤ 100

/-- What is nearest to the moments of a decay are the times of one. -/
theorem AreNearest.areDecayTimes
    {count : Nat}
    (positive : 0 < count)
    {times : List Float}
    (nearest : AreNearest (decayMoments count) times) :
    AreDecayTimes count times where
  starts := by
    cases nearest with
    | cons ofStart _ => exact ofStart.symm
  ends := nearest.getLast?_times positive
  steps := nearest.pairwise_eraseIdx
  ordered := by
    constructor
    · intro ordered
      exact_mod_cast nearest.count_le_of_pairwise positive ordered
    · intro few
      exact nearest.pairwise (fun _ => decayMoments_nonneg)
        (pairwise_decayMoments (by exact_mod_cast few))

/-- A decay is made in a whole number of steps. If that is at least one, there are two
points more than steps, from time 0.0 to time 1.0. The times other than that of the attack
never decrease, and all of them never decrease exactly if there are at most a hundred
steps. -/
theorem decay_goes_forward
    [Limits]
    {alpha beta steps : Value Float}
    {points : List (Point Float)}
    (made : dampPoints alpha beta steps = .ok points) :
    ∃ count times, steps.wholeNumber? = some count ∧
      List.Forall₂ Point.IsAt points times ∧
      (1 ≤ count → (points.length : Int) = count + 2 ∧ AreDecayTimes count times) := by
  obtain ⟨count, times, whole, nearest, reached⟩ :=
    exists_times_of_dampPoints roundsHundredths_double made
  refine ⟨count, times, whole, reached, fun positive => ?_⟩
  obtain ⟨count, rfl⟩ := Int.eq_ofNat_of_zero_le (by omega : 0 ≤ count)
  have long : points.length = count + 2 :=
    (reached.length_eq.trans nearest.length_eq.symm).trans (length_decayMoments count)
  exact ⟨by exact_mod_cast long, nearest.areDecayTimes (by omega)⟩

/-- The decay of `damp(2)*0.5`. -/
theorem decay_goes_forward_of_default :
    ∃ points : List (Point Float),
      dampPoints (.real 2.0) (.real 0.5) (.int decaySteps) = .ok points ∧
      points.length = 6 ∧
      ∃ times, List.Forall₂ Point.IsAt points times ∧ AreDecayTimes 4 times ∧
        times.Pairwise Scalar.AtMost := by
  have rate : Binary.HasSign .positive 2.0 := rfl
  have ordinary : (Spec.damp (.real 2.0) (.real 0.5)).IsOrdinary :=
    ⟨⟨_, rfl⟩, fun _ => isOk_decayAt rate⟩
  obtain ⟨points, found, -⟩ := ordinary.yields_points.exists
  have made : dampPoints (.real 2.0) (.real 0.5) (.int decaySteps) = .ok points := found
  obtain ⟨count, times, whole, reached, runs⟩ := decay_goes_forward made
  obtain rfl : decaySteps = count := Option.some.inj whole
  obtain ⟨long, areTimes⟩ := runs (by decide)
  have six : points.length = 6 := Int.ofNat_inj.1 long
  exact ⟨points, made, six, times, reached, areTimes, areTimes.ordered.2 (by decide)⟩

/-- In a hundred and one steps, the times of a decay are not in order. -/
theorem fine_decay_goes_back :
    ∃ (points : List (Point Float)) (times : List Float),
      dampPoints (.int 0) (.int 1) (.int 101) = .ok points ∧
      List.Forall₂ Point.IsAt points times ∧ ¬ times.Pairwise Scalar.AtMost := by
  have succeeds : (dampPoints (.int 0) (.int 1) (.int 101) :
      Attempt Float (List (Point Float))).isOk = true := by
    decide +kernel
  obtain ⟨points, made⟩ := Attempt.exists_of_isOk succeeds
  obtain ⟨count, times, whole, nearest, reached⟩ :=
    exists_times_of_dampPoints roundsHundredths_double made
  obtain rfl := Option.some.inj whole
  refine ⟨points, times, made, reached, fun ordered => ?_⟩
  exact absurd (nearest.count_le_of_pairwise (by decide) ordered) (by decide)

end Envelope
end MelodyAutomation

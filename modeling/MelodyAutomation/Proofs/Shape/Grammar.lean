import MelodyAutomation.Proofs.Shape
import MelodyAutomation.Proofs.Value.Copies
import MelodyAutomation.Proofs.Value.Obstacles
import MelodyAutomation.Proofs.Value.Sameness
import MelodyAutomation.Scalar.Double

/-!
# The grammar of shapes

Which literals are shapes, and what they are shapes of, is said here without decoding
them: a count is a number that stands for a whole number and is not negative, and a row
is a list or a tuple. A repeat shape is a count or a row of counts, a transform shape is
a number or a row of anything. A decoder accepts what has such a form and fits the
number of notes, and it names what is wrong with everything else.

A decoded shape has a form as well: it stands for what it wraps. Decoded once more, it
is the same.

The number of notes is itself given by a literal. It can be any whole number, which no
row fits if it is negative, and for which there may be no room if it is large.
-/

namespace MelodyAutomation

variable {R : Type} [Machine R]

/-- A result that is known in all cases, of which one is always at hand, is what it is
only in these cases. -/
theorem result_iff_of_cases
    {α ε : Type}
    {result : Except ε α}
    {accepts : α → Prop}
    {rejects : ε → Prop}
    (ofAccepts : ∀ value, accepts value → result = .ok value)
    (ofRejects : ∀ fault, rejects fault → result = .error fault)
    (decided : (∃ value, accepts value) ∨ ∃ fault, rejects fault) :
    (∀ value, result = .ok value ↔ accepts value) ∧
      ∀ fault, result = .error fault ↔ rejects fault := by
  rcases decided with ⟨own, accepted⟩ | ⟨own, rejected⟩
  · have isOk := ofAccepts own accepted
    refine ⟨fun value => ⟨fun same => ?_, ofAccepts value⟩,
      fun fault => ⟨fun same => ?_, ofRejects fault⟩⟩
    · exact Except.ok.inj (isOk.symm.trans same) ▸ accepted
    · cases isOk.symm.trans same
  · have isError := ofRejects own rejected
    refine ⟨fun value => ⟨fun same => ?_, ofAccepts value⟩,
      fun fault => ⟨fun same => ?_, ofRejects fault⟩⟩
    · cases isError.symm.trans same
    · exact Except.error.inj (isError.symm.trans same) ▸ rejected

/-! ## Counts and rows -/

namespace Value

/-- A literal is a count: a number, but no truth value, that stands for a whole number
which is not negative. -/
def IsCount (literal : Value R) (times : Nat) : Prop :=
  isProperNumber literal = true ∧ literal.reading? = some (.finite times)

omit [Machine R] in
/-- A literal is a row of items: a list or a tuple of them. -/
def IsRow (literal : Value R) (items : List (Value R)) : Prop :=
  literal.exposed = .list items ∨ literal.exposed = .tuple items

omit [Machine R] in
/-- A number is no row. -/
theorem not_isRow_of_number
    {literal : Value R}
    (number : isProperNumber literal = true)
    (items : List (Value R)) :
    ¬ literal.IsRow items := by
  intro row
  cases literal with
  | int own => rcases row with row | row <;> cases row
  | real scalar => rcases row with row | row <;> cases row
  | _ => cases number

end Value

theorem Reading.wholeNumber?_eq_some {reading : Reading} {number : Int} :
    reading.wholeNumber? = some number ↔ reading = .finite number := by
  constructor
  · intro whole
    cases reading with
    | finite value =>
        simp only [wholeNumber?] at whole
        split at whole
        next integral =>
            cases whole
            exact congrArg finite (Rat.ext rfl integral)
        next => cases whole
    | infinite negative => cases whole
    | undefined => cases whole
  · rintro rfl
    exact wholeNumber?_finite_intCast number

/-- A literal is read as a count exactly if it is one. -/
theorem count?_eq_some {literal : Value R} {times : Nat} :
    count? literal = some times ↔ literal.IsCount times := by
  -- A whole number is a count if it is not negative.
  have counted (number : Int) :
      (if number < 0 then none else some number.toNat) = some times ↔
        number = times := by
    split_ifs with negative
    · simp only [false_iff]
      omega
    · simp only [Option.some.injEq]
      omega
  cases literal with
  | int number =>
      simp only [count?, counted, Value.IsCount, isProperNumber, Value.reading?,
        true_and, Option.some.injEq, Reading.finite.injEq]
      exact_mod_cast Iff.rfl
  | real scalar =>
      have whole : Value.IsCount (.real scalar) times ↔
          Scalar.wholeNumber? scalar = some (times : Int) := by
        rw [Scalar.wholeNumber?, Reading.wholeNumber?_eq_some, Rat.intCast_natCast]
        simp [Value.IsCount, isProperNumber, Value.reading?]
      rw [whole, count?]
      cases Scalar.wholeNumber? scalar with
      | none => simp
      | some number => simp only [counted, Option.some.injEq]
  | _ => simp [count?, Value.IsCount, isProperNumber]

/-- The items of a list are counts, one by one. -/
theorem mapM_count?_eq_some {items : List (Value R)} {counts : List Nat} :
    items.mapM count? = some counts ↔ List.Forall₂ Value.IsCount items counts := by
  induction items generalizing counts with
  | nil => simp [eq_comm]
  | cons item rest hypothesis =>
      simp only [List.mapM_cons, Option.bind_eq_bind, Option.bind_eq_some_iff,
        Option.pure_def, Option.some.injEq, count?_eq_some, hypothesis,
        List.forall₂_cons_left_iff]
      constructor
      · rintro ⟨times, isCount, others, areCounts, rfl⟩
        exact ⟨times, others, isCount, areCounts, rfl⟩
      · rintro ⟨times, others, isCount, areCounts, rfl⟩
        exact ⟨times, isCount, others, areCounts, rfl⟩

/-! ## Numbers of notes -/

theorem Value.compareNumbers_int (left right : Int) :
    (Value.int left : Value R).compareNumbers (.int right) =
      .ok (some (if left < right then .lt else if left = right then .eq else .gt)) := by
  have compared : (Value.int left : Value R).compareNumbers (.int right) =
      .ok (Reading.compare? (.finite left) (.finite right)) := rfl
  rw [compared, Reading.compare?]
  simp only [Rat.intCast_lt_intCast, Rat.intCast_inj]

theorem Value.same_int (left right : Int) :
    (Value.int left : Value R).same (.int right) = decide (left = right) := by
  have number : (Value.int left : Value R).reading? = some (.finite left) := rfl
  rw [Bool.eq_iff_iff, same_of_number number, sameNumber_iff number]
  simp [reading?, eq_comm]

/-! ## Repeat shapes -/

namespace RepeatShape

/-- What repeating something more often than there is room for is refused for. -/
def overcrowded (length : Int) : Failure R :=
  if sizeLimit < length then .overflow else .outOfMemory

/-- A literal is a repeat shape for a number of notes. -/
inductive Denotes (length : Int) : Value R → RepeatShape → Prop
  /-- A count is one for the whole melody. -/
  | count {literal : Value R} {times : Nat}
      (isCount : literal.IsCount times) :
      Denotes length literal (.count times)
  /-- A row has a count for each note. -/
  | each {literal : Value R} {items : List (Value R)} {counts : List Nat}
      (row : literal.IsRow items)
      (areCounts : List.Forall₂ Value.IsCount items counts)
      (fits : (counts.length : Int) = length) :
      Denotes length literal (.perElement counts)
  /-- A row of a single count has it for each of several notes. -/
  | spread {literal item : Value R} {times : Nat}
      (row : literal.IsRow [item])
      (isCount : item.IsCount times)
      (several : 1 < length)
      (room : HasRoom R 1 length.toNat) :
      Denotes length literal (.perElement (List.replicate length.toNat times))

/-- What a literal that is no repeat shape for a number of notes is refused for. -/
inductive Refuses (length : Int) : Value R → Failure R → Prop
  /-- It is neither a row nor a count. -/
  | noShape {literal : Value R}
      (noRow : ∀ items, ¬ literal.IsRow items)
      (noCount : ∀ times, ¬ literal.IsCount times) :
      Refuses length literal (.misuse (.repeatShape literal))
  /-- It is a row, but not of counts. -/
  | noCounts {literal : Value R} {items : List (Value R)}
      (row : literal.IsRow items)
      (noCounts : ∀ counts, ¬ List.Forall₂ Value.IsCount items counts) :
      Refuses length literal (.misuse (.repeatCounts items))
  /-- It is a row of counts, but not of as many as there are notes. -/
  | misfit {literal : Value R} {items : List (Value R)} {counts : List Nat}
      (row : literal.IsRow items)
      (areCounts : List.Forall₂ Value.IsCount items counts)
      (unfit : (counts.length : Int) ≠ length)
      (several : counts.length = 1 → ¬ 1 < length) :
      Refuses length literal (.misuse (.repeatLength counts.length (.int length)))
  /-- It is a row of a single count, but there are too many notes to have it for each. -/
  | crowded {literal item : Value R} {times : Nat}
      (row : literal.IsRow [item])
      (isCount : item.IsCount times)
      (several : 1 < length)
      (crowded : ¬ HasRoom R 1 length.toNat) :
      Refuses length literal (overcrowded length)

/-! ### Fitting counts -/

/-- Counts fitted to a number of notes. -/
def fitTo (counts : List Nat) (length : Int) : Attempt R RepeatShape := do
  let counts ← broadcastTo counts (.int length)
  if (Value.int counts.length : Value R).same (.int length) then
    .ok (.perElement counts)
  else .error (.misuse (.repeatLength counts.length (.int length)))

/-- Counts are broadcast only if there is a single one for several notes. -/
theorem broadcastTo_eq_self
    {length : Int}
    {counts : List Nat}
    (whole : counts.length = 1 → ¬ 1 < length) :
    (broadcastTo counts (.int length) : Attempt R (List Nat)) = .ok counts := by
  unfold broadcastTo
  split
  next only =>
      rw [Value.compareNumbers_int, Attempt.ok_bind, if_neg]
      have few := whole rfl
      split_ifs <;> first | omega | simp
  next => rfl

/-- A single count is broadcast by repeating it. -/
theorem broadcastTo_singleton
    {length : Int}
    (several : 1 < length)
    (times : Nat) :
    (broadcastTo [times] (.int length) : Attempt R (List Nat)) =
      Value.repeatItems .outOfMemory [times] length := by
  have below : ¬ length < 1 := by omega
  have different : length ≠ 1 := by omega
  rw [broadcastTo, Value.compareNumbers_int, Attempt.ok_bind, if_neg below,
    if_neg different, if_pos rfl]
  rfl

theorem fitTo_of_unbroadcast
    {length : Int}
    {counts : List Nat}
    (whole : counts.length = 1 → ¬ 1 < length) :
    (fitTo counts length : Attempt R RepeatShape) =
      if (counts.length : Int) = length then .ok (.perElement counts)
      else .error (.misuse (.repeatLength counts.length (.int length))) := by
  rw [fitTo, broadcastTo_eq_self whole, Attempt.ok_bind, Value.same_int]
  simp only [decide_eq_true_eq]

theorem fitTo_singleton
    {length : Int}
    (several : 1 < length)
    (room : HasRoom R 1 length.toNat)
    (times : Nat) :
    (fitTo [times] length : Attempt R RepeatShape) =
      .ok (.perElement (List.replicate length.toNat times)) := by
  have whole : (length.toNat : Int) = length := Int.toNat_of_nonneg (by omega)
  have copied : Value.repeatItems (.outOfMemory : Failure R) [times] length.toNat =
      .ok (List.replicate length.toNat times) :=
    Value.repeatItems_eq_ok.2 ⟨room, by simp⟩
  rw [whole] at copied
  rw [fitTo, broadcastTo_singleton several, copied, Attempt.ok_bind, Value.same_int,
    List.length_replicate, if_pos (decide_eq_true whole)]

theorem fitTo_crowded
    {length : Int}
    (several : 1 < length)
    (crowded : ¬ HasRoom R 1 length.toNat)
    (times : Nat) :
    (fitTo [times] length : Attempt R RepeatShape) = .error (overcrowded length) := by
  have whole : (length.toNat : Int) = length := Int.toNat_of_nonneg (by omega)
  have excess : Value.repeatItems (.outOfMemory : Failure R) [times] length =
      .error (overcrowded length) := by
    have own : (([times].length : Int) * length) = length := Int.one_mul length
    have lower : ¬ length < -sizeLimit - 1 := by
      simp only [sizeLimit]
      omega
    unfold Value.repeatItems overcrowded
    by_cases large : sizeLimit < length
    · rw [if_pos (.inr large), if_pos large]
    · have beyond : ((Machine.limits R).room : Int) < length := by
        rw [HasRoom, whole, not_and, Nat.one_mul] at crowded
        have unfit := crowded (Int.not_lt.1 large)
        omega
      rw [if_neg (not_or.2 ⟨lower, large⟩), if_neg large, own, if_neg large,
        if_pos beyond, if_neg]
      simp only [List.isEmpty_cons, Bool.false_eq_true, false_or]
      omega
  rw [fitTo, broadcastTo_singleton several, excess, Attempt.error_bind]

/-! ### Reading literals -/

/-- Only what is no row is read as a count. -/
theorem forLength_of_no_row
    {literal : Value R}
    (noRow : ∀ items, ¬ (unwrapRepeat literal).IsRow items)
    (length : Value R) :
    forLength literal length =
      match count? (unwrapRepeat literal) with
      | some times => .ok (.count times)
      | none => .error (.misuse (.repeatShape (unwrapRepeat literal))) := by
  unfold forLength read
  dsimp only
  split
  next items row => exact absurd (.inl row) (noRow items)
  next items row => exact absurd (.inr row) (noRow items)
  next => cases count? (unwrapRepeat literal) <;> rfl

/-- A row is read item by item. -/
theorem forLength_of_row
    {literal : Value R}
    {items : List (Value R)}
    (row : (unwrapRepeat literal).IsRow items)
    (length : Int) :
    forLength literal (.int length) =
      match items.mapM count? with
      | some counts => fitTo counts length
      | none => .error (.misuse (.repeatCounts items)) := by
  have read : RepeatShape.read literal = ofCounts items := by
    unfold RepeatShape.read
    rcases row with row | row <;> simp only [row]
  unfold forLength
  rw [read, ofCounts]
  cases items.mapM count? <;> rfl

theorem forLength_of_denotes
    {literal : Value R}
    {length : Int}
    {shape : RepeatShape}
    (denotes : Denotes length (unwrapRepeat literal) shape) :
    forLength literal (.int length) = .ok shape := by
  cases denotes with
  | count isCount =>
      rw [forLength_of_no_row (Value.not_isRow_of_number isCount.1),
        count?_eq_some.2 isCount]
  | each row areCounts fits =>
      rw [forLength_of_row row, mapM_count?_eq_some.2 areCounts]
      exact (fitTo_of_unbroadcast fun single => by omega).trans (if_pos fits)
  | spread row isCount several room =>
      rw [forLength_of_row row, mapM_count?_eq_some.2 (.cons isCount .nil)]
      exact fitTo_singleton several room _

theorem forLength_of_refuses
    {literal : Value R}
    {length : Int}
    {failure : Failure R}
    (refuses : Refuses length (unwrapRepeat literal) failure) :
    forLength literal (.int length) = .error failure := by
  cases refuses with
  | noShape noRow noCount =>
      have unread : count? (unwrapRepeat literal) = none :=
        Option.eq_none_iff_forall_ne_some.2 fun times read =>
          noCount times (count?_eq_some.1 read)
      rw [forLength_of_no_row noRow, unread]
  | noCounts row noCounts =>
      have unread : List.mapM count? _ = none :=
        Option.eq_none_iff_forall_ne_some.2 fun counts read =>
          noCounts counts (mapM_count?_eq_some.1 read)
      rw [forLength_of_row row, unread]
  | misfit row areCounts unfit several =>
      rw [forLength_of_row row, mapM_count?_eq_some.2 areCounts]
      exact (fitTo_of_unbroadcast several).trans (if_neg unfit)
  | crowded row isCount several crowded =>
      rw [forLength_of_row row, mapM_count?_eq_some.2 (.cons isCount .nil)]
      exact fitTo_crowded several crowded _

/-- A literal either is a shape or there is something it is refused for. -/
theorem denotes_or_refuses (literal : Value R) (length : Int) :
    (∃ shape, Denotes length literal shape) ∨ ∃ failure, Refuses length literal failure := by
  by_cases row : ∃ items, literal.IsRow items
  · obtain ⟨items, row⟩ := row
    by_cases areCounts : ∃ counts, List.Forall₂ Value.IsCount items counts
    · obtain ⟨counts, areCounts⟩ := areCounts
      by_cases several : counts.length = 1 ∧ 1 < length
      · obtain ⟨times, rfl⟩ := List.length_eq_one_iff.1 several.1
        obtain ⟨item, _, isCount, nothing, rfl⟩ := List.forall₂_cons_right_iff.1 areCounts
        cases nothing
        by_cases room : HasRoom R 1 length.toNat
        · exact .inl ⟨_, .spread row isCount several.2 room⟩
        · exact .inr ⟨_, .crowded row isCount several.2 room⟩
      · by_cases fits : (counts.length : Int) = length
        · exact .inl ⟨_, .each row areCounts fits⟩
        · exact .inr ⟨_, .misfit row areCounts fits (not_and.1 several)⟩
    · exact .inr ⟨_, .noCounts row (not_exists.1 areCounts)⟩
  · by_cases isCount : ∃ times, literal.IsCount times
    · obtain ⟨times, isCount⟩ := isCount
      exact .inl ⟨_, .count isCount⟩
    · exact .inr ⟨_, .noShape (not_exists.1 row) (not_exists.1 isCount)⟩

/-- A literal is decoded exactly if it is a shape, and refused for what keeps it from
being one. -/
theorem forLength_iff (literal : Value R) (length : Int) :
    (∀ shape, forLength literal (.int length) = .ok shape ↔
        Denotes length (unwrapRepeat literal) shape) ∧
      ∀ failure, forLength literal (.int length) = .error failure ↔
        Refuses length (unwrapRepeat literal) failure :=
  result_iff_of_cases (fun _ => forLength_of_denotes) (fun _ => forLength_of_refuses)
    (denotes_or_refuses _ length)

/-- There is one count per note. -/
theorem Denotes.length_eq
    {literal : Value R}
    {length : Int}
    {counts : List Nat}
    (denotes : Denotes length literal (.perElement counts)) :
    (counts.length : Int) = length := by
  cases denotes with
  | each row areCounts fits => exact fits
  | spread row isCount several room =>
      rw [List.length_replicate]
      exact Int.toNat_of_nonneg (by omega)

/-! ### Decoding again -/

omit [Machine R] in
/-- Any literal but a record stands for itself. -/
theorem unwrapRepeat_of_plain
    {literal : Value R}
    (plain : ∀ kind fields, literal ≠ .record kind fields) :
    unwrapRepeat literal = literal := by
  cases literal with
  | record kind fields => exact absurd rfl (plain kind fields)
  | _ => rfl

theorem isCount_natCast (times : Nat) : (Value.int times : Value R).IsCount times :=
  count?_eq_some.1 (count?_natCast times)

/-- A decoded shape is a shape again. -/
theorem Denotes.again
    {literal : Value R}
    {length : Int}
    {shape : RepeatShape}
    (denotes : Denotes length literal shape) :
    Denotes length (unwrapRepeat (shape.toValue : Value R)) shape := by
  cases shape with
  | count times => exact .count (isCount_natCast times)
  | perElement counts =>
      refine .each (.inl rfl) ?_ denotes.length_eq
      rw [List.forall₂_map_left_iff, List.forall₂_same]
      exact fun times _ => isCount_natCast times

/-! ### Lengths of melodies -/

/-- Counts are fitted to the notes of a melody alike. -/
theorem fitTo_natCast
    {length : Nat}
    (room : HasRoom R 1 length)
    (counts : List Nat) :
    fitTo counts length =
      misused (fit length (.perElement counts) : Except (Misuse R) RepeatShape) := by
  by_cases several : counts.length = 1 ∧ 1 < length
  · obtain ⟨times, rfl⟩ := List.length_eq_one_iff.1 several.1
    have spread : broadcast [times] length = List.replicate length times :=
      if_pos several.2
    have fitted : (fitTo [times] length : Attempt R RepeatShape) =
        .ok (.perElement (List.replicate length times)) :=
      fitTo_singleton (Int.ofNat_lt.2 several.2) room times
    rw [fitted, fit, spread, if_pos List.length_replicate]
    rfl
  · have whole : broadcast counts length = counts := by
      unfold broadcast
      split
      · exact if_neg fun more => several ⟨rfl, more⟩
      · rfl
    rw [fitTo_of_unbroadcast fun single more => several ⟨single, Int.ofNat_lt.1 more⟩,
      fit, whole]
    simp only [Int.natCast_inj]
    split_ifs <;> rfl

/-- A repeat shape is decoded alike for a melody and for a literal that gives the number
of its notes. -/
theorem forLength_natCast
    {length : Nat}
    (room : HasRoom R 1 length)
    (literal : Value R) :
    forLength literal (.int length) = misused (ofValue literal length) := by
  unfold forLength ofValue
  cases RepeatShape.read literal with
  | error fault => rfl
  | ok own =>
      cases own with
      | count times => rfl
      | perElement counts => exact fitTo_natCast room counts

end RepeatShape

/-! ## Transform shapes -/

namespace TransformShape

/-- A literal is a transform shape for a number of notes. -/
inductive Denotes (length : Int) : Value R → TransformShape R → Prop
  /-- A number is one for every note. -/
  | uniform {literal : Value R}
      (number : isProperNumber literal = true) :
      Denotes length literal (.uniform literal)
  /-- A row has an item for each note. -/
  | perElement {literal : Value R} {items : List (Value R)}
      (row : literal.IsRow items)
      (fits : (items.length : Int) = length) :
      Denotes length literal (.perElement items)

/-- What a literal that is no transform shape for a number of notes is refused for. -/
inductive Refuses (length : Int) (label : String) : Value R → Failure R → Prop
  /-- It is neither a row nor a number. -/
  | noShape {literal : Value R}
      (noRow : ∀ items, ¬ literal.IsRow items)
      (noNumber : isProperNumber literal = false) :
      Refuses length label literal (.misuse (.transformShape label literal))
  /-- It is a row, but not of as many items as there are notes. -/
  | misfit {literal : Value R} {items : List (Value R)}
      (row : literal.IsRow items)
      (unfit : (items.length : Int) ≠ length) :
      Refuses length label literal
        (.misuse (.transformLength label items.length (.int length)))

theorem forLength_of_no_row
    {literal : Value R}
    (noRow : ∀ items, ¬ (unwrapTransform literal).IsRow items)
    (length : Value R)
    (label : String) :
    forLength literal length label =
      if isProperNumber (unwrapTransform literal) then
        .ok (.uniform (unwrapTransform literal))
      else .error (.misuse (.transformShape label (unwrapTransform literal))) := by
  unfold forLength read
  dsimp only
  split
  next items row => exact absurd (.inl row) (noRow items)
  next items row => exact absurd (.inr row) (noRow items)
  next => cases isProperNumber (unwrapTransform literal) <;> rfl

theorem forLength_of_row
    {literal : Value R}
    {items : List (Value R)}
    (row : (unwrapTransform literal).IsRow items)
    (length : Int)
    (label : String) :
    forLength literal (.int length) label =
      if (items.length : Int) = length then .ok (.perElement items)
      else .error (.misuse (.transformLength label items.length (.int length))) := by
  have read : TransformShape.read literal label = .ok (.perElement items) := by
    unfold TransformShape.read
    rcases row with row | row <;> simp only [row]
  have same : (Value.int items.length : Value R).same (.int length) = _ :=
    Value.same_int items.length length
  unfold forLength
  rw [read]
  change (if (Value.int items.length : Value R).same (.int length) then _ else _) = _
  simp only [same, decide_eq_true_eq]

theorem forLength_of_denotes
    {literal : Value R}
    {length : Int}
    {shape : TransformShape R}
    (denotes : Denotes length (unwrapTransform literal) shape)
    (label : String) :
    forLength literal (.int length) label = .ok shape := by
  generalize wrapped : unwrapTransform literal = own at denotes
  cases denotes with
  | uniform number =>
      subst wrapped
      rw [forLength_of_no_row (Value.not_isRow_of_number number), if_pos number]
  | perElement row fits =>
      subst wrapped
      rw [forLength_of_row row, if_pos fits]

theorem forLength_of_refuses
    {literal : Value R}
    {length : Int}
    {label : String}
    {failure : Failure R}
    (refuses : Refuses length label (unwrapTransform literal) failure) :
    forLength literal (.int length) label = .error failure := by
  generalize wrapped : unwrapTransform literal = own at refuses
  cases refuses with
  | noShape noRow noNumber =>
      subst wrapped
      rw [forLength_of_no_row noRow, noNumber]
      rfl
  | misfit row unfit =>
      subst wrapped
      rw [forLength_of_row row, if_neg unfit]

omit [Machine R] in
/-- A literal either is a shape or there is something it is refused for. -/
theorem denotes_or_refuses (literal : Value R) (length : Int) (label : String) :
    (∃ shape, Denotes length literal shape) ∨
      ∃ failure, Refuses length label literal failure := by
  by_cases row : ∃ items, literal.IsRow items
  · obtain ⟨items, row⟩ := row
    by_cases fits : (items.length : Int) = length
    · exact .inl ⟨_, .perElement row fits⟩
    · exact .inr ⟨_, .misfit row fits⟩
  · cases number : isProperNumber literal with
    | true => exact .inl ⟨_, .uniform number⟩
    | false => exact .inr ⟨_, .noShape (not_exists.1 row) number⟩

/-- A literal is decoded exactly if it is a shape, and refused for what keeps it from
being one. -/
theorem forLength_iff (literal : Value R) (length : Int) (label : String) :
    (∀ shape, forLength literal (.int length) label = .ok shape ↔
        Denotes length (unwrapTransform literal) shape) ∧
      ∀ failure, forLength literal (.int length) label = .error failure ↔
        Refuses length label (unwrapTransform literal) failure :=
  result_iff_of_cases (fun _ denotes => forLength_of_denotes denotes label)
    (fun _ => forLength_of_refuses) (denotes_or_refuses _ length label)

omit [Machine R] in
/-- Any literal but a record stands for itself. -/
theorem unwrapTransform_of_plain
    {literal : Value R}
    (plain : ∀ kind fields, literal ≠ .record kind fields) :
    unwrapTransform literal = literal := by
  cases literal with
  | record kind fields => exact absurd rfl (plain kind fields)
  | _ => rfl

omit [Machine R] in
/-- A decoded shape is a shape again. -/
theorem Denotes.again
    {literal : Value R}
    {length : Int}
    {shape : TransformShape R}
    (denotes : Denotes length literal shape) :
    Denotes length (unwrapTransform shape.toValue) shape := by
  cases denotes with
  | uniform number => exact .uniform number
  | perElement row fits => exact .perElement (.inl rfl) fits

/-- A transform shape is decoded alike for a melody and for a literal that gives the
number of its notes. -/
theorem forLength_natCast
    (literal : Value R)
    (length : Nat)
    (label : String) :
    forLength literal (.int length) label = misused (ofValue literal length label) := by
  unfold forLength ofValue
  cases TransformShape.read literal label with
  | error fault => rfl
  | ok own =>
      cases own with
      | uniform value => rfl
      | perElement values =>
          change (if (Value.int values.length : Value R).same (.int length) then
              Except.ok (perElement values)
            else .error (.misuse (.transformLength label values.length (.int length)))) =
            misused (fit length label (.perElement values))
          rw [Value.same_int, fit]
          simp only [decide_eq_true_eq, Int.natCast_inj]
          split_ifs <;> rfl

end TransformShape

/-! ## The decoders -/

/-- A failure is the misuse of a shape. It is met, unless it cannot be told because the
literal or the number of notes that it shows cannot be shown. -/
def Failure.IsOfShape (failure : Failure R) : Prop :=
  ∃ fault, failure = .misuse fault ∧ fault.isShape = true ∧
    failure.ToldUnless fault.obstacle?

theorem Misuse.isOfShape {fault : Misuse R} (isShape : fault.isShape = true) :
    (Failure.misuse fault).IsOfShape :=
  ⟨fault, rfl, isShape, Failure.toldUnless rfl⟩

/-- Whatever keeps a literal from being a shape is the misuse of one, or there is no
room. -/
theorem RepeatShape.Refuses.isOfShape
    {literal : Value R}
    {length : Int}
    {failure : Failure R}
    (refuses : Refuses length literal failure) :
    failure.IsOfShape ∨ failure = overcrowded length ∧ ¬ HasRoom R 1 length.toNat := by
  cases refuses with
  | noShape | noCounts | misfit => exact .inl (Misuse.isOfShape rfl)
  | crowded row isCount several crowded => exact .inr ⟨rfl, crowded⟩

theorem TransformShape.Refuses.isOfShape
    {literal : Value R}
    {length : Int}
    {label : String}
    {failure : Failure R}
    (refuses : Refuses length label literal failure) :
    failure.IsOfShape := by
  cases refuses <;> exact Misuse.isOfShape rfl

/-- A literal is decoded as a repeat shape by the grammar. -/
structure RepeatShape.FollowsGrammar (literal : Value R) (length : Int) : Prop where
  /-- It is decoded exactly if it is a shape. -/
  accepted : ∀ shape, forLength literal (.int length) = .ok shape ↔
    Denotes length (unwrapRepeat literal) shape
  /-- It is refused exactly for what keeps it from being one, which is the misuse of a
  shape if there is room for it. -/
  refused : ∀ failure, forLength literal (.int length) = .error failure ↔
    Refuses length (unwrapRepeat literal) failure
  misused : ∀ failure, forLength literal (.int length) = .error failure →
    failure.IsOfShape ∨ failure = overcrowded length ∧ ¬ HasRoom R 1 length.toNat
  /-- There is one count per note. -/
  sized : ∀ counts, forLength literal (.int length) = .ok (.perElement counts) →
    (counts.length : Int) = length
  /-- Decoded again, a shape is the same. -/
  again : ∀ shape, forLength literal (.int length) = .ok shape →
    forLength (shape.toValue : Value R) (.int length) = .ok shape
  /-- A decoded count stands for the number, decoded counts for the list of them, and
  what is no record for itself. -/
  ofCount : ∀ times : Nat, literal = (count times).toValue →
    unwrapRepeat literal = .int times
  ofCounts : ∀ counts : List Nat, literal = (perElement counts).toValue →
    unwrapRepeat literal = .list (counts.map fun times : Nat => .int times)
  plain : (∀ kind fields, literal ≠ .record kind fields) →
    unwrapRepeat literal = literal
  /-- For as many notes as a melody can have, it is decoded as for a melody. -/
  ofMelody : ∀ notes : Nat, length = notes → HasRoom R 1 notes →
    forLength literal (.int length) = MelodyAutomation.misused (ofValue literal notes)

/-- A literal is decoded as a transform shape by the grammar. -/
structure TransformShape.FollowsGrammar (literal : Value R) (length : Int)
    (label : String) : Prop where
  accepted : ∀ shape, forLength literal (.int length) label = .ok shape ↔
    Denotes length (unwrapTransform literal) shape
  refused : ∀ failure, forLength literal (.int length) label = .error failure ↔
    Refuses length label (unwrapTransform literal) failure
  misused : ∀ failure, forLength literal (.int length) label = .error failure →
    failure.IsOfShape
  again : ∀ shape, forLength literal (.int length) label = .ok shape →
    forLength shape.toValue (.int length) label = .ok shape
  /-- A decoded value stands for itself, decoded values for the list of them. -/
  ofUniform : ∀ value, literal = (uniform value).toValue →
    unwrapTransform literal = value
  ofValues : ∀ values, literal = (perElement values).toValue →
    unwrapTransform literal = .list values
  plain : (∀ kind fields, literal ≠ .record kind fields) →
    unwrapTransform literal = literal
  ofMelody : ∀ notes : Nat, length = notes →
    forLength literal (.int length) label =
      MelodyAutomation.misused (ofValue literal notes label)

/-- Shapes are decoded by their grammar, and once decoded they stay the same. -/
theorem shapes_follow_grammar (literal : Value R) (length : Int) (label : String) :
    RepeatShape.FollowsGrammar literal length ∧
      TransformShape.FollowsGrammar literal length label := by
  constructor
  · obtain ⟨accepted, refused⟩ := RepeatShape.forLength_iff literal length
    exact {
      accepted
      refused
      misused := fun failure refuses => ((refused failure).1 refuses).isOfShape
      sized := fun counts decodes => ((accepted _).1 decodes).length_eq
      again := fun shape decodes =>
        RepeatShape.forLength_of_denotes ((accepted shape).1 decodes).again
      ofCount := by rintro times rfl; rfl
      ofCounts := by rintro counts rfl; rfl
      plain := RepeatShape.unwrapRepeat_of_plain
      ofMelody := by
        rintro notes rfl room
        exact RepeatShape.forLength_natCast room literal }
  · obtain ⟨accepted, refused⟩ := TransformShape.forLength_iff literal length label
    exact {
      accepted
      refused
      misused := fun failure refuses => ((refused failure).1 refuses).isOfShape
      again := fun shape decodes =>
        TransformShape.forLength_of_denotes ((accepted shape).1 decodes).again label
      ofUniform := by rintro value rfl; rfl
      ofValues := by rintro values rfl; rfl
      plain := TransformShape.unwrapTransform_of_plain
      ofMelody := by
        rintro notes rfl
        exact TransformShape.forLength_natCast literal notes label }

/-- A negative number is refused, and if it cannot be shown, that is what is met. -/
theorem RepeatShape.untold_of_negative
    {number : Int}
    (negative : number < 0)
    {obstacle : Value.Obstacle}
    (unshown : (Value.int number : Value R).obstacle? = some obstacle)
    (length : Int) :
    ∃ failure : Failure R, forLength (.int number) (.int length) = .error failure ∧
      failure.told = obstacleFailure obstacle := by
  have refuses : Refuses length (.int number : Value R)
      (.misuse (.repeatShape (.int number))) := by
    refine .noShape (Value.not_isRow_of_number rfl) fun times isCount => ?_
    rw [← count?_eq_some, count?, if_pos negative] at isCount
    cases isCount
  exact ⟨_, forLength_of_refuses refuses,
    Failure.ToldUnless.untold (Failure.toldUnless rfl) obstacle unshown⟩

/-- A number of too many digits is no shape, but what is met is not the misuse. -/
theorem overlong_shape_is_not_told :
    ∃ failure : Failure Float,
      RepeatShape.forLength (.int (-Value.overlong)) (.int 1) = .error failure ∧
        failure.told = .malformed ∧ ∀ fault, failure.told ≠ .misuse fault := by
  have negative : -Value.overlong < 0 := by decide +kernel
  have unshown : (Value.int (-Value.overlong) : Value Float).obstacle? =
      some .tooManyDigits := by
    rw [Value.obstacle?_neg, Value.obstacle?_overlong]
  obtain ⟨failure, refused, told⟩ := RepeatShape.untold_of_negative negative unshown 1
  refine ⟨failure, refused, told, ?_⟩
  rw [told]
  nofun

end MelodyAutomation

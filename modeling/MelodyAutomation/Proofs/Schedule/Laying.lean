import MelodyAutomation.Proofs.Outcome
import MelodyAutomation.Schedule

/-!
# What scheduling an item adds

Scheduling is inverted here, one lemma for each of its operations: what a block
holds when an envelope could be laid over a window, what an item adds to every
target, where the next item starts, and which items of a normalized composition
bear the flags of the ends. Later proofs use these lemmas and do not open the
scheduler again.
-/

namespace MelodyAutomation

variable {R α : Type}

namespace PerTarget

/-- A value could be computed for every target exactly when each one is the value
of the function there. -/
theorem tabulateM_eq_ok
    {function : Target → Attempt R α}
    {values : PerTarget α} :
    tabulateM function = .ok values ↔
      ∀ target, function target = .ok (values.get target) := by
  constructor
  · intro computed
    simp only [tabulateM, Attempt.bind_eq_ok, Attempt.pure_eq_ok,
      Except.ok.injEq] at computed
    obtain ⟨_, first, _, second, _, third, _, fourth, rfl⟩ := computed
    intro target
    cases target with
    | oscillatorFrequency => exact first
    | oscillatorGain => exact second
    | noiseGain => exact third
    | filterFrequency => exact fourth
  · intro agree
    have first := agree .oscillatorFrequency
    have second := agree .oscillatorGain
    have third := agree .noiseGain
    have fourth := agree .filterFrequency
    simp [tabulateM, first, second, third, fourth, get]

end PerTarget

variable [Machine R]

namespace Envelope

/-- The segment of a point starts with the window, and its ramp and its value are
the products that define them. -/
theorem segment_eq_ok
    {window : Window R}
    {length index : Nat}
    {point : Point R}
    {result : Segment R} :
    segment window length index point = .ok result ↔
      ∃ time level,
        point.coordinates = .ok (time, level) ∧
        result.start = window.start ∧
        time.mul window.duration = .ok result.ramp ∧
        (endValue window length index level).mul window.scale =
          .ok result.value := by
  obtain ⟨start, ramp, value⟩ := result
  constructor
  · intro made
    simp only [segment, Attempt.bind_eq_ok, Except.ok.injEq,
      Segment.mk.injEq, Prod.exists] at made
    obtain ⟨time, level, coordinates, _, ramped, _, valued, rfl, rfl, rfl⟩ := made
    exact ⟨time, level, coordinates, rfl, ramped, valued⟩
  · rintro ⟨time, level, coordinates, started, ramped, valued⟩
    simp only at started ramped valued
    simp [segment, coordinates, started, ramped, valued]

/-- The segments of points, each with its index. -/
theorem segmentsFrom_eq_ok
    {window : Window R}
    {length index : Nat}
    {points : List (Point R)}
    {block : Block R} :
    segmentsFrom window length index points = .ok block ↔
      List.Forall₂
        (fun entry result => segment window length entry.2 entry.1 = .ok result)
        (points.zipIdx index) block := by
  induction points generalizing index block with
  | nil => simp [segmentsFrom, eq_comm]
  | cons point rest hypothesis =>
      cases block with
      | nil => simp [segmentsFrom]
      | cons first others => simp [segmentsFrom, hypothesis]

end Envelope

namespace Scheduler

variable {scheduler : Scheduler R}

/-- What an item adds to a target: nothing without an envelope, else the block of
the envelope over the item's window. -/
theorem lay_eq_ok
    {target : Target}
    {item : CompositionItem R}
    {cursor : R}
    {scale : Value R}
    {blocks : List (Block R)} :
    scheduler.lay target item cursor scale = .ok blocks ↔
      match scheduler.envelopes.get target with
      | none => blocks = []
      | some envelope =>
          ∃ block,
            envelope.reduce (window target item cursor scale) = .ok block ∧
            blocks = [block] := by
  unfold lay
  cases scheduler.envelopes.get target with
  | none =>
      rw [Except.ok.injEq]
      exact eq_comm
  | some envelope =>
      rw [Attempt.bind_eq_ok]
      simp only [Except.ok.injEq, eq_comm]

/-- What an item adds to every target. -/
theorem layItem_eq_ok
    {item : CompositionItem R}
    {cursor : R}
    {frequency : Option (Value R)}
    {blocks : PerTarget (List (Block R))} :
    scheduler.layItem item cursor frequency = .ok blocks ↔
      ∀ target,
        match scheduler.scale? item frequency target with
        | none => blocks.get target = []
        | some scale =>
            scheduler.lay target item cursor scale =
              .ok (blocks.get target) := by
  rw [layItem, PerTarget.tabulateM_eq_ok]
  apply forall_congr'
  intro target
  cases scheduler.scale? item frequency target with
  | none =>
      rw [Except.ok.injEq]
      exact eq_comm
  | some scale => rfl

/-- What an item adds to one target is nothing, or the block of its envelope. -/
theorem layItem_get
    {item : CompositionItem R}
    {cursor : R}
    {frequency : Option (Value R)}
    {blocks : PerTarget (List (Block R))}
    (laid : scheduler.layItem item cursor frequency = .ok blocks)
    (target : Target) :
    blocks.get target = [] ∨
      ∃ envelope scale block,
        scheduler.envelopes.get target = some envelope ∧
        envelope.reduce (window target item cursor scale) = .ok block ∧
        blocks.get target = [block] := by
  have own := layItem_eq_ok.1 laid target
  cases scales : scheduler.scale? item frequency target with
  | none =>
      rw [scales] at own
      exact .inl own
  | some scale =>
      rw [scales] at own
      have added := lay_eq_ok.1 own
      cases present : scheduler.envelopes.get target with
      | none =>
          rw [present] at added
          exact .inl added
      | some envelope =>
          rw [present] at added
          obtain ⟨block, reduced, single⟩ := added
          exact .inr ⟨envelope, scale, block, rfl, reduced, single⟩

/-- The length of an item as a scalar. -/
def itemLength (item : CompositionItem R) : Attempt R R := do
  let length ← item.duration.toNumber
  length.toScalar

/-- The cursor moves by the length of the item. -/
theorem moveCursor_eq_ok
    {cursor moved : R}
    {item : CompositionItem R} :
    moveCursor cursor item.duration = .ok moved ↔
      ∃ length, itemLength item = .ok length ∧
        Scalar.add cursor length = moved := by
  constructor
  · intro reached
    simp only [moveCursor, Attempt.bind_eq_ok, Except.ok.injEq] at reached
    obtain ⟨number, isNumber, length, isScalar, sum⟩ := reached
    exact ⟨length, by simp [itemLength, isNumber, isScalar], sum⟩
  · rintro ⟨length, measured, sum⟩
    simp only [itemLength, Attempt.bind_eq_ok] at measured
    obtain ⟨number, isNumber, isScalar⟩ := measured
    simp [moveCursor, isNumber, isScalar, sum]

/-- One step of scheduling: the item has a frequency, a length and blocks, and the
rest is scheduled from the end of the item on. -/
theorem layItems_cons_eq_ok
    {item : CompositionItem R}
    {rest : List (CompositionItem R)}
    {cursor : R}
    {schedule : Schedule R} :
    (scheduler.layItems (item :: rest) cursor).outcome = .ok schedule ↔
      ∃ frequency blocks length remaining,
        scheduler.itemFrequency? item = .ok frequency ∧
        scheduler.layItem item cursor frequency = .ok blocks ∧
        itemLength item = .ok length ∧
        (scheduler.layItems rest (Scalar.add cursor length)).outcome =
          .ok remaining ∧
        schedule = remaining.prepend blocks := by
  constructor
  · intro ran
    simp only [layItems, Logged.outcome_bind_eq_ok] at ran
    obtain ⟨frequency, found, continued⟩ := ran
    -- An unknown pitch class only adds a notice.
    have laid : ∃ blocks, scheduler.layItem item cursor frequency = .ok blocks ∧
        ∃ moved, moveCursor cursor item.duration = .ok moved ∧
        ∃ remaining, (scheduler.layItems rest moved).outcome = .ok remaining ∧
          remaining.prepend blocks = schedule := by
      cases frequency <;> simpa using continued
    obtain ⟨blocks, laid, moved, reached, remaining, followed, rfl⟩ := laid
    obtain ⟨length, measured, rfl⟩ := moveCursor_eq_ok.mp reached
    exact ⟨frequency, blocks, length, remaining, found, laid, measured,
      followed, rfl⟩
  · rintro ⟨frequency, blocks, length, remaining, found, laid, measured,
      followed, rfl⟩
    have reached : moveCursor cursor item.duration =
        .ok (Scalar.add cursor length) :=
      moveCursor_eq_ok.mpr ⟨length, measured, rfl⟩
    simp only [layItems, Logged.outcome_bind_eq_ok]
    refine ⟨frequency, found, ?_⟩
    cases frequency <;> simp [laid, reached, followed]

/-! ## The flags of the ends -/

omit [Machine R] in
/-- Flagging the last item changes nothing else. -/
theorem flagLast_getElem?
    (items : List (CompositionItem R))
    (index : Nat) :
    (flagLast items)[index]? =
      items[index]?.map fun item =>
        { item with isLast := item.isLast || index + 1 == items.length } := by
  induction items generalizing index with
  | nil => rfl
  | cons item rest hypothesis =>
      cases rest with
      | nil => cases index <;> simp [flagLast]
      | cons next others =>
          cases index with
          | zero => simp [flagLast]
          | succ index => simpa [flagLast] using hypothesis index

omit [Machine R] in
/-- Flagging both ends changes nothing else. -/
theorem flagEnds_getElem?
    (items : List (CompositionItem R))
    (index : Nat) :
    (flagEnds items)[index]? =
      items[index]?.map fun item =>
        { item with
          isFirst := item.isFirst || index == 0
          isLast := item.isLast || index + 1 == items.length } := by
  have flagged := flagLast_getElem? items index
  unfold flagEnds
  cases ends : flagLast items with
  | nil =>
      rw [ends] at flagged
      cases found : items[index]? <;> simp_all
  | cons first rest =>
      rw [ends] at flagged
      cases index with
      | zero => cases found : items[0]? <;> simp_all
      | succ index => cases found : items[index + 1]? <;> simp_all

omit [Machine R] in
@[simp] theorem length_flagEnds (items : List (CompositionItem R)) :
    (flagEnds items).length = items.length := by
  have sameEnd (index : Nat) :
      (flagEnds items)[index]? = none ↔ items[index]? = none := by
    simp [flagEnds_getElem?]
  simp only [List.getElem?_eq_none_iff] at sameEnd
  exact Nat.le_antisymm ((sameEnd items.length).mpr (Nat.le_refl _))
    ((sameEnd (flagEnds items).length).mp (Nat.le_refl _))

omit [Machine R] in
/-- So the flagged items are the same ones but for their flags. -/
theorem forall₂_flagEnds (items : List (CompositionItem R)) :
    List.Forall₂ (fun own item => ∃ isFirst isLast, item = { own with isFirst, isLast })
      items (flagEnds items) := by
  refine List.forall₂_iff_get.2 ⟨(length_flagEnds items).symm, fun index inside within => ?_⟩
  have flagged := flagEnds_getElem? items index
  rw [List.getElem?_eq_getElem inside, List.getElem?_eq_getElem within] at flagged
  exact ⟨_, _, Option.some.inj flagged⟩

/-! ## Normalized items -/

/-- The item that a note is, if it can be followed to its end: its pitch class is
shown, and the records inside it are maps. -/
theorem normalizeItem_toValue
    (scheduler : Scheduler R)
    (note : Note R) :
    scheduler.normalizeItem note.toValue =
      if note.toValue.hasEnd then do
        let pitch ← shownText note.pitch.flatten
        let duration ← scheduler.beatsToMs note.duration.flatten
        let delay ← scheduler.beatsToMs (.int 0)
        .ok
          { pitch
            octave := note.octave.flatten
            offset := note.offset.flatten
            duration, delay
            kind := .text "note"
            isFirst := false
            isLast := false }
      else .error .tooDeep := by
  rw [normalizeItem, itemFields, Note.ofRecord?_toValue]
  by_cases ends : note.toValue.hasEnd
  · simp only [ends, if_true]
    rfl
  · simp only [ends]
    rfl

/-- A normalized composition has its items normalized one by one and its ends
flagged. -/
theorem normalize_eq_ok
    {composition : Value R}
    {items : List (CompositionItem R)} :
    scheduler.normalize composition = .ok items ↔
      ∃ literals plain,
        composition.toItems = .ok literals ∧
        literals.mapM scheduler.normalizeItem = .ok plain ∧
        flagEnds plain = items := by
  simp [normalize]

/-- A schedule lays out the items of a normalized composition from the start. -/
theorem schedule_eq_ok
    {composition : Value R}
    {schedule : Schedule R} :
    (scheduler.schedule composition).outcome = .ok schedule ↔
      ∃ items,
        scheduler.normalize composition = .ok items ∧
        (scheduler.layItems items Scalar.zero).outcome = .ok schedule := by
  simp [Scheduler.schedule, scheduleItems]

/-- An item has no flags of its own. -/
theorem unflagged_of_normalizeItem
    {literal : Value R}
    {item : CompositionItem R}
    (normalized : scheduler.normalizeItem literal = .ok item) :
    item.isFirst = false ∧ item.isLast = false := by
  simp only [normalizeItem, Attempt.bind_eq_ok, Except.ok.injEq] at normalized
  obtain ⟨_, _, _, _, _, _, _, _, rfl⟩ := normalized
  exact ⟨rfl, rfl⟩

/-- In a normalized composition the flags tell the first and the last item. -/
theorem flags_of_normalize
    {composition : Value R}
    {items : List (CompositionItem R)}
    (normalized : scheduler.normalize composition = .ok items)
    (index : Nat)
    (item : CompositionItem R)
    (found : items[index]? = some item) :
    item.isFirst = (index == 0) ∧
      item.isLast = (index + 1 == items.length) := by
  obtain ⟨literals, plain, _, made, rfl⟩ := normalize_eq_ok.mp normalized
  rw [flagEnds_getElem?] at found
  obtain ⟨own, present, rfl⟩ := Option.map_eq_some_iff.mp found
  obtain ⟨literal, _, normalizes⟩ :=
    Attempt.exists_of_mem_mapM made (List.mem_of_getElem? present)
  simp [unflagged_of_normalizeItem normalizes]

end Scheduler
end MelodyAutomation

import MelodyAutomation.Proofs.Schedule.Reference

/-!
# Schedules are causal

A composition is scheduled, and then again with more items after it. The blocks
that were there before stay as they are, with one exception: the item that was the
last one is not the last one any more, so that the curves on the gains are no longer
silenced at its end. This changes at most the value of the last segment of the last
block, and only where that block belongs to this item.

The proof is an induction over two flagged lists of items, one of which goes on
where the other one ends.
-/

namespace MelodyAutomation

variable {R : Type}

/-- Two blocks have the same segments, except for the value that the last ones
reach. -/
def Block.AgreeBeforeEnd (left right : Block R) : Prop :=
  ∃ (front : Block R) (last : Segment R) (value : Value R),
    left = front ++ [last] ∧ right = front ++ [{ last with value }]

/-- Some blocks are continued by others, except for the value that the last one of
them ends with. -/
def Block.ContinueBeforeEnd (blocks extended : List (Block R)) : Prop :=
  ∃ earlier block changed later,
    blocks = earlier ++ [block] ∧ extended = earlier ++ changed :: later ∧
      Block.AgreeBeforeEnd block changed

/-- What is in front of some blocks does not matter to their continuation. -/
theorem Block.ContinueBeforeEnd.append_left
    {blocks extended : List (Block R)}
    (continued : Block.ContinueBeforeEnd blocks extended)
    (front : List (Block R)) :
    Block.ContinueBeforeEnd (front ++ blocks) (front ++ extended) := by
  obtain ⟨earlier, block, changed, later, rfl, rfl, agree⟩ := continued
  exact ⟨front ++ earlier, block, changed, later, by simp, by simp, agree⟩

/-- More blocks may follow a continuation. -/
theorem Block.ContinueBeforeEnd.append_right
    {blocks extended : List (Block R)}
    (continued : Block.ContinueBeforeEnd blocks extended)
    (more : List (Block R)) :
    Block.ContinueBeforeEnd blocks (extended ++ more) := by
  obtain ⟨earlier, block, changed, later, rfl, rfl, agree⟩ := continued
  exact ⟨earlier, block, changed, later ++ more, rfl, by simp, agree⟩

variable [Machine R]

namespace Envelope

/-- The flag of the last point matters to no other point. -/
theorem segment_zeroLast_of_ne
    {window : Window R}
    {length index : Nat}
    (inner : index + 1 ≠ length)
    (zeroLast : Bool)
    (point : Point R) :
    segment { window with zeroLast } length index point =
      segment window length index point := by
  simp [segment, endValue, inner]

/-- A curve that is laid twice over the same window, with and without silence at its
end, gives blocks that agree before their ends. -/
theorem segmentsFrom_zeroLast
    {window : Window R}
    {zeroLast : Bool}
    {index : Nat}
    {points : List (Point R)}
    {block changed : Block R}
    (laid : segmentsFrom window (index + points.length) index points =
      .ok block)
    (relaid : segmentsFrom { window with zeroLast } (index + points.length)
      index points = .ok changed) :
    block = changed ∨ block.AgreeBeforeEnd changed := by
  -- The number of points stays `index + points.length` while the curve is walked, so
  -- that the flag is looked at for the last point alone.
  induction points generalizing index block changed with
  | nil =>
      simp only [segmentsFrom, Except.ok.injEq] at laid relaid
      exact .inl (laid.symm.trans relaid)
  | cons point rest hypothesis =>
      simp only [segmentsFrom, Attempt.bind_eq_ok, Except.ok.injEq]
        at laid relaid
      obtain ⟨first, made, others, followed, rfl⟩ := laid
      obtain ⟨again, remade, changedOthers, refollowed, rfl⟩ := relaid
      cases rest with
      | nil =>
          simp only [segmentsFrom, Except.ok.injEq] at followed refollowed
          subst followed refollowed
          obtain ⟨time, level, coordinates, started, ramped, -⟩ :=
            segment_eq_ok.mp made
          obtain ⟨_, _, recoordinates, restarted, reramped, -⟩ :=
            segment_eq_ok.mp remade
          obtain ⟨rfl, rfl⟩ : time = _ ∧ level = _ := by
            simpa [coordinates] using recoordinates
          obtain ⟨start, ramp, value⟩ := first
          obtain ⟨_, _, changedValue⟩ := again
          obtain rfl : ramp = _ := by simpa [ramped] using reramped
          obtain rfl : start = _ := started.trans restarted.symm
          exact .inr ⟨[], _, changedValue, rfl, rfl⟩
      | cons next later =>
          rw [segment_zeroLast_of_ne (by simp)] at remade
          obtain rfl : first = again := Except.ok.inj (made.symm.trans remade)
          have lengths : index + (point :: next :: later).length =
              index + 1 + (next :: later).length := by
            simp only [List.length_cons]
            omega
          rw [lengths] at followed refollowed
          rcases hypothesis followed refollowed with rfl | agree
          · exact .inl rfl
          · obtain ⟨front, last, value, rfl, rfl⟩ := agree
            exact .inr ⟨first :: front, last, value, rfl, rfl⟩

/-- The same for a whole envelope. -/
theorem reduce_zeroLast
    {envelope : Envelope R}
    {window : Window R}
    {zeroLast : Bool}
    {block changed : Block R}
    (laid : envelope.reduce window = .ok block)
    (relaid : envelope.reduce { window with zeroLast } = .ok changed) :
    block = changed ∨ block.AgreeBeforeEnd changed := by
  rw [reduce, length, ← Nat.zero_add envelope.points.length] at laid relaid
  exact segmentsFrom_zeroLast laid relaid

end Envelope

namespace Scheduler

variable {scheduler : Scheduler R}

/-! ## Flagged lists that go on -/

/-- A flagged list of items is the beginning of a longer one, in which the last of
them is not the last one any more. -/
inductive GoesOn : List (CompositionItem R) → List (CompositionItem R) → Prop
  | last (item : CompositionItem R) (later : List (CompositionItem R)) :
      GoesOn [{ item with isLast := true }]
        ({ item with isLast := false } :: later)
  | cons (item : CompositionItem R) {short long : List (CompositionItem R)}
      (others : GoesOn short long) : GoesOn (item :: short) (item :: long)

omit [Machine R] in
/-- Flagged at its last item, a list goes on as one with more items. -/
theorem GoesOn.flagLast
    {items later : List (CompositionItem R)}
    (nonempty : items ≠ [])
    (more : later ≠ [])
    (unflagged : ∀ item ∈ items, item.isLast = false) :
    GoesOn (flagLast items) (flagLast (items ++ later)) := by
  induction items with
  | nil => exact absurd rfl nonempty
  | cons item rest hypothesis =>
      obtain ⟨next, others, rfl⟩ := List.exists_cons_of_ne_nil more
      cases rest with
      | nil =>
          have goesOn := GoesOn.last item (Scheduler.flagLast (next :: others))
          rw [← unflagged item (by simp)] at goesOn
          exact goesOn
      | cons second rest =>
          exact .cons item (hypothesis (by simp) fun other member =>
            unflagged other (by simp [member]))

omit [Machine R] in
/-- Flagged at both ends, a list goes on as one with more items. -/
theorem GoesOn.flagEnds
    {items later : List (CompositionItem R)}
    (nonempty : items ≠ [])
    (more : later ≠ [])
    (unflagged : ∀ item ∈ items, item.isLast = false) :
    GoesOn (flagEnds items) (flagEnds (items ++ later)) := by
  have goesOn := GoesOn.flagLast nonempty more unflagged
  unfold Scheduler.flagEnds
  generalize Scheduler.flagLast items = short at goesOn
  generalize Scheduler.flagLast (items ++ later) = long at goesOn
  cases goesOn with
  | last item rest => exact .last { item with isFirst := true } rest
  | cons item others => exact .cons { item with isFirst := true } others

/-! ## Two runs -/

/-- The last of some items adds a block to a target: the target has an envelope, and
the item writes it. -/
def EndWrites (scheduler : Scheduler R) (items : List (CompositionItem R))
    (target : Target) : Prop :=
  (scheduler.envelopes.get target).isSome ∧
    ∃ item frequency,
      items.getLast? = some item ∧
      scheduler.itemFrequency? item = .ok frequency ∧
      (scheduler.scale? item frequency target).isSome

/-- What an item adds to a target when it is the last one, and when it is not. -/
theorem blocks_of_layItem_isLast
    {item : CompositionItem R}
    {cursor : R}
    {frequency : Option (Value R)}
    {blocks changed : PerTarget (List (Block R))}
    (laid : scheduler.layItem { item with isLast := true } cursor frequency =
      .ok blocks)
    (relaid : scheduler.layItem { item with isLast := false } cursor frequency =
      .ok changed)
    (target : Target) :
    blocks.get target = changed.get target ∨
      zeroes target ∧ (scheduler.envelopes.get target).isSome ∧
        (scheduler.scale? item frequency target).isSome ∧
        Block.ContinueBeforeEnd (blocks.get target) (changed.get target) := by
  have own := layItem_eq_ok.mp laid target
  have new := layItem_eq_ok.mp relaid target
  have sameScale : ∀ isLast, scheduler.scale? { item with isLast } frequency
      target = scheduler.scale? item frequency target := fun _ => rfl
  rw [sameScale] at own new
  cases scales : scheduler.scale? item frequency target with
  | none =>
      rw [scales] at own new
      exact .inl (own.trans new.symm)
  | some scale =>
      rw [scales] at own new
      simp only [lay_eq_ok] at own new
      cases present : scheduler.envelopes.get target with
      | none =>
          rw [present] at own new
          exact .inl (own.trans new.symm)
      | some envelope =>
          rw [present] at own new
          obtain ⟨block, reduced, single⟩ := own
          obtain ⟨again, rereduced, resingle⟩ := new
          rw [single, resingle]
          cases zeroed : zeroes target with
          | false =>
              -- The flag is not looked at.
              have sameWindow : window target { item with isLast := true }
                  cursor scale =
                    window target { item with isLast := false } cursor scale := by
                simp [window, zeroed]
              rw [sameWindow] at reduced
              exact .inl (by rw [Except.ok.inj (reduced.symm.trans rereduced)])
          | true =>
              rcases Envelope.reduce_zeroLast reduced rereduced with rfl | agree
              · exact .inl rfl
              · exact .inr ⟨rfl, rfl, rfl, [], block, again, [], rfl, rfl, agree⟩

/-- A run over items that go on leaves the blocks of the shorter run as they are,
except for the value that the last one ends with on a gain. -/
theorem blocks_of_goesOn
    {short long : List (CompositionItem R)}
    (goesOn : GoesOn short long)
    {cursor : R}
    {schedule extended : Schedule R}
    (ran : (scheduler.layItems short cursor).outcome = .ok schedule)
    (reran : (scheduler.layItems long cursor).outcome = .ok extended)
    (target : Target) :
    schedule.blocks.get target <+: extended.blocks.get target ∨
      zeroes target ∧ scheduler.EndWrites short target ∧
        Block.ContinueBeforeEnd (schedule.blocks.get target)
          (extended.blocks.get target) := by
  -- Up to the last item of the shorter list both runs are at the same cursor. There the
  -- shorter one ends, and only the flag tells the items apart.
  induction goesOn generalizing cursor schedule extended with
  | last item later =>
      obtain ⟨frequency, blocks, length, remaining, found, laid, measured,
        followed, rfl⟩ := layItems_cons_eq_ok.mp ran
      obtain ⟨_, changed, _, others, refound, relaid, _, _, rfl⟩ :=
        layItems_cons_eq_ok.mp reran
      obtain rfl : frequency = _ := Except.ok.inj (found.symm.trans refound)
      obtain rfl : Schedule.empty _ = remaining := Except.ok.inj followed
      simp only [Schedule.prepend, Schedule.empty, PerTarget.get_tabulate,
        List.append_nil]
      rcases blocks_of_layItem_isLast laid relaid target with
        same | ⟨gain, present, writes, continued⟩
      · exact .inl (same ▸ List.prefix_append _ _)
      · exact .inr ⟨gain, ⟨present, _, frequency, rfl, found, writes⟩,
          continued.append_right _⟩
  | @cons item short long goesOn hypothesis =>
      obtain ⟨frequency, blocks, length, remaining, found, laid, measured,
        followed, rfl⟩ := layItems_cons_eq_ok.mp ran
      obtain ⟨_, _, _, others, refound, relaid, remeasured, refollowed, rfl⟩ :=
        layItems_cons_eq_ok.mp reran
      obtain rfl : frequency = _ := Except.ok.inj (found.symm.trans refound)
      obtain rfl : blocks = _ := Except.ok.inj (laid.symm.trans relaid)
      obtain rfl : length = _ :=
        Except.ok.inj (measured.symm.trans remeasured)
      simp only [Schedule.prepend, PerTarget.get_tabulate]
      rcases hypothesis followed refollowed with kept | ⟨gain, writes, continued⟩
      · exact .inl ((List.prefix_append_right_inj _).mpr kept)
      · obtain ⟨present, last, pitch, atEnd, sounds, writes⟩ := writes
        exact .inr ⟨gain, ⟨present, last, pitch,
          by simp [List.getLast?_cons, atEnd], sounds, writes⟩,
          continued.append_left _⟩

/-- Appending items to a composition changes nothing that was scheduled before, on
the frequencies. On the gains it changes at most the value of the last segment of the
last block, and only if the last item of the composition added that block. -/
theorem appending_keeps_schedule
    {composition extension : Value R}
    {first later : List (Value R)}
    (listed : composition.toItems = .ok first)
    (relisted : extension.toItems = .ok (first ++ later))
    {schedule extended : Schedule R}
    (scheduled : (scheduler.schedule composition).outcome = .ok schedule)
    (rescheduled : (scheduler.schedule extension).outcome = .ok extended)
    (target : Target) :
    schedule.blocks.get target <+: extended.blocks.get target ∨
      (target = .oscillatorGain ∨ target = .noiseGain) ∧
        (∃ items, scheduler.normalize composition = .ok items ∧
          scheduler.EndWrites items target) ∧
        Block.ContinueBeforeEnd (schedule.blocks.get target)
          (extended.blocks.get target) := by
  simp only [Scheduler.schedule, scheduleItems, Logged.outcome_bind_eq_ok,
    Logged.outcome_liftM, Logged.pure_def, Except.ok.injEq]
    at scheduled rescheduled
  obtain ⟨items, normalized, laidOut, ran, _, _, rfl⟩ := scheduled
  obtain ⟨allItems, renormalized, relaidOut, reran, _, _, rfl⟩ := rescheduled
  obtain ⟨literals, plain, given, made, rfl⟩ := normalize_eq_ok.mp normalized
  obtain ⟨allLiterals, all, regiven, remade, rfl⟩ :=
    normalize_eq_ok.mp renormalized
  obtain rfl : first = literals := Except.ok.inj (listed.symm.trans given)
  obtain rfl : first ++ later = allLiterals :=
    Except.ok.inj (relisted.symm.trans regiven)
  simp only [List.mapM_append, Attempt.bind_eq_ok, Attempt.pure_eq_ok,
    Except.ok.injEq, made] at remade
  obtain ⟨_, rfl, more, -, rfl⟩ := remade
  -- Without items, and without more of them, no flag moves.
  by_cases nonempty : plain = []
  · subst nonempty
    obtain rfl : Schedule.empty _ = laidOut := Except.ok.inj ran
    exact .inl (by simp [Schedule.empty])
  by_cases noMore : more = []
  · subst noMore
    rw [List.append_nil] at reran
    obtain rfl : laidOut = relaidOut := Except.ok.inj (ran.symm.trans reran)
    exact .inl List.prefix_rfl
  have goesOn : GoesOn (flagEnds plain) (flagEnds (plain ++ more)) := by
    apply GoesOn.flagEnds nonempty noMore
    intro item member
    obtain ⟨literal, -, normalizes⟩ := Attempt.exists_of_mem_mapM made member
    exact (unflagged_of_normalizeItem normalizes).2
  rcases blocks_of_goesOn goesOn ran reran target with
    kept | ⟨gain, writes, continued⟩
  · exact .inl kept
  · refine .inr ⟨?_, ⟨_, normalized, writes⟩, continued⟩
    cases target <;> simp_all [zeroes]

/-- The first two items of the composition of rests: the A is the last one. -/
def restfulOpening : Value Float :=
  .list
    [.map [(.text "note", .text "0"), (.text "duration", .int 2)],
      .map [(.text "note", .text "A"), (.text "oct", .int 1)]]

theorem appending_keeps_schedule_of_restful_opening :
    ∃ first later schedule extended,
      restfulOpening.toItems = .ok first ∧
      restfulComposition.toItems = .ok (first ++ later) ∧
      (pluckedScheduler.schedule restfulOpening).outcome = .ok schedule ∧
      (pluckedScheduler.schedule restfulComposition).outcome = .ok extended ∧
      ∀ target,
        schedule.blocks.get target <+: extended.blocks.get target ∨
          (target = .oscillatorGain ∨ target = .noiseGain) ∧
            (∃ items, pluckedScheduler.normalize restfulOpening = .ok items ∧
              pluckedScheduler.EndWrites items target) ∧
            Block.ContinueBeforeEnd (schedule.blocks.get target)
              (extended.blocks.get target) := by
  have succeeds :
      (pluckedScheduler.schedule restfulOpening).outcome.isOk = true := by
    decide +kernel
  have succeedsAgain :
      (pluckedScheduler.schedule restfulComposition).outcome.isOk = true := by
    decide +kernel
  obtain ⟨schedule, scheduled⟩ := Attempt.exists_of_isOk succeeds
  obtain ⟨extended, rescheduled⟩ := Attempt.exists_of_isOk succeedsAgain
  exact ⟨_, _, schedule, extended, rfl, rfl, scheduled, rescheduled,
    appending_keeps_schedule rfl rfl scheduled rescheduled⟩

end Scheduler
end MelodyAutomation

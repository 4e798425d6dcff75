import MelodyAutomation.Instrument
import MelodyAutomation.Proofs.Melody.Transforms
import MelodyAutomation.Proofs.Schedule.Reference

/-!
# Octaves and transpositions

A melody can be moved by octaves in two ways: the scheduler can have another base
octave, or the melody can be transposed by twelve halfsteps for every octave. As long
as octaves and offsets are whole numbers, both lead to the same distance from the
reference pitch, because that is a sum of whole numbers; no frequency has been computed
before the two meet.

The main result is that the two ways have the same outcome and report the same.
-/

namespace MelodyAutomation

variable {R : Type}

namespace Value

/-- A whole number is not changed by turning records into maps. -/
theorem flatten_of_whole
    {value : Value R}
    {number : Int}
    (whole : value.wholeNumber? = some number) :
    value.flatten = value := by
  cases value <;> first | rfl | cases whole

/-- A whole number has an end. -/
theorem isWithin_of_whole
    {value : Value R}
    {number : Int}
    (whole : value.wholeNumber? = some number)
    (levels : Nat) :
    value.isWithin levels = true := by
  cases value <;> cases levels <;> first | rfl | cases whole

@[simp] theorem wholeNumber?_int (number : Int) :
    (int number : Value R).wholeNumber? = some number := rfl

variable [Machine R]

/-- The sum of two whole numbers is exact. -/
theorem add_of_whole
    {left right : Value R}
    {first second : Int}
    (leftWhole : left.wholeNumber? = some first)
    (rightWhole : right.wholeNumber? = some second) :
    left.add right = .ok (.int (first + second)) := by
  cases left <;> cases leftWhole <;> cases right <;> cases rightWhole <;> rfl

/-- The product of two whole numbers is exact. -/
theorem mul_of_whole
    {left right : Value R}
    {first second : Int}
    (leftWhole : left.wholeNumber? = some first)
    (rightWhole : right.wholeNumber? = some second) :
    left.mul right = .ok (.int (first * second)) := by
  cases left <;> cases leftWhole <;> cases right <;> cases rightWhole <;> rfl

end Value

variable [Machine R]

namespace Pitch

/-- With whole numbers, the distance from the reference pitch is exact. -/
theorem distance_of_whole
    {octave offset : Value R}
    {octaves halfsteps : Int}
    (octaveWhole : octave.wholeNumber? = some octaves)
    (offsetWhole : offset.wholeNumber? = some halfsteps)
    (index : Nat) :
    distance index octave offset =
      .ok (.int (index + halfsteps + octaves * halfstepsPerOctave)) := by
  rw [distance, Value.add_of_whole rfl offsetWhole,
    Value.mul_of_whole octaveWhole rfl]
  rfl

end Pitch

/-! ## Raised notes -/

/-- A whole number moved up by a number of halfsteps. -/
def Value.raised (halfsteps : Int) (value : Value R) : Value R :=
  .int (value.wholeNumber?.getD 0 + halfsteps)

namespace Note

/-- A note has a pitch that is counted in whole octaves and halfsteps. -/
def IsWhole (note : Note R) : Prop :=
  note.octave.wholeNumber?.isSome ∧ note.offset.wholeNumber?.isSome

/-- A note moved up by a number of halfsteps. -/
def raised (halfsteps : Int) (note : Note R) : Note R :=
  { note with offset := note.offset.raised halfsteps }

/-- A raised note has an end if the note has one. -/
theorem hasEnd_raised
    {note : Note R}
    (whole : note.IsWhole)
    (halfsteps : Int) :
    (note.raised halfsteps).toValue.hasEnd = note.toValue.hasEnd := by
  obtain ⟨offset, isWhole⟩ := Option.isSome_iff_exists.mp whole.2
  have same (levels : Nat) : (note.offset.raised halfsteps).isWithin levels =
      note.offset.isWithin levels := by
    rw [Value.isWithin_of_whole isWhole, Value.raised,
      Value.isWithin_of_whole (Value.wholeNumber?_int _)]
  obtain ⟨levels, deep⟩ :=
    Nat.exists_eq_succ_of_ne_zero (Nat.ne_of_gt (Machine.limits R).depth_pos)
  simp only [Value.hasEnd, deep, toValue, raised, Value.isWithin, List.all_cons, same]

/-- A whole note is transposed by a whole number of halfsteps. -/
theorem transpose_of_whole
    {note : Note R}
    (whole : note.IsWhole)
    (halfsteps : Int) :
    note.transpose (.int halfsteps) = .ok (note.raised halfsteps) := by
  obtain ⟨offset, isWhole⟩ := Option.isSome_iff_exists.mp whole.2
  simp [transpose, Value.add_of_whole isWhole (Value.wholeNumber?_int _),
    raised, Value.raised, isWhole]

end Note

namespace CompositionItem

/-- An item has a pitch that is counted in whole octaves and halfsteps. -/
def IsWhole (item : CompositionItem R) : Prop :=
  item.octave.wholeNumber?.isSome ∧ item.offset.wholeNumber?.isSome

/-- An item moved up by a number of halfsteps. -/
def raised (halfsteps : Int) (item : CompositionItem R) : CompositionItem R :=
  { item with offset := item.offset.raised halfsteps }

end CompositionItem

namespace Melody

/-- A melody of whole notes is transposed to the melody of the raised ones. -/
theorem transpose_eq
    {melody : Melody R}
    (whole : ∀ note ∈ melody.notes, note.IsWhole)
    (halfsteps : Int) :
    melody.transpose (.int halfsteps) =
      pure (melody.withNotes (melody.notes.map (Note.raised halfsteps))) := by
  have moved : (melody.notes.mapM fun note => note.transpose (.int halfsteps)) =
      .ok (melody.notes.map (Note.raised halfsteps)) := by
    rw [Attempt.mapM_eq_ok, List.forall₂_map_right_iff, List.forall₂_same]
    exact fun note member => Note.transpose_of_whole (whole note member) halfsteps
  rw [transpose, transform_of_number rfl]
  simp only [altered_edit, moved, Logged.liftM_ok, pure_bind]

end Melody

namespace Scheduler

/-! ## The same items, higher -/

/-- Raising a note raises the item that it is. -/
theorem normalizeItem_raised
    {note : Note R}
    (whole : note.IsWhole)
    (scheduler : Scheduler R)
    (halfsteps : Int) :
    scheduler.normalizeItem (note.raised halfsteps).toValue =
      (scheduler.normalizeItem note.toValue).map
        (CompositionItem.raised halfsteps) := by
  obtain ⟨offset, isWhole⟩ := Option.isSome_iff_exists.mp whole.2
  rw [normalizeItem_toValue, normalizeItem_toValue, Note.hasEnd_raised whole]
  by_cases ends : note.toValue.hasEnd
  · simp only [ends, if_true, Note.raised, Value.flatten_of_whole isWhole]
    cases shownText note.pitch.flatten with
    | error failure => rfl
    | ok pitch =>
        cases scheduler.beatsToMs note.duration.flatten with
        | error failure => rfl
        | ok duration => cases scheduler.beatsToMs (.int 0) <;> rfl
  · simp only [ends]
    rfl

omit [Machine R] in
/-- The flags of the ends are the same for raised items. -/
theorem flagEnds_map_raised
    (halfsteps : Int)
    (items : List (CompositionItem R)) :
    flagEnds (items.map (CompositionItem.raised halfsteps)) =
      (flagEnds items).map (CompositionItem.raised halfsteps) := by
  apply List.ext_getElem?
  intro index
  simp only [List.getElem?_map, flagEnds_getElem?, List.length_map,
    Option.map_map]
  rfl

/-! ## Higher octaves -/

/-- A scheduler whose base octave is another whole number. -/
def inOctave (scheduler : Scheduler R) (octave : Int) : Scheduler R :=
  { scheduler with baseOctave := .int octave }

/-- In a higher octave, an item has the frequency that it has when it is raised. -/
theorem itemFrequency?_inOctave
    {scheduler : Scheduler R}
    {base : Int}
    (baseWhole : scheduler.baseOctave.wholeNumber? = some base)
    {item : CompositionItem R}
    (octaveWhole : item.octave.wholeNumber?.isSome)
    (offsetWhole : item.offset.wholeNumber?.isSome)
    (octaves : Int) :
    (scheduler.inOctave (base + octaves)).itemFrequency? item =
      scheduler.itemFrequency?
        (item.raised (Pitch.halfstepsPerOctave * octaves)) := by
  obtain ⟨octave, isOctave⟩ := Option.isSome_iff_exists.mp octaveWhole
  obtain ⟨offset, isOffset⟩ := Option.isSome_iff_exists.mp offsetWhole
  simp only [itemFrequency?, inOctave, CompositionItem.raised,
    Value.add_of_whole isOctave baseWhole,
    Value.add_of_whole isOctave (Value.wholeNumber?_int _)]
  apply Pitch.frequency?_congr
  intro index
  rw [Pitch.distance_of_whole rfl isOffset, Pitch.distance_of_whole rfl rfl,
    isOffset]
  simp only [Pitch.halfstepsPerOctave, Option.getD_some, Except.ok.injEq,
    Value.int.injEq]
  omega

/-- In a higher octave, items are scheduled as they are when they are raised. -/
theorem layItems_inOctave
    {scheduler : Scheduler R}
    {base : Int}
    (baseWhole : scheduler.baseOctave.wholeNumber? = some base)
    (octaves : Int)
    {items : List (CompositionItem R)}
    (whole : ∀ item ∈ items, item.IsWhole)
    (cursor : R) :
    (scheduler.inOctave (base + octaves)).layItems items cursor =
      scheduler.layItems
        (items.map (.raised (Pitch.halfstepsPerOctave * octaves))) cursor := by
  induction items generalizing cursor with
  | nil => rfl
  | cons item rest hypothesis =>
      obtain ⟨octaveWhole, offsetWhole⟩ := whole item (by simp)
      have others := hypothesis fun other member => whole other (by simp [member])
      have frequency := itemFrequency?_inOctave baseWhole octaveWhole offsetWhole
        octaves
      -- Frequencies are the only place where an octave is looked at.
      simp only [List.map_cons, layItems, frequency, others]
      rfl

omit [Machine R] in
/-- Flagging the ends leaves whole items whole. -/
theorem isWhole_of_mem_flagEnds
    {items : List (CompositionItem R)}
    (whole : ∀ item ∈ items, item.IsWhole)
    {item : CompositionItem R}
    (member : item ∈ flagEnds items) :
    item.IsWhole := by
  obtain ⟨index, found⟩ := List.mem_iff_getElem?.mp member
  rw [flagEnds_getElem?] at found
  obtain ⟨own, present, rfl⟩ := Option.map_eq_some_iff.mp found
  exact whole own (List.mem_of_getElem? present)

/-- A whole note is a whole item. -/
theorem isWhole_of_normalizeItem
    {scheduler : Scheduler R}
    {note : Note R}
    (whole : note.IsWhole)
    {item : CompositionItem R}
    (normalized : scheduler.normalizeItem note.toValue = .ok item) :
    item.IsWhole := by
  obtain ⟨octave, isOctave⟩ := Option.isSome_iff_exists.mp whole.1
  obtain ⟨offset, isOffset⟩ := Option.isSome_iff_exists.mp whole.2
  rw [normalizeItem_toValue] at normalized
  split_ifs at normalized with ends
  simp only [Attempt.bind_eq_ok, Except.ok.injEq] at normalized
  obtain ⟨_, _, _, _, _, _, rfl⟩ := normalized
  simp [CompositionItem.IsWhole, Value.flatten_of_whole isOctave,
    Value.flatten_of_whole isOffset, isOctave, isOffset]

/-- The same items are normalized from a melody and from the raised one, except that
the latter are raised. -/
theorem mapM_normalizeItem_raised
    (scheduler : Scheduler R)
    {notes : List (Note R)}
    (whole : ∀ note ∈ notes, note.IsWhole)
    (halfsteps : Int) :
    (notes.map fun note => (note.raised halfsteps).toValue).mapM
        scheduler.normalizeItem =
      ((notes.map Note.toValue).mapM scheduler.normalizeItem).map
        (List.map (CompositionItem.raised halfsteps)) := by
  induction notes with
  | nil => rfl
  | cons note rest hypothesis =>
      have own := normalizeItem_raised (whole note (by simp)) scheduler halfsteps
      have others := hypothesis fun other member => whole other (by simp [member])
      simp only [List.map_cons, List.mapM_cons, own, others]
      cases scheduler.normalizeItem note.toValue with
      | error failure => rfl
      | ok item =>
          cases (rest.map Note.toValue).mapM scheduler.normalizeItem <;> rfl

/-- Raising a melody raises the items of the composition that it is. -/
theorem normalize_raised
    {scheduler : Scheduler R}
    {melody : Melody R}
    (whole : ∀ note ∈ melody.notes, note.IsWhole)
    (halfsteps : Int) :
    scheduler.normalize
        (melody.withNotes (melody.notes.map (.raised halfsteps))).composition =
      (scheduler.normalize melody.composition).map
        (List.map (.raised halfsteps)) := by
  have raised := mapM_normalizeItem_raised scheduler whole halfsteps
  simp only [normalize, Melody.composition, Melody.notes_withNotes,
    Value.toItems_list, Attempt.ok_bind, List.map_map, Function.comp_def] at raised ⊢
  rw [raised]
  cases (melody.notes.map Note.toValue).mapM scheduler.normalizeItem with
  | error failure => rfl
  | ok items => exact congrArg Except.ok (flagEnds_map_raised halfsteps items)

/-- In a higher octave, items make the schedule that they make when they are
raised. -/
theorem scheduleItems_inOctave
    {scheduler : Scheduler R}
    {base : Int}
    (baseWhole : scheduler.baseOctave.wholeNumber? = some base)
    (octaves : Int)
    {items : List (CompositionItem R)}
    (whole : ∀ item ∈ items, item.IsWhole) :
    (scheduler.inOctave (base + octaves)).scheduleItems items =
      scheduler.scheduleItems
        (items.map (.raised (Pitch.halfstepsPerOctave * octaves))) := by
  rw [scheduleItems, scheduleItems, layItems_inOctave baseWhole octaves whole,
    List.length_map]

/-- A scheduler that is some octaves higher makes of a melody what the scheduler
itself makes of the melody transposed by as many octaves: the same schedule or the
same refusal, and the same notices. -/
theorem schedule_inOctave
    {scheduler : Scheduler R}
    {base : Int}
    (baseWhole : scheduler.baseOctave.wholeNumber? = some base)
    (octaves : Int)
    {melody : Melody R}
    (whole : ∀ note ∈ melody.notes, note.IsWhole) :
    (scheduler.inOctave (base + octaves)).schedule melody.composition = (do
      let transposed ←
        melody.transpose (.int (Pitch.halfstepsPerOctave * octaves))
      scheduler.schedule transposed.composition) := by
  have sameItems : (scheduler.inOctave (base + octaves)).normalize =
      scheduler.normalize := rfl
  rw [Melody.transpose_eq whole, pure_bind, schedule, schedule, sameItems,
    normalize_raised whole]
  cases normalized : scheduler.normalize melody.composition with
  | error failure => rfl
  | ok items =>
      have wholeItems : ∀ item ∈ items, item.IsWhole := by
        intro item member
        obtain ⟨_, plain, listed, made, rfl⟩ := normalize_eq_ok.mp normalized
        obtain rfl := Except.ok.inj listed
        refine isWhole_of_mem_flagEnds (fun own present => ?_) member
        obtain ⟨literal, given, normalizes⟩ :=
          Attempt.exists_of_mem_mapM made present
        obtain ⟨note, inMelody, rfl⟩ := List.mem_map.mp given
        exact isWhole_of_normalizeItem (whole note inMelody) normalizes
      simp only [Except.map, Logged.liftM_ok, pure_bind]
      exact scheduleItems_inOctave baseWhole octaves wholeItems

/-- A rest, a C that is lowered by three halfsteps in an octave that is a truth value, and an
unknown pitch class. -/
def loweredMelody : Melody Float :=
  ⟨[⟨.text "0", .int 0, .int 0, .int 2⟩,
      ⟨.text "C", .int (-3), .bool true, .real 0.5⟩,
      ⟨.text "H", .int 1, .int 0, .real 1.5⟩], .bool true⟩

theorem schedule_inOctave_of_lowered_melody :
    pluckedScheduler.baseOctave.wholeNumber? = some (-1) ∧
      (∀ note ∈ loweredMelody.notes, note.IsWhole) ∧
      (∃ schedule, ((pluckedScheduler.inOctave (-1 + 2)).schedule
        loweredMelody.composition).outcome = .ok schedule) ∧
      (pluckedScheduler.inOctave (-1 + 2)).schedule loweredMelody.composition =
        (do
          let transposed ←
            loweredMelody.transpose (.int (Pitch.halfstepsPerOctave * 2))
          pluckedScheduler.schedule transposed.composition) := by
  have whole : ∀ note ∈ loweredMelody.notes, note.IsWhole := by
    simp [loweredMelody, Note.IsWhole, Value.wholeNumber?]
  have succeeds : ((pluckedScheduler.inOctave (-1 + 2)).schedule
      loweredMelody.composition).outcome.isOk = true := by
    decide +kernel
  exact ⟨rfl, whole, Attempt.exists_of_isOk succeeds, schedule_inOctave rfl 2 whole⟩

end Scheduler
end MelodyAutomation

import MelodyAutomation.Proofs.Melody.Copies
import MelodyAutomation.Proofs.Melody.Transforms
import MelodyAutomation.Proofs.Value.Keys
import MelodyAutomation.Proofs.Value.Obstacles

/-!
# Arpeggios

To arpeggiate a melody is to loop it once per offset, fitted into its time, and to
transpose what was looped. The offsets are a shape for the looped notes, and of these
there are as many as offsets only if the melody has a single note, or if there are no
offsets at all. In every other case the shape is misused: a lenient melody is looped
and gives a warning, and a strict one refuses.

Numbers can only get in the way by being out of range.
-/

namespace MelodyAutomation

variable {R : Type} [Machine R]

/-- A failure is about what there is no room for: a number out of range, or more copies
than can be held. -/
def Failure.IsExcess (failure : Failure R) : Prop :=
  failure = .overflow ∨ failure = .outOfMemory

namespace Note

theorem transpose_eq_ok {note moved : Note R} {shift : Value R} :
    note.transpose shift = .ok moved ↔
      ∃ sum, note.offset.add shift = .ok sum ∧ moved = { note with offset := sum } := by
  simp only [transpose, Attempt.bind_eq_ok, Except.ok.injEq]
  exact exists_congr fun sum => and_congr_right fun _ => eq_comm

/-- A share of a note has its offset. -/
theorem IsShare.offset_eq
    {count : Nat}
    {note share : Note R}
    (isShare : note.IsShare count share) :
    share.offset = note.offset := by
  obtain ⟨_, _, _, same⟩ := isShare
  rw [same]

end Note

namespace Melody

/-! ## Looping -/

/-- A melody is looped to fit: the places of its notes recur, and at each of them there
is the share of the note that falls to one of the copies. -/
structure IsLooped (melody looped : Melody R) (times : Nat) : Prop where
  strict : looped.strict = melody.strict
  length : looped.length = times * melody.length
  placed : ∀ place < times * melody.length, ∃ note share,
    melody.notes[place % melody.length]? = some note ∧
      note.IsShare times share ∧
      looped.notes[place]? = some share

/-- A melody that is repeated as a whole is looped to fit. -/
theorem isLooped_of_repeatBy
    {melody looped : Melody R}
    {times : Nat}
    (repeated : melody.repeatBy (.int times) (.bool true) = pure looped) :
    melody.IsLooped looped times := by
  obtain ⟨notes, copied, rfl⟩ :=
    (repeatBy_eq_pure (RepeatShape.ofValue_natCast times _)).1 repeated
  have related := (repeatWhole_eq_ok.1 copied).2
  refine ⟨rfl, ?_, fun place within => ?_⟩
  · rw [length, notes_withNotes, ← related.length_eq]
    simp [length]
  · have inside : place % melody.length < melody.notes.length :=
      Nat.mod_lt _ (Nat.pos_of_ne_zero fun none => by simp [none] at within)
    have found := List.getElem?_eq_getElem inside
    obtain ⟨share, ofShare, isShare⟩ :=
      exists_related related ((copies_getElem? melody.notes within).trans found)
    exact ⟨_, share, found, isShare, ofShare⟩

/-- Every looped note is the share of a note of the melody. -/
theorem IsLooped.exists_note
    {melody looped : Melody R}
    {times : Nat}
    (isLooped : melody.IsLooped looped times)
    {share : Note R}
    (member : share ∈ looped.notes) :
    ∃ note ∈ melody.notes, note.IsShare times share := by
  obtain ⟨place, inside, rfl⟩ := List.mem_iff_getElem.1 member
  obtain ⟨note, share, ofNote, isShare, ofShare⟩ :=
    isLooped.placed place (isLooped.length ▸ inside)
  rw [List.getElem?_eq_getElem inside, Option.some.injEq] at ofShare
  exact ⟨note, List.mem_of_getElem? ofNote, ofShare ▸ isShare⟩

/-- A melody can be looped to fit if there is room for the copies and its durations are
in range. -/
theorem exists_looped
    (hasShares : HasShares R)
    {melody : Melody R}
    {times : Nat} :
    (∃ looped, melody.repeatBy (.int times) (.bool true) = pure looped) ↔
      HasRoom R melody.length times ∧
        (0 < times → ∀ note ∈ melody.notes, note.IsMeasured) := by
  rw [exists_repeatBy_eq_pure (RepeatShape.ofValue_natCast times _),
    exists_repeatNotes_count hasShares]
  simp [IsMeasuredFor, Value.isTruthy]

/-! ## Transposing -/

/-- A shape that fits is applied without a notice. -/
theorem transform_eq_pure
    {melody made : Melody R}
    {shape : Value R}
    {function : Note R → Value R → Attempt R (Value R)}
    {label : String}
    {decoded : TransformShape R}
    (decodes : TransformShape.ofValue shape melody.length label = .ok decoded) :
    melody.transform shape function label = pure made ↔
      (melody.transform shape function label).outcome = .ok made := by
  constructor
  · intro transformed
    rw [transformed]
    rfl
  · intro outcome
    refine Logged.ext outcome ?_
    rw [transform, decodes]
    dsimp only
    cases transformNotes function melody.notes (shapeValues melody.length decoded) <;>
      rfl

/-- Offsets for as many notes move the notes one by one. -/
theorem transpose_eq_pure
    {melody made : Melody R}
    {offsets : List (Value R)}
    (fits : offsets.length = melody.length) :
    melody.transpose (.list offsets) = pure made ↔
      ∃ notes, List.Forall₂ (fun entry note => entry.1.transpose entry.2 = .ok note)
          (melody.notes.zip offsets) notes ∧
        made = melody.withNotes notes := by
  have decodes := TransformShape.ofValue_list offsets "transpose"
  rw [fits] at decodes
  rw [transpose, transform_eq_pure decodes, outcome_edit_of_decoded decodes]
  rfl

/-- Offsets for another number of notes are misused. -/
theorem transpose_eq_reject
    {melody : Melody R}
    {offsets : List (Value R)}
    (unfit : offsets.length ≠ melody.length) :
    melody.transpose (.list offsets) =
      melody.reject
        (.transformLength "transpose" offsets.length (.int melody.length)) := by
  have rejects : TransformShape.ofValue (.list offsets) melody.length "transpose" =
      .error (.transformLength "transpose" offsets.length (.int melody.length)) := by
    change TransformShape.fit melody.length "transpose" (.perElement offsets) = _
    rw [TransformShape.fit, if_neg unfit]
  rw [transpose, transform, rejects]

/-- The offsets and durations of all notes are numbers. -/
def IsNumeric (melody : Melody R) : Prop :=
  ∀ note ∈ melody.notes, note.offset.number?.isSome ∧ note.duration.number?.isSome

/-- If numbers do not move notes whose offsets are numbers, one of them is out of
range. -/
theorem refused_of_unmoved
    {melody : Melody R}
    (own : ∀ note ∈ melody.notes, note.offset.number?.isSome)
    {offsets : List (Value R)}
    (numbers : ∀ offset ∈ offsets, offset.number?.isSome)
    (fits : offsets.length = melody.length)
    (unmoved : ¬ ∃ made, melody.transpose (.list offsets) = pure made) :
    ∃ failure, (melody.transpose (.list offsets)).outcome = .error failure ∧
      failure.IsExcess := by
  have decodes := TransformShape.ofValue_list offsets "transpose"
  rw [fits] at decodes
  have excess : (melody.transpose (.list offsets)).outcome.RefusedFor
      Failure.IsExcess := by
    rw [transpose, transform, decodes]
    simp only [shapeValues, transformNotes_eq_mapM, altered_edit]
    refine Logged.yields_bind (Attempt.refusedFor_mapM fun entry member => ?_)
      fun _ _ => trivial
    obtain ⟨ofNote, ofOffset⟩ := List.of_mem_zip member
    have added : (entry.1.offset.add entry.2).RefusedFor Failure.IsExcess :=
      Value.refusedFor_add_of_number (.inl rfl) (own _ ofNote) (numbers _ ofOffset)
    exact added.bind fun _ _ => trivial
  cases outcome : (melody.transpose (.list offsets)).outcome with
  | ok made => exact absurd ⟨made, (transform_eq_pure decodes).2 outcome⟩ unmoved
  | error failure =>
      rw [outcome] at excess
      exact ⟨failure, rfl, excess⟩

/-! ## Arpeggiating -/

/-- Nothing gets too large in an arpeggio: there is room for the looped notes, and the
numbers that are computed are in range. Offsets are added only if they fit. -/
structure CanArpeggiate (melody : Melody R) (offsets : List (Value R)) : Prop where
  room : HasRoom R melody.length offsets.length
  durations : 0 < offsets.length → ∀ note ∈ melody.notes, note.IsMeasured
  sums : offsets.length * melody.length = offsets.length →
    ∀ note ∈ melody.notes, ∀ offset ∈ offsets, ∃ sum, note.offset.add offset = .ok sum

/-- A melody is looped to fit and then moved, each note by the offset in its place. -/
structure IsSpread (melody made : Melody R) (offsets : List (Value R)) : Prop where
  strict : made.strict = melody.strict
  length : made.length = offsets.length * melody.length
  placed : ∀ place offset, offsets[place]? = some offset → ∃ note share copy,
    melody.notes[place % melody.length]? = some note ∧
      note.IsShare offsets.length share ∧
      share.transpose offset = .ok copy ∧
      made.notes[place]? = some copy

/-- The misuse of offsets that do not fit the notes of a loop. -/
def unfitOffsets (melody : Melody R) (offsets : List (Value R)) : Misuse R :=
  .transformLength "transpose" offsets.length
    (.int (offsets.length * melody.length : Nat))

/-- Where there is room for the looped notes, their number can be shown. -/
theorem obstacle?_unfitOffsets
    {melody : Melody R}
    {offsets : List (Value R)}
    (room : HasRoom R melody.length offsets.length) :
    (melody.unfitOffsets offsets).obstacle? = none := by
  have few : ((offsets.length * melody.length : Nat) : Int) ≤ sizeLimit :=
    Int.le_trans (by exact_mod_cast Nat.mul_comm _ _ ▸ room.2)
      (Machine.limits R).room_le_sizeLimit
  exact Value.obstacle?_of_le_sizeLimit few

/-- What becomes of a melody that is arpeggiated through some offsets. -/
structure Arpeggiates (melody : Melody R) (offsets : List (Value R))
    (arpeggio : Logged R (Melody R)) : Prop where
  /-- What gets too large is refused for that. -/
  refused : ¬ melody.CanArpeggiate offsets →
    ∃ failure, arpeggio.outcome = .error failure ∧ failure.IsExcess
  /-- Offsets that fit take effect, and nothing is reported. -/
  spread : melody.CanArpeggiate offsets →
    offsets.length * melody.length = offsets.length →
    ∃ made, arpeggio = pure made ∧ melody.IsSpread made offsets
  /-- Otherwise a lenient melody is only looped and gives one warning. -/
  tolerated : melody.CanArpeggiate offsets →
    offsets.length * melody.length ≠ offsets.length → melody.isStrict = false →
    ∃ looped, arpeggio =
        ⟨.ok looped, [.misused (melody.unfitOffsets offsets)]⟩ ∧
      melody.IsLooped looped offsets.length
  /-- A strict melody refuses. -/
  declined : melody.CanArpeggiate offsets →
    offsets.length * melody.length ≠ offsets.length → melody.isStrict = true →
    arpeggio = .refuse (.misuse (melody.unfitOffsets offsets))

/-- Once a melody is looped, its arpeggio is a matter of transposing. -/
theorem arpeggioOf_of_looped
    {melody looped : Melody R}
    {offsets : List (Value R)}
    (repeated : melody.repeatBy (.int offsets.length) (.bool true) = pure looped) :
    melody.arpeggioOf offsets = looped.transpose (.list offsets) := by
  rw [arpeggioOf, repeated, pure_bind]

/-- A melody of numbers that cannot be looped is refused because something gets too
large. -/
theorem refused_of_unlooped
    {melody : Melody R}
    (numeric : melody.IsNumeric)
    {offsets : List (Value R)}
    (unlooped : ¬ ∃ looped,
      melody.repeatBy (.int offsets.length) (.bool true) = pure looped) :
    ∃ failure, (melody.arpeggioOf offsets).outcome = .error failure ∧
      failure.IsExcess := by
  have decodes : RepeatShape.ofValue (.int offsets.length : Value R) melody.length =
      .ok (.count offsets.length) :=
    RepeatShape.ofValue_natCast _ _
  have excess : (repeatNotes melody.notes (.bool true)
      (.count offsets.length)).RefusedFor Failure.IsExcess :=
    refusedFor_repeatWhole (.inl rfl) (.inr rfl)
      (fun note member => Value.refusedFor_toNumber_of_number (numeric note member).2)
      offsets.length true
  rw [exists_repeatBy_eq_pure decodes] at unlooped
  cases repeated : repeatNotes melody.notes (.bool true) (.count offsets.length) with
  | ok notes => exact absurd ⟨notes, repeated⟩ unlooped
  | error failure =>
      rw [repeated] at excess
      refine ⟨failure, ?_, excess⟩
      rw [arpeggioOf, repeatBy_of_decoded decodes, repeated]
      rfl

/-- If the offsets for a looped melody can be added to its notes, nothing gets too
large. -/
theorem canArpeggiate_of_transposed
    (hasShares : HasShares R)
    {melody looped : Melody R}
    {offsets : List (Value R)}
    (repeated : melody.repeatBy (.int offsets.length) (.bool true) = pure looped)
    (transposed : offsets.length = looped.length →
      ∃ made, looped.transpose (.list offsets) = pure made) :
    melody.CanArpeggiate offsets := by
  obtain ⟨room, durations⟩ := (exists_looped hasShares).1 ⟨looped, repeated⟩
  have isLooped := isLooped_of_repeatBy repeated
  refine ⟨room, durations, fun fits note ofNote offset ofOffset => ?_⟩
  have asMany : offsets.length = looped.length := (isLooped.length.trans fits).symm
  obtain ⟨made, moved⟩ := transposed asMany
  obtain ⟨notes, related, -⟩ := (transpose_eq_pure asMany).1 moved
  obtain ⟨place, found⟩ := List.mem_iff_getElem?.1 ofOffset
  obtain ⟨inside, -⟩ := List.getElem?_eq_some_iff.1 found
  -- There is an offset, so there is no other note.
  have single : melody.length = 1 :=
    Nat.eq_of_mul_eq_mul_left (Nat.zero_lt_of_lt inside)
      (fits.trans (Nat.mul_one _).symm)
  obtain ⟨only, share, ofOnly, isShare, ofShare⟩ :=
    isLooped.placed place (by rwa [fits])
  have same : note = only := by
    obtain ⟨own, alone⟩ := List.length_eq_one_iff.1 single
    have ofBoth := List.mem_of_getElem? ofOnly
    rw [alone, List.mem_singleton] at ofNote ofBoth
    rw [ofNote, ofBoth]
  have paired : (looped.notes.zip offsets)[place]? = some (share, offset) :=
    List.getElem?_zip_eq_some.2 ⟨ofShare, found⟩
  obtain ⟨copy, -, shifted⟩ := exists_related related paired
  obtain ⟨sum, added, -⟩ := Note.transpose_eq_ok.1 shifted
  exact ⟨sum, by rw [same, ← isShare.offset_eq, added]⟩

/-- If nothing gets too large, the offsets that fit a looped melody move its notes. -/
theorem CanArpeggiate.exists_spread
    {melody looped : Melody R}
    {offsets : List (Value R)}
    (can : melody.CanArpeggiate offsets)
    (fits : offsets.length * melody.length = offsets.length)
    (isLooped : melody.IsLooped looped offsets.length) :
    ∃ made, looped.transpose (.list offsets) = pure made ∧
      melody.IsSpread made offsets := by
  have asMany : offsets.length = looped.length := (isLooped.length.trans fits).symm
  have moves : ∀ entry ∈ looped.notes.zip offsets,
      ∃ copy, entry.1.transpose entry.2 = .ok copy := by
    intro entry member
    obtain ⟨ofShare, ofOffset⟩ := List.of_mem_zip member
    obtain ⟨note, ofNote, isShare⟩ := isLooped.exists_note ofShare
    obtain ⟨sum, added⟩ := can.sums fits note ofNote entry.2 ofOffset
    rw [← isShare.offset_eq] at added
    exact ⟨_, Note.transpose_eq_ok.2 ⟨sum, added, rfl⟩⟩
  obtain ⟨notes, moved⟩ := Attempt.exists_mapM.2 moves
  have related := Attempt.mapM_eq_ok.1 moved
  refine ⟨looped.withNotes notes, (transpose_eq_pure asMany).2 ⟨notes, related, rfl⟩,
    isLooped.strict, ?_, ?_⟩
  · have long : notes.length = looped.length := by
      rw [← related.length_eq, List.length_zip, asMany, length, Nat.min_self]
    exact long.trans isLooped.length
  · intro place offset found
    obtain ⟨inside, -⟩ := List.getElem?_eq_some_iff.1 found
    obtain ⟨note, share, ofNote, isShare, ofShare⟩ :=
      isLooped.placed place (by rwa [fits])
    have paired : (looped.notes.zip offsets)[place]? = some (share, offset) :=
      List.getElem?_zip_eq_some.2 ⟨ofShare, found⟩
    obtain ⟨copy, ofCopy, shifted⟩ := exists_related related paired
    exact ⟨note, share, copy, ofNote, isShare, shifted, ofCopy⟩

/-- A melody of numbers is arpeggiated through numbers. -/
theorem arpeggiates_arpeggioOf
    (hasShares : HasShares R)
    {melody : Melody R}
    (numeric : melody.IsNumeric)
    {offsets : List (Value R)}
    (numbers : ∀ offset ∈ offsets, offset.number?.isSome) :
    melody.Arpeggiates offsets (melody.arpeggioOf offsets) := by
  have unfit {looped : Melody R} (isLooped : melody.IsLooped looped offsets.length)
      (misfit : offsets.length * melody.length ≠ offsets.length) :
      looped.transpose (.list offsets) =
        looped.reject (melody.unfitOffsets offsets) := by
    rw [transpose_eq_reject (isLooped.length ▸ misfit.symm), isLooped.length]
    rfl
  have loops (can : melody.CanArpeggiate offsets) : ∃ looped,
      melody.arpeggioOf offsets = looped.transpose (.list offsets) ∧
        melody.IsLooped looped offsets.length := by
    obtain ⟨looped, repeated⟩ := (exists_looped hasShares).2 ⟨can.room, can.durations⟩
    exact ⟨looped, arpeggioOf_of_looped repeated, isLooped_of_repeatBy repeated⟩
  refine ⟨fun cannot => ?_, fun can fits => ?_, fun can misfit lenient => ?_,
    fun can misfit strict => ?_⟩
  · by_cases looping : ∃ looped,
        melody.repeatBy (.int offsets.length) (.bool true) = pure looped
    · obtain ⟨looped, repeated⟩ := looping
      have isLooped := isLooped_of_repeatBy repeated
      obtain ⟨asMany, unmoved⟩ : offsets.length = looped.length ∧
          ¬ ∃ made, looped.transpose (.list offsets) = pure made :=
        Classical.not_imp.1 fun moved =>
          cannot (canArpeggiate_of_transposed hasShares repeated moved)
      rw [arpeggioOf_of_looped repeated]
      refine refused_of_unmoved (fun share member => ?_) numbers asMany unmoved
      obtain ⟨note, ofNote, isShare⟩ := isLooped.exists_note member
      exact isShare.offset_eq ▸ (numeric note ofNote).1
    · exact refused_of_unlooped numeric looping
  · obtain ⟨looped, arpeggiated, isLooped⟩ := loops can
    rw [arpeggiated]
    exact can.exists_spread fits isLooped
  · obtain ⟨looped, arpeggiated, isLooped⟩ := loops can
    refine ⟨looped, ?_, isLooped⟩
    rw [arpeggiated, unfit isLooped misfit, reject, isStrict, isLooped.strict, ← isStrict,
      lenient, Misuse.isShown, obstacle?_unfitOffsets can.room]
    rfl
  · obtain ⟨looped, arpeggiated, isLooped⟩ := loops can
    rw [arpeggiated, unfit isLooped misfit, reject, isStrict, isLooped.strict, ← isStrict,
      strict]
    rfl

/-! ## The law of arpeggios -/

omit [Machine R] in
/-- There are as many looped notes as offsets if there is a single note or there are no
offsets. -/
theorem offsets_fit_iff (melody : Melody R) (count : Nat) :
    count * melody.length = count ↔ melody.length = 1 ∨ count = 0 :=
  mul_right_eq_self₀

/-- The misuse names the number of offsets and that of the looped notes. -/
theorem message_unfitOffsets (melody : Melody R) (offsets : List (Value R)) :
    (melody.unfitOffsets offsets).message =
      "transpose: invalid shape length, " ++ toString offsets.length ++
        " instead of " ++ toString (offsets.length * melody.length) := by
  have label : "transpose" ++ ": invalid shape length, " =
      "transpose: invalid shape length, " := by decide
  have whole (number : Nat) :
      (Value.int number : Value R).display = toString number := by
    rw [Value.display, Value.written, Value.writtenInside]
    · rfl
    all_goals nofun
  unfold unfitOffsets Misuse.message lengthComplaint
  simp only [label, whole]

/-- A chord of a known tuning is an arpeggio. -/
theorem chord_of_mem_tunings
    {name : String}
    {offsets : List Int}
    (known : (name, offsets) ∈ tunings)
    (melody : Melody R) :
    melody.chord (.text name) = melody.arpeggioThrough offsets := by
  have found : tuning? (.text name : Value R) = some offsets :=
    lookup_of_mem (by decide) known
  rw [chord, if_pos (Value.isHashable_text name), found]

section

variable [Limits]

/-- What arpeggios are like, whether their offsets are given or tabulated. -/
structure ArpeggioLaws (melody : Melody Float) : Prop where
  /-- A melody is arpeggiated through the numbers of any sequence. -/
  offsets : ∀ (literal : Value Float) (offsets : List (Value Float)),
    literal.toItems = .ok offsets →
    (∀ offset ∈ offsets, offset.number?.isSome) →
    melody.Arpeggiates offsets (melody.arpeggio literal)
  /-- A chord is an arpeggio through the offsets of a tuning. -/
  tunings : ∀ entry ∈ tunings,
    melody.Arpeggiates (entry.2.map .int) (melody.chord (.text entry.1))
  blueMonday :
    melody.Arpeggiates (blueMondayOffsets.map .int) melody.blueMondayBass
  funky : melody.Arpeggiates (funkyOffsets.map .int) melody.funkyBass
  /-- Offsets fit a single note, or they are none. -/
  fits : ∀ count : Nat, count * melody.length = count ↔ melody.length = 1 ∨ count = 0
  /-- Offsets that do not fit are the misuse of a shape, and what is told of them are
  the two numbers that should be the same. Where there is room for the looped notes,
  these numbers can be shown. -/
  told : ∀ offsets : List (Value Float),
    (melody.unfitOffsets offsets).isShape = true ∧
      (HasRoom Float melody.length offsets.length →
        (Failure.misuse (melody.unfitOffsets offsets)).told =
          .misuse (melody.unfitOffsets offsets)) ∧
      (melody.unfitOffsets offsets).message =
        "transpose: invalid shape length, " ++ toString offsets.length ++
          " instead of " ++ toString (offsets.length * melody.length)

/-- A melody of numbers is arpeggiated by looping it once per offset, and the offsets
take effect exactly if they fit the looped notes. -/
theorem arpeggio_laws {melody : Melody Float} (numeric : melody.IsNumeric) :
    melody.ArpeggioLaws := by
  have through (offsets : List Int) :
      melody.Arpeggiates (offsets.map .int) (melody.arpeggioThrough offsets) := by
    refine arpeggiates_arpeggioOf hasShares_double numeric fun offset member => ?_
    obtain ⟨number, -, rfl⟩ := List.mem_map.1 member
    rfl
  refine ⟨fun literal offsets sequence numbers => ?_, fun entry known => ?_, through _,
    through _, melody.offsets_fit_iff, fun offsets => ⟨rfl, fun room => ?_, ?_⟩⟩
  · have arpeggiated : melody.arpeggio literal = melody.arpeggioOf offsets := by
      rw [arpeggio, sequence, Logged.liftM_ok, pure_bind]
    rw [arpeggiated]
    exact arpeggiates_arpeggioOf hasShares_double numeric numbers
  · rw [chord_of_mem_tunings known]
    exact through entry.2
  · exact Failure.told_of_no_obstacle (obstacle?_unfitOffsets room)
  · exact melody.message_unfitOffsets offsets

end

/-- A single note. -/
def tone : Melody Float :=
  ⟨[⟨.text "A", .int 3, .int 0, .int 2⟩], .bool true⟩

/-- Two notes of durations of both kinds. -/
def interval : Melody Float :=
  ⟨[⟨.text "A", .real 0.5, .int 0, .int 2⟩, ⟨.text "E", .int 0, .int 4, .real 1.5⟩],
    .bool false⟩

/-- Offsets of both kinds take effect on a single note, while two notes are only
looped by a chord. -/
theorem arpeggio_laws_of_tone_and_interval :
    (tone.IsNumeric ∧ tone.CanArpeggiate [.int 7, .real 0.5] ∧
      ∃ made, tone.arpeggio (.list [.int 7, .real 0.5]) = pure made ∧
        tone.IsSpread made [.int 7, .real 0.5]) ∧
      interval.IsNumeric ∧
      interval.CanArpeggiate ([0, 7, 12, 15, 19, 24].map .int) ∧
      ∃ looped,
        interval.chord (.text "min") =
          ⟨.ok looped,
            [.misused (interval.unfitOffsets ([0, 7, 12, 15, 19, 24].map .int))]⟩ ∧
        interval.IsLooped looped 6 := by
  have measured : ∃ scalar, (Value.int 2 : Value Float).CountsAs scalar := by
    obtain ⟨scalar, converted⟩ : ∃ scalar : Float,
        (Number.whole 2).toScalar = .ok scalar :=
      Attempt.exists_of_isOk (by decide +kernel)
    exact ⟨scalar, .whole 2, rfl, converted⟩
  have single : tone.IsNumeric := List.forall_mem_singleton.2 ⟨rfl, rfl⟩
  have double : interval.IsNumeric :=
    List.forall_mem_cons.2 ⟨⟨rfl, rfl⟩, List.forall_mem_singleton.2 ⟨rfl, rfl⟩⟩
  have sums : ∀ offset ∈ [(.int 7 : Value Float), .real 0.5],
      ∃ sum, (Value.int 3).add offset = .ok sum :=
    List.forall_mem_cons.2 ⟨⟨_, rfl⟩, List.forall_mem_singleton.2
      (Attempt.exists_of_isOk (by decide +kernel))⟩
  have canSpread : tone.CanArpeggiate [.int 7, .real 0.5] :=
    ⟨by decide, fun _ => List.forall_mem_singleton.2 measured,
      fun _ => List.forall_mem_singleton.2 sums⟩
  have canLoop : interval.CanArpeggiate ([0, 7, 12, 15, 19, 24].map .int) :=
    ⟨by decide, fun _ => List.forall_mem_cons.2 ⟨measured, List.forall_mem_singleton.2
      ⟨_, Value.countsAs_real.2 rfl⟩⟩, nofun⟩
  have numbers : ∀ offset ∈ [(.int 7 : Value Float), .real 0.5],
      offset.number?.isSome :=
    List.forall_mem_cons.2 ⟨rfl, List.forall_mem_singleton.2 rfl⟩
  exact ⟨⟨single, canSpread,
      ((arpeggio_laws single).offsets _ _ rfl numbers).spread canSpread rfl⟩,
    double, canLoop,
    ((arpeggio_laws double).tunings ("min", [0, 7, 12, 15, 19, 24])
      (by decide)).tolerated canLoop (by decide) rfl⟩

end Melody
end MelodyAutomation

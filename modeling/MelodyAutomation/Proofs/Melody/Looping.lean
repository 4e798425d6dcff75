import MelodyAutomation.Proofs.Melody.Uniform

/-!
# Looping and editing

A looped melody is a row of copies of it, so a loop of a loop is a loop as well, and
what is done note by note can be done before the copies are made or after it.

Transposing and stretching do not get into each other's way either, because they change
different fields of the notes. A shape that does not fit a melody is rejected before and
after the other operation, as that one keeps the number of notes and the strictness.
-/

namespace MelodyAutomation

variable {R : Type} [Machine R]

/-- A note can be transposed before it is stretched or after it. -/
theorem Note.exists_both
    {note moved stretched : Note R}
    {shift factor : Value R}
    (ofShift : note.transpose shift = .ok moved)
    (ofFactor : note.stretch factor = .ok stretched) :
    ∃ both, moved.stretch factor = .ok both ∧ stretched.transpose shift = .ok both := by
  simp only [transpose, stretch, Attempt.bind_eq_ok, Except.ok.injEq]
    at ofShift ofFactor ⊢
  obtain ⟨offset, added, rfl⟩ := ofShift
  obtain ⟨duration, multiplied, rfl⟩ := ofFactor
  exact ⟨{ note with offset, duration }, ⟨duration, multiplied, rfl⟩,
    ⟨offset, added, rfl⟩⟩

namespace Melody

/-! ## Copies of melodies -/

omit [Machine R] in
theorem length_copied (melody : Melody R) (times : Nat) :
    (melody.copied times).length = melody.length * times := by
  simp [copied, length, Nat.mul_comm]

omit [Machine R] in
/-- Copies of copies are as many as the product of both numbers. -/
theorem copied_copied (melody : Melody R) (first second : Nat) :
    (melody.copied first).copied second = melody.copied (first * second) := by
  rw [copied, copied, copied, notes_withNotes, copies_copies]
  rfl

omit [Machine R] in
/-- A mapper makes of copies what it makes of the melody, as many times. -/
theorem outcome_map_copied
    {mapper : Melody R → Logged R (Melody R)}
    {melody mapped : Melody R}
    (ofMelody : (melody.map mapper).outcome = .ok mapped)
    (times : Nat) :
    ((melody.copied times).map mapper).outcome = .ok (mapped.copied times) := by
  -- What is mapped over one copy is as strict as the copy, so that it can be joined to
  -- what is mapped over the other ones.
  have same := (keepsStrictness_map melody mapper).eq_withNotes ofMelody
  obtain ⟨notes, strict⟩ := melody
  obtain ⟨made, own⟩ := mapped
  obtain rfl : own = strict := congrArg Melody.strict same
  induction times with
  | zero => rfl
  | succ times hypothesis =>
      simp only [copied, withNotes, List.replicate_succ, List.flatten_cons] at hypothesis ⊢
      exact outcome_map_append mapper ofMelody hypothesis

/-- A number makes of copies what it makes of the melody, as many times. A truth value,
which is a number for sums and products, is rejected in both cases. -/
theorem outcome_transform_copied
    {value : Value R}
    (number : value.number?.isSome = true)
    {function : Note R → Value R → Attempt R (Value R)}
    {label : String}
    {melody edited : Melody R}
    (ofMelody : (melody.transform value function label).outcome = .ok edited)
    (times : Nat) :
    ((melody.copied times).transform value function label).outcome =
      .ok (edited.copied times) := by
  have alike (proper : isProperNumber value = true) :
      ((melody.copied times).transform value function label).outcome =
        .ok (edited.copied times) := by
    rw [← map_transform proper] at ofMelody ⊢
    exact outcome_map_copied ofMelody times
  cases value with
  | int whole => exact alike rfl
  | real scalar => exact alike rfl
  | bool truth =>
      obtain ⟨tolerated, rfl⟩ := (outcome_transform_of_rejected rfl).1 ofMelody
      exact (outcome_transform_of_rejected rfl).2 ⟨tolerated, rfl⟩
  | _ => cases number

/-- So a number is applied to a melody before it is looped or after it. -/
theorem exists_loop_transform
    {value : Value R}
    (number : value.number?.isSome = true)
    {function : Note R → Value R → Attempt R (Value R)}
    {label : String}
    {melody looped edited : Melody R}
    {times : Nat}
    (ofLoop : melody.loop (.int times) = pure looped)
    (ofEdit : (melody.transform value function label).outcome = .ok edited) :
    ∃ made, (looped.transform value function label).outcome = .ok made ∧
      edited.loop (.int times) = pure made := by
  obtain ⟨room, rfl⟩ := loop_eq_pure.1 ofLoop
  exact ⟨edited.copied times, outcome_transform_copied number ofEdit times,
    loop_eq_pure.2 ⟨length_of_transform ofEdit ▸ room, rfl⟩⟩

/-! ## Transposing and stretching -/

/-- Notes can be transposed before they are stretched or after it. -/
theorem exists_both
    {notes moved stretched : List (Note R)}
    {shifts factors : List (Value R)}
    (ofShifts : List.Forall₂ (fun entry note => entry.1.transpose entry.2 = .ok note)
      (notes.zip shifts) moved)
    (ofFactors : List.Forall₂ (fun entry note => entry.1.stretch entry.2 = .ok note)
      (notes.zip factors) stretched) :
    ∃ both,
      List.Forall₂ (fun entry note => entry.1.stretch entry.2 = .ok note)
        (moved.zip factors) both ∧
      List.Forall₂ (fun entry note => entry.1.transpose entry.2 = .ok note)
        (stretched.zip shifts) both := by
  -- Where one list of values ends, that edit leaves no note to the other one.
  induction notes generalizing shifts factors moved stretched with
  | nil =>
      cases ofShifts
      cases ofFactors
      exact ⟨[], .nil, .nil⟩
  | cons note notes hypothesis =>
      cases shifts with
      | nil =>
          cases ofShifts
          exact ⟨[], .nil, by simp⟩
      | cons shift shifts =>
          cases factors with
          | nil =>
              cases ofFactors
              exact ⟨[], by simp, .nil⟩
          | cons factor factors =>
              obtain - | ⟨moves, later⟩ := ofShifts
              obtain - | ⟨stretches, others⟩ := ofFactors
              obtain ⟨both, ofMoved, ofStretched⟩ := Note.exists_both moves stretches
              obtain ⟨rest, ofLater, ofOthers⟩ := hypothesis later others
              exact ⟨both :: rest, .cons ofMoved ofLater, .cons ofStretched ofOthers⟩

/-- What is transposed and what is stretched can be made the same by stretching and
transposing it, whether the shapes fit or are rejected. -/
theorem transpose_stretch_comm
    {melody transposed stretched : Melody R}
    {shifts factors : Value R}
    (ofShifts : (melody.transpose shifts).outcome = .ok transposed)
    (ofFactors : (melody.stretch factors).outcome = .ok stretched) :
    ∃ both, (transposed.stretch factors).outcome = .ok both ∧
      (stretched.transpose shifts).outcome = .ok both := by
  have asMany := length_of_transform ofShifts
  have asManyToo := length_of_transform ofFactors
  have asStrict := isStrict_of_transform ofShifts
  have asStrictToo := isStrict_of_transform ofFactors
  -- A rejected shape leaves everything to the other one, and is rejected after it too.
  cases decodes : TransformShape.ofValue shifts melody.length "transpose" with
  | error fault =>
      obtain ⟨-, rfl⟩ := (outcome_transform_of_rejected decodes).1 ofShifts
      exact ⟨stretched, ofFactors,
        outcome_transform_of_alike decodes ofShifts asManyToo asStrictToo⟩
  | ok decoded =>
      cases decodesToo : TransformShape.ofValue factors melody.length "temp" with
      | error fault =>
          obtain ⟨-, rfl⟩ := (outcome_transform_of_rejected decodesToo).1 ofFactors
          exact ⟨transposed,
            outcome_transform_of_alike decodesToo ofFactors asMany asStrict, ofShifts⟩
      | ok decodedToo =>
          obtain ⟨moved, moves, rfl⟩ := (outcome_edit_of_decoded decodes).1 ofShifts
          obtain ⟨longer, stretches, rfl⟩ :=
            (outcome_edit_of_decoded decodesToo).1 ofFactors
          obtain ⟨both, ofMoved, ofLonger⟩ := exists_both moves stretches
          rw [← asMany] at decodesToo ofMoved
          rw [← asManyToo] at decodes ofLonger
          exact ⟨melody.withNotes both,
            (outcome_edit_of_decoded decodesToo).2 ⟨both, ofMoved, rfl⟩,
            (outcome_edit_of_decoded decodes).2 ⟨both, ofLonger, rfl⟩⟩

/-! ## The laws of looping -/

/-- What looping a melody does to it and to what is made of it. -/
structure LoopLaws (melody : Melody R) : Prop where
  /-- A melody is looped if there is room for the copies. -/
  looped : ∀ times : Nat,
    (∃ made, melody.loop (.int times) = pure made) ↔ HasRoom R melody.length times
  /-- A melody is looped twice by looping it as often as the product says. -/
  multiplied : ∀ first second : Nat,
    HasRoom R melody.length first → HasRoom R (melody.length * first) second →
    HasRoom R melody.length (first * second) →
    ∃ once twice, melody.loop (.int first) = pure once ∧
      once.loop (.int second) = pure twice ∧
      melody.loop (.int (first * second)) = pure twice
  /-- A number transposes the looped melody as it does the melody. -/
  transposed : ∀ (times : Nat) (value : Value R) (looped edited : Melody R),
    value.number?.isSome = true →
    melody.loop (.int times) = pure looped →
    (melody.transpose value).outcome = .ok edited →
    ∃ made, (looped.transpose value).outcome = .ok made ∧
      edited.loop (.int times) = pure made
  /-- A number stretches the looped melody as it does the melody. -/
  stretched : ∀ (times : Nat) (value : Value R) (looped edited : Melody R),
    value.number?.isSome = true →
    melody.loop (.int times) = pure looped →
    (melody.stretch value).outcome = .ok edited →
    ∃ made, (looped.stretch value).outcome = .ok made ∧
      edited.loop (.int times) = pure made
  /-- A chain of calls is mapped over the looped melody as it is over the melody. -/
  mapped : ∀ (times : Nat) (chain : List (Call R)) (looped mapped made : Melody R),
    melody.loop (.int times) = pure looped →
    (melody.map (Call.performAll chain)).outcome = .ok mapped →
    mapped.loop (.int times) = pure made →
    (looped.map (Call.performAll chain)).outcome = .ok made
  /-- To transpose and to stretch is to stretch and to transpose. -/
  commuted : ∀ (shifts factors : Value R) (transposed stretched : Melody R),
    (melody.transpose shifts).outcome = .ok transposed →
    (melody.stretch factors).outcome = .ok stretched →
    ∃ both, (transposed.stretch factors).outcome = .ok both ∧
      (stretched.transpose shifts).outcome = .ok both

/-- Looping is multiplicative and commutes with what is done to all notes alike. -/
theorem loop_laws (melody : Melody R) : melody.LoopLaws where
  looped times := by
    simp only [loop_eq_pure, exists_and_left, exists_eq, and_true]
  multiplied first second room more whole := by
    refine ⟨melody.copied first, melody.copied (first * second),
      loop_eq_pure.2 ⟨room, rfl⟩, ?_, ?_⟩
    · rw [← copied_copied]
      exact loop_eq_pure.2 ⟨length_copied melody first ▸ more, rfl⟩
    · exact_mod_cast loop_eq_pure.2 ⟨whole, rfl⟩
  transposed _ _ _ _ number ofLoop ofEdit := exists_loop_transform number ofLoop ofEdit
  stretched _ _ _ _ number ofLoop ofEdit := exists_loop_transform number ofLoop ofEdit
  mapped times chain looped mapped made ofLoop ofMap ofMapped := by
    obtain ⟨-, rfl⟩ := loop_eq_pure.1 ofLoop
    obtain ⟨-, rfl⟩ := loop_eq_pure.1 ofMapped
    exact outcome_map_copied ofMap times
  commuted _ _ _ _ := transpose_stretch_comm

theorem loop_laws_of_motif :
    ∃ looped edited made, motif.loop (.int (3 : Nat)) = pure looped ∧
      (motif.transpose (.real 0.5)).outcome = .ok edited ∧
      (looped.transpose (.real 0.5)).outcome = .ok made ∧
      edited.loop (.int (3 : Nat)) = pure made := by
  obtain ⟨looped, ofLoop⟩ := (motif.loop_laws.looped 3).2 (by decide)
  obtain ⟨edited, ofEdit⟩ : ∃ edited,
      (motif.transpose (.real 0.5)).outcome = .ok edited :=
    Attempt.exists_of_isOk (by decide +kernel)
  obtain ⟨made, ofLooped, ofEdited⟩ :=
    motif.loop_laws.transposed 3 _ looped edited rfl ofLoop ofEdit
  exact ⟨looped, edited, made, ofLoop, ofEdit, ofLooped, ofEdited⟩

/-- No notes can be looped as often as any length says, but the product of two lengths
need not be one. -/
theorem endless_loop_overflows :
    (do
      let once ← (⟨[], .bool false⟩ : Melody Float).loop (.int (2 ^ 62))
      once.loop (.int (2 ^ 62))) = pure ⟨[], .bool false⟩ ∧
      ((⟨[], .bool false⟩ : Melody Float).loop (.int (2 ^ 62 * 2 ^ 62))).outcome =
        .error .overflow := by
  refine ⟨?_, Attempt.eq_of_overflows (by decide +kernel)⟩
  rfl

end Melody
end MelodyAutomation

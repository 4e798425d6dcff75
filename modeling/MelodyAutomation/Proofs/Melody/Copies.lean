import MelodyAutomation.Proofs.Scalar.Range
import MelodyAutomation.Proofs.Shape
import MelodyAutomation.Proofs.Value.Copies
import MelodyAutomation.Proofs.Value.Refusals
import MelodyAutomation.Proofs.Value.Scalars

/-!
# Copies of notes

A melody is repeated as a whole or note by note. The copies of a whole melody follow
each other, while the copies of a note stand together in its place. In both cases a
copy differs from its note in its duration alone, which is the share of the note's
duration that falls to one of the copies.

The main result says for every place of a repeated melody which note it comes from.
Nothing is divided by zero on the way, because no share is taken of no copies.
-/

namespace MelodyAutomation

variable {R : Type} [Machine R]

namespace Note

/-- A note is the share of another one that falls to one of a number of copies: its
duration is that of the other one times the value of one divided by the number, and
nothing else is different. -/
def IsShare (count : Nat) (note copy : Note R) : Prop :=
  ∃ factor, (Value.int 1).div (.int count) = .ok factor ∧
    note.duration.mul (.real factor) = .ok copy.duration ∧
    copy = { note with duration := copy.duration }

/-- A note is a copy of another one, shortened to its share if it is to fit. -/
def IsCopy (fit : Bool) (count : Nat) (note copy : Note R) : Prop :=
  if fit then note.IsShare count copy else note = copy

/-- A note is split into a number of copies, each of which is its share. -/
def SplitsInto (count : Nat) (note : Note R) (copies : List (Note R)) : Prop :=
  copies.length = count ∧ ∀ copy ∈ copies, note.IsShare count copy

theorem isCopy_true (count : Nat) :
    (IsCopy true count : Note R → Note R → Prop) = IsShare count := rfl

theorem isCopy_false (count : Nat) :
    (IsCopy false count : Note R → Note R → Prop) = Eq := rfl

/-- The duration of a note is a number in the range of the scalars. -/
def IsMeasured (note : Note R) : Prop :=
  ∃ scalar, note.duration.CountsAs scalar

/-- If one can be divided by the number of copies, the notes that have a share are those
whose durations are numbers in range. -/
theorem exists_isShare
    {count : Nat}
    {factor : R}
    (divided : (Value.int 1).div (.int count) = .ok factor)
    {note : Note R} :
    (∃ copy, note.IsShare count copy) ↔ note.IsMeasured := by
  constructor
  · rintro ⟨copy, _, -, multiplied, -⟩
    obtain ⟨scalar, counts, -⟩ := Value.mul_real_eq_ok.1 multiplied
    exact ⟨scalar, counts⟩
  · rintro ⟨scalar, counts⟩
    exact ⟨{ note with duration := .real (Scalar.mul scalar factor) }, factor, divided,
      Value.mul_real_eq_ok.2 ⟨scalar, counts, rfl⟩, rfl⟩

/-- All shares of a note are the same. -/
theorem IsShare.unique
    {count : Nat}
    {note first second : Note R}
    (ofFirst : note.IsShare count first)
    (ofSecond : note.IsShare count second) :
    first = second := by
  obtain ⟨factor, divided, multiplied, same⟩ := ofFirst
  obtain ⟨other, dividedAgain, multipliedAgain, again⟩ := ofSecond
  obtain rfl := Except.ok.inj (divided.symm.trans dividedAgain)
  rw [same, again, Except.ok.inj (multiplied.symm.trans multipliedAgain)]

/-- A note is split into copies exactly when every one of as many equal notes has a
copy as its share. -/
theorem splitsInto_iff {count : Nat} {note : Note R} {copies : List (Note R)} :
    note.SplitsInto count copies ↔
      List.Forall₂ (IsShare count) (List.replicate count note) copies := by
  rw [List.forall₂_iff_get, SplitsInto, List.forall_mem_iff_getElem]
  constructor
  · rintro ⟨rfl, shares⟩
    exact ⟨List.length_replicate, fun place _ within => by simpa using shares place within⟩
  · rintro ⟨length, shares⟩
    refine ⟨by simpa using length.symm, fun place within => ?_⟩
    simpa using shares place (length ▸ within) within

/-- A share of a note stands for each of the copies that the note is split into. -/
theorem IsShare.splitsInto_iff
    {count : Nat}
    {note copy : Note R}
    (isShare : note.IsShare count copy)
    {copies : List (Note R)} :
    note.SplitsInto count copies ↔ copies = List.replicate count copy := by
  constructor
  · rintro ⟨length, shares⟩
    exact List.eq_replicate_iff.2 ⟨length, fun other member =>
      (shares other member).unique isShare⟩
  · rintro rfl
    exact ⟨List.length_replicate, fun other member =>
      List.eq_of_mem_replicate member ▸ isShare⟩

end Note

namespace Melody

theorem shorten_eq_ok {count : Nat} {note copy : Note R} :
    shorten count note = .ok copy ↔ note.IsShare count copy := by
  have shared : (share count : Attempt R (Value R)) =
      (Value.int 1).div (.int count) >>= fun factor => .ok (.real factor) := rfl
  simp only [shorten, shared, Note.stretch, Note.IsShare, Attempt.bind_eq_ok,
    Except.ok.injEq]
  constructor
  · rintro ⟨_, ⟨factor, divided, rfl⟩, duration, multiplied, rfl⟩
    exact ⟨factor, divided, multiplied, rfl⟩
  · rintro ⟨factor, divided, multiplied, same⟩
    exact ⟨_, ⟨factor, divided, rfl⟩, _, multiplied, same.symm⟩

/-! ## Whole melodies -/

/-- All notes are repeated exactly when there is room for the copies and, if these are
to fit, all notes have a share. -/
theorem repeatWhole_eq_ok
    {notes made : List (Note R)}
    {times : Nat}
    {fit : Bool} :
    repeatWhole notes times fit = .ok made ↔
      HasRoom R notes.length times ∧
        List.Forall₂ (Note.IsCopy fit times)
          (List.replicate times notes).flatten made := by
  simp only [repeatWhole, Attempt.bind_eq_ok, Value.repeatItems_eq_ok]
  cases fit with
  | false =>
      rw [Note.isCopy_false, List.forall₂_eq_eq_eq]
      simp [eq_comm]
  | true =>
      rw [Note.isCopy_true]
      by_cases positive : 0 < times
      · simp [positive, Attempt.mapM_eq_ok, shorten_eq_ok]
      · obtain rfl : times = 0 := by omega
        simp [eq_comm]

/-- A single note is repeated exactly when there is room for its copies and it can be
split into them. -/
theorem repeatWhole_singleton_eq_ok
    {note : Note R}
    {made : List (Note R)}
    {count : Nat} :
    repeatWhole [note] count true = .ok made ↔
      HasRoom R 1 count ∧ note.SplitsInto count made := by
  have copies : (List.replicate count [note]).flatten =
      List.replicate count note := by
    simp
  rw [repeatWhole_eq_ok, Note.isCopy_true, copies, Note.splitsInto_iff]
  rfl

/-- Notes can be repeated exactly when there is room for the copies and, if these are to
fit, all notes have shares. -/
theorem exists_repeatWhole
    {notes : List (Note R)}
    {times : Nat}
    {fit : Bool} :
    (∃ made, repeatWhole notes times fit = .ok made) ↔
      HasRoom R notes.length times ∧
        (fit = true → 0 < times → ∀ note ∈ notes, ∃ copy, note.IsShare times copy) := by
  simp only [repeatWhole, Attempt.bind_eq_ok, Value.repeatItems_eq_ok]
  by_cases shortened : fit = true ∧ 0 < times
  · obtain ⟨rfl, positive⟩ := shortened
    have copied (note : Note R) :
        note ∈ (List.replicate times notes).flatten ↔ note ∈ notes := by
      simp [positive.ne']
    have shared : (∃ made, (List.replicate times notes).flatten.mapM (shorten times) =
        .ok made) ↔ ∀ note ∈ notes, ∃ copy, note.IsShare times copy := by
      simp only [Attempt.exists_mapM, copied, shorten_eq_ok]
    simp [positive, ← shared]
  · have whole : (fit && decide (0 < times)) = false := by simpa using shortened
    simp [whole]
    tauto

/-! ## Note by note -/

/-- The first note is split into its copies, then the other ones into theirs. -/
theorem repeatEach_cons_eq_ok
    {note : Note R}
    {notes made : List (Note R)}
    {count : Nat}
    {counts : List Nat} :
    repeatEach (note :: notes) (count :: counts) = .ok made ↔
      ∃ group rest, repeatWhole [note] count true = .ok group ∧
        repeatEach notes counts = .ok rest ∧ made = group ++ rest := by
  rw [repeatEach]
  simp only [repeatWhole_singleton_eq_ok]
  split
  next none =>
      subst none
      simp [hasRoom_zero, Note.SplitsInto]
  next some =>
      simp only [Attempt.bind_eq_ok, Value.repeatItems_eq_ok, shorten_eq_ok,
        Except.ok.injEq]
      constructor
      · rintro ⟨copy, isShare, _, ⟨room, rfl⟩, rest, others, rfl⟩
        exact ⟨_, rest, ⟨room, isShare.splitsInto_iff.2 (by simp)⟩, others, rfl⟩
      · rintro ⟨group, rest, ⟨room, split⟩, others, rfl⟩
        obtain ⟨copy, member⟩ : ∃ copy, copy ∈ group :=
          List.exists_mem_of_length_pos (by have := split.1; omega)
        have isShare := split.2 copy member
        refine ⟨copy, isShare, group, ⟨room, ?_⟩, rest, others, rfl⟩
        simpa using isShare.splitsInto_iff.1 split

/-- Notes are repeated one by one exactly when each of them can be repeated alone, and
what becomes of them stands in their order. -/
theorem repeatEach_eq_ok
    {notes made : List (Note R)}
    {counts : List Nat} :
    repeatEach notes counts = .ok made ↔
      ∃ groups, made = groups.flatten ∧
        List.Forall₂
          (fun entry group => repeatWhole [entry.1] entry.2 true = .ok group)
          (notes.zip counts) groups := by
  induction notes generalizing counts made with
  | nil => simp [repeatEach, eq_comm]
  | cons note notes hypothesis =>
      cases counts with
      | nil => simp [repeatEach, eq_comm]
      | cons count counts =>
          simp only [repeatEach_cons_eq_ok, hypothesis, List.zip_cons_cons,
            List.forall₂_cons_left_iff]
          constructor
          · rintro ⟨group, _, own, ⟨groups, rfl, others⟩, rfl⟩
            exact ⟨_, rfl, group, groups, own, others, rfl⟩
          · rintro ⟨_, rfl, group, groups, own, others, rfl⟩
            exact ⟨group, _, own, ⟨groups, rfl, others⟩, rfl⟩

/-- So notes can be repeated one by one exactly when each can be repeated alone. -/
theorem exists_repeatEach {notes : List (Note R)} {counts : List Nat} :
    (∃ made, repeatEach notes counts = .ok made) ↔
      ∀ entry ∈ notes.zip counts,
        ∃ group, repeatWhole [entry.1] entry.2 true = .ok group := by
  simp only [repeatEach_eq_ok, ← Attempt.exists_mapM, Attempt.mapM_eq_ok]
  constructor
  · rintro ⟨_, groups, -, related⟩
    exact ⟨groups, related⟩
  · rintro ⟨groups, related⟩
    exact ⟨_, groups, rfl, related⟩

/-- What becomes of each note alone is as long as its count says. -/
theorem map_length_groups
    {entries : List (Note R × Nat)}
    {groups : List (List (Note R))}
    (related : List.Forall₂
      (fun entry group => repeatWhole [entry.1] entry.2 true = .ok group)
      entries groups) :
    groups.map List.length = entries.map Prod.snd := by
  induction related with
  | nil => rfl
  | cons single _ hypothesis =>
      rw [List.map_cons, List.map_cons, hypothesis,
        (repeatWhole_singleton_eq_ok.1 single).2.1]

/-- What becomes of a note is the group in its place. -/
theorem exists_group
    {notes : List (Note R)}
    {counts : List Nat}
    {groups : List (List (Note R))}
    (related : List.Forall₂
      (fun entry group => repeatWhole [entry.1] entry.2 true = .ok group)
      (notes.zip counts) groups)
    {index count : Nat}
    {note : Note R}
    (ofNote : notes[index]? = some note)
    (ofCount : counts[index]? = some count) :
    ∃ group, groups[index]? = some group ∧ note.SplitsInto count group := by
  have paired : (notes.zip counts)[index]? = some (note, count) :=
    List.getElem?_zip_eq_some.2 ⟨ofNote, ofCount⟩
  obtain ⟨group, found, single⟩ := exists_related related paired
  exact ⟨group, found, (repeatWhole_singleton_eq_ok.1 single).2⟩

/-! ## What copying is refused for -/

end Melody

/-- What keeps notes from being copied: a duration that does not fit, a number that is
out of range, or copies for which there is no room. -/
def Failure.IsUncopied (failure : Failure R) : Prop :=
  failure.IsMisfit ∨ failure = .overflow ∨ failure = .outOfMemory

namespace Melody

/-- A number is shortened unless it is out of range. -/
theorem refusedFor_shorten
    {causes : Failure R → Prop}
    (outOfRange : causes .overflow)
    {count : Nat}
    (positive : 0 < count)
    {note : Note R}
    (number : note.duration.toNumber.RefusedFor causes) :
    (shorten count note).RefusedFor causes := by
  have shared : (share count : Attempt R (Value R)).Yields
      (fun factor => ∃ quotient, factor = .real quotient) causes := by
    unfold share Number.divWhole
    rw [if_neg (by omega)]
    split
    · exact ⟨_, rfl⟩
    · exact outOfRange
  refine shared.bind ?_
  rintro _ ⟨quotient, rfl⟩
  have multiplied : (note.duration.mul (.real quotient)).RefusedFor causes := by
    rw [Value.mul_real]
    refine number.bind fun number _ => ?_
    exact (number.refusedFor_toScalar outOfRange).bind fun _ _ => trivial
  exact multiplied.bind fun _ _ => trivial

/-- Notes whose durations are numbers are repeated unless a number is out of range or
there is no room for the copies. -/
theorem refusedFor_repeatWhole
    {causes : Failure R → Prop}
    (outOfRange : causes .overflow)
    (noRoom : causes .outOfMemory)
    {notes : List (Note R)}
    (numbers : ∀ note ∈ notes, note.duration.toNumber.RefusedFor causes)
    (times : Nat)
    (fit : Bool) :
    (repeatWhole notes times fit).RefusedFor causes := by
  have copied : (Value.repeatItems .outOfMemory notes times).Yields
      (fun copies => ∀ copy ∈ copies, copy ∈ notes) causes := by
    refine .of_refusedFor
      (Value.refusedFor_repeatItems outOfRange noRoom noRoom notes times) ?_
    intro copies repeated copy member
    obtain ⟨-, rfl⟩ := Value.repeatItems_eq_ok.1 repeated
    obtain ⟨group, ofGroup, inside⟩ := List.mem_flatten.1 member
    exact List.eq_of_mem_replicate ofGroup ▸ inside
  refine copied.bind fun copies fromNotes => ?_
  split
  next shortened =>
      have positive : 0 < times := by simp_all
      exact Attempt.refusedFor_mapM fun copy member =>
        refusedFor_shorten outOfRange positive (numbers copy (fromNotes copy member))
  next => trivial

omit [Machine R] in
/-- What keeps a literal from being a number keeps notes from being copied. -/
theorem refusedFor_toNumber_of_uncopied (value : Value R) :
    value.toNumber.RefusedFor Failure.IsUncopied :=
  value.refusedFor_toNumber.imp (fun _ => id) fun _ => .inl

theorem refusedFor_repeatEach (notes : List (Note R)) (counts : List Nat) :
    (repeatEach notes counts).RefusedFor Failure.IsUncopied := by
  induction notes generalizing counts with
  | nil => trivial
  | cons note rest hypothesis =>
      cases counts with
      | nil => trivial
      | cons count counts =>
          rw [repeatEach]
          split
          · exact hypothesis counts
          next some =>
              have shortened : (shorten count note).RefusedFor Failure.IsUncopied :=
                refusedFor_shorten (.inr (.inl rfl)) (by omega)
                  (refusedFor_toNumber_of_uncopied _)
              have copied (copy : Note R) :
                  (Value.repeatItems .outOfMemory [copy] count).RefusedFor
                    (Failure.IsUncopied : Failure R → Prop) :=
                Value.refusedFor_repeatItems (.inr (.inl rfl)) (.inr (.inr rfl))
                  (.inr (.inr rfl)) [copy] count
              exact shortened.bind fun copy _ => (copied copy).bind fun _ _ =>
                (hypothesis counts).bind fun _ _ => trivial

/-- A melody is not repeated because of a misuse or because its notes cannot be
copied. -/
theorem refusedFor_repeatBy
    {causes : Failure R → Prop}
    (ofMisuse : ∀ fault, causes (.misuse fault))
    (ofCopies : ∀ failure : Failure R, failure.IsUncopied → causes failure)
    (melody : Melody R)
    (shape fit : Value R) :
    (melody.repeatBy shape fit).outcome.RefusedFor causes := by
  unfold repeatBy
  split
  · unfold reject
    split
    · exact ofMisuse _
    · trivial
  next decoded _ =>
      have repeated : (repeatNotes melody.notes fit decoded).RefusedFor
          Failure.IsUncopied := by
        cases decoded with
        | count times =>
            exact refusedFor_repeatWhole (.inr (.inl rfl)) (.inr (.inr rfl))
              (fun note _ => refusedFor_toNumber_of_uncopied note.duration) _ _
        | perElement counts => exact refusedFor_repeatEach _ _
      exact Logged.yields_bind (repeated.imp (fun _ => id) ofCopies)
        fun _ _ => trivial

/-- A melody is not refused for a name when it is looped. -/
theorem refusedFor_loop (melody : Melody R) (times : Value R) :
    (melody.loop times).outcome.RefusedFor Failure.FindsNames := by
  refine melody.refusedFor_repeatBy (fun _ => trivial) ?_ times _
  rintro _ (misfit | rfl | rfl)
  · exact misfit.covered
  · trivial
  · trivial

/-- Nothing is divided by zero when a melody is repeated. -/
theorem repeatBy_ne_divisionByZero (melody : Melody R) (shape fit : Value R) :
    (melody.repeatBy shape fit).outcome ≠ .error .divisionByZero := by
  have refused : (melody.repeatBy shape fit).outcome.RefusedFor
      (· ≠ .divisionByZero) := by
    refine melody.refusedFor_repeatBy (fun _ => nofun) ?_ shape fit
    rintro _ ((rfl | rfl) | rfl | rfl) <;> nofun
  intro divided
  rw [divided] at refused
  exact refused rfl

/-- What a decoded shape makes of the notes is what it makes of the melody. -/
theorem repeatBy_of_decoded
    {melody : Melody R}
    {shape : Value R}
    {decoded : RepeatShape}
    (decodes : RepeatShape.ofValue shape melody.length = .ok decoded)
    (fit : Value R) :
    melody.repeatBy shape fit = (do
      let notes ← repeatNotes melody.notes fit decoded
      pure (melody.withNotes notes)) := by
  rw [repeatBy, decodes]

/-- A melody is repeated exactly when its notes are. -/
theorem outcome_repeatBy_eq_ok
    {melody made : Melody R}
    {shape fit : Value R}
    {decoded : RepeatShape}
    (decodes : RepeatShape.ofValue shape melody.length = .ok decoded) :
    (melody.repeatBy shape fit).outcome = .ok made ↔
      ∃ notes, repeatNotes melody.notes fit decoded = .ok notes ∧
        made = melody.withNotes notes := by
  simp only [repeatBy_of_decoded decodes, Logged.outcome_bind_eq_ok,
    Logged.outcome_liftM, Logged.pure_def, Except.ok.injEq]
  exact exists_congr fun notes => and_congr_right fun _ => eq_comm

/-- Nothing is reported when a shape can be decoded. -/
theorem repeatBy_eq_pure
    {melody made : Melody R}
    {shape fit : Value R}
    {decoded : RepeatShape}
    (decodes : RepeatShape.ofValue shape melody.length = .ok decoded) :
    melody.repeatBy shape fit = pure made ↔
      ∃ notes, repeatNotes melody.notes fit decoded = .ok notes ∧
        made = melody.withNotes notes := by
  rw [← outcome_repeatBy_eq_ok decodes]
  constructor
  · intro repeated
    rw [repeated]
    rfl
  · intro outcome
    refine Logged.ext outcome ?_
    rw [repeatBy_of_decoded decodes]
    cases repeatNotes melody.notes fit decoded <;> rfl

theorem exists_repeatBy_eq_pure
    {melody : Melody R}
    {shape fit : Value R}
    {decoded : RepeatShape}
    (decodes : RepeatShape.ofValue shape melody.length = .ok decoded) :
    (∃ made, melody.repeatBy shape fit = pure made) ↔
      ∃ notes, repeatNotes melody.notes fit decoded = .ok notes := by
  simp only [repeatBy_eq_pure decodes]
  exact ⟨fun ⟨_, notes, repeated, _⟩ => ⟨notes, repeated⟩,
    fun ⟨notes, repeated⟩ => ⟨_, notes, repeated, rfl⟩⟩

/-- A melody a number of times in a row. -/
def copied (melody : Melody R) (times : Nat) : Melody R :=
  melody.withNotes (List.replicate times melody.notes).flatten

/-- A melody is looped exactly when there is room for the copies. -/
theorem loop_eq_pure {melody made : Melody R} {times : Nat} :
    melody.loop (.int times) = pure made ↔
      HasRoom R melody.length times ∧ made = melody.copied times := by
  rw [loop, repeatBy_eq_pure (RepeatShape.ofValue_natCast times _)]
  have whole (notes : List (Note R)) :
      repeatNotes melody.notes (.bool false) (.count times) = .ok notes ↔
        HasRoom R melody.length times ∧
          notes = (List.replicate times melody.notes).flatten := by
    change repeatWhole melody.notes times false = .ok notes ↔ _
    rw [repeatWhole_eq_ok, Note.isCopy_false, List.forall₂_eq_eq_eq]
    exact and_congr_right fun _ => eq_comm
  simp only [whole, and_assoc, exists_eq_left, exists_and_left, copied]

/-! ## Which melodies can be copied -/

/-- One divided by a number of copies is in the range of the scalars. -/
def HasShares (R : Type) [Machine R] : Prop :=
  ∀ count : Nat, 0 < count → ∃ factor : R, (Value.int 1).div (.int count) = .ok factor

theorem hasShares_double [Limits] : HasShares Float := by
  intro count positive
  have atLeastOne : 1 ≤ count := positive
  exact Number.exists_divWhole positive atLeastOne

/-- There is room for all the copies that a decoded shape asks for. -/
def HasRoomFor (melody : Melody R) : RepeatShape → Prop
  | .count times => HasRoom R melody.length times
  | .perElement counts => HasRoom R 1 counts.sum

/-- The notes that a decoded shape shortens have durations in range. -/
def IsMeasuredFor (melody : Melody R) (fit : Bool) : RepeatShape → Prop
  | .count times => fit = true → 0 < times → ∀ note ∈ melody.notes, note.IsMeasured
  | .perElement counts =>
      ∀ entry ∈ melody.notes.zip counts, 0 < entry.2 → entry.1.IsMeasured

section

variable
  (hasShares : HasShares R)
  {melody : Melody R}
  {fit : Value R}
include hasShares

/-- The notes that have a share are those whose durations are in range. -/
theorem exists_isShare_iff {count : Nat} (positive : 0 < count) (note : Note R) :
    (∃ copy, note.IsShare count copy) ↔ note.IsMeasured := by
  obtain ⟨factor, divided⟩ := hasShares count positive
  exact Note.exists_isShare divided

/-- A melody can be repeated as a whole exactly when there is room for the copies and
what is shortened is in range. -/
theorem exists_repeatNotes_count {times : Nat} :
    (∃ made, repeatNotes melody.notes fit (.count times) = .ok made) ↔
      HasRoom R melody.length times ∧
        melody.IsMeasuredFor fit.isTruthy (.count times) := by
  rw [repeatNotes, exists_repeatWhole]
  refine and_congr_right fun _ => imp_congr_right fun _ => ?_
  exact forall_congr' fun positive => by
    simp only [exists_isShare_iff hasShares positive]

/-- Where there is room for the copies of each note, a melody can be repeated note by
note exactly when what is shortened is in range. -/
theorem exists_repeatNotes_perElement
    {counts : List Nat}
    (room : ∀ count ∈ counts, HasRoom R 1 count) :
    (∃ made, repeatNotes melody.notes fit (.perElement counts) = .ok made) ↔
      melody.IsMeasuredFor fit.isTruthy (.perElement counts) := by
  rw [repeatNotes, exists_repeatEach]
  refine forall₂_congr fun entry member => ?_
  rw [exists_repeatWhole, List.length_singleton,
    and_iff_right (room _ (List.of_mem_zip member).2)]
  simp only [List.forall_mem_singleton, true_implies]
  exact forall_congr' fun positive => exists_isShare_iff hasShares positive entry.1

/-- Where there is room for all copies together, a melody can be repeated exactly when
what is shortened is in range. -/
theorem exists_repeatNotes
    {decoded : RepeatShape}
    (room : melody.HasRoomFor decoded) :
    (∃ made, repeatNotes melody.notes fit decoded = .ok made) ↔
      melody.IsMeasuredFor fit.isTruthy decoded := by
  cases decoded with
  | count times =>
      exact (exists_repeatNotes_count hasShares).trans (and_iff_right room)
  | perElement counts =>
      exact exists_repeatNotes_perElement hasShares fun count member =>
        room.mono (List.single_le_sum (by simp) count member)

end

/-! ## Every copy in its place -/

section

variable [Limits]

/-- Where the copies of the notes of a melody are when it is repeated. -/
structure PlacesCopies (melody : Melody Float) (shape fit : Value Float) : Prop where
  /-- Where there is room for all copies, they are made if the durations that are
  shortened are in range. -/
  copies : ∀ decoded, RepeatShape.ofValue shape melody.length = .ok decoded →
    melody.HasRoomFor decoded →
    ((∃ made, melody.repeatBy shape fit = pure made) ↔
      melody.IsMeasuredFor fit.isTruthy decoded)
  /-- The copies of a whole melody follow each other. -/
  whole : ∀ times made,
    RepeatShape.ofValue shape melody.length = .ok (.count times) →
    melody.repeatBy shape fit = pure made →
    made.strict = melody.strict ∧
      made.length = times * melody.length ∧
      ∀ place < times * melody.length, ∃ note copy,
        melody.notes[place % melody.length]? = some note ∧
        made.notes[place]? = some copy ∧
        note.IsCopy fit.isTruthy times copy
  /-- The copies of a note are behind those of the notes in front of it. -/
  each : ∀ counts made,
    RepeatShape.ofValue shape melody.length = .ok (.perElement counts) →
    melody.repeatBy shape fit = pure made →
    counts.length = melody.length ∧
      made.strict = melody.strict ∧
      made.length = counts.sum ∧
      ∀ index note count,
        melody.notes[index]? = some note → counts[index]? = some count →
        ∀ place, (counts.take index).sum ≤ place →
          place < (counts.take index).sum + count →
          ∃ copy, made.notes[place]? = some copy ∧ note.IsShare count copy
  /-- No number of copies is a divisor of zero. -/
  divides : (melody.repeatBy shape fit).outcome ≠ .error .divisionByZero

/-- In a repeated melody every copy is in its place. -/
theorem places_copies (melody : Melody Float) (shape fit : Value Float) :
    melody.PlacesCopies shape fit where
  copies decoded decodes room := by
    rw [← exists_repeatNotes hasShares_double room, exists_repeatBy_eq_pure decodes]
  whole times made decodes repeated := by
    obtain ⟨notes, copied, rfl⟩ := (repeatBy_eq_pure decodes).1 repeated
    have related := (repeatWhole_eq_ok.1 copied).2
    have long : notes.length = times * melody.length := by
      rw [← related.length_eq]
      simp [length]
    refine ⟨rfl, long, fun place within => ?_⟩
    have inside : place < (List.replicate times melody.notes).flatten.length := by
      rw [related.length_eq, long]
      exact within
    have bound : place < notes.length := long ▸ within
    refine ⟨_, notes[place], ?_, List.getElem?_eq_getElem bound,
      related.get inside bound⟩
    rw [length, ← copies_getElem? _ within]
    exact List.getElem?_eq_getElem inside
  each counts made decodes repeated := by
    have long := RepeatShape.length_of_ofValue decodes
    obtain ⟨notes, copied, rfl⟩ := (repeatBy_eq_pure decodes).1 repeated
    obtain ⟨groups, rfl, related⟩ := repeatEach_eq_ok.1 copied
    have lengths : groups.map List.length = counts := by
      rw [map_length_groups related, List.map_snd_zip long.le]
    refine ⟨long, rfl, ?_, ?_⟩
    · rw [length, notes_withNotes, List.length_flatten, lengths]
    · intro index note count ofNote ofCount place after before
      obtain ⟨group, ofGroup, split⟩ := exists_group related ofNote ofCount
      obtain ⟨offset, rfl⟩ := Nat.exists_eq_add_of_le after
      have inside : offset < group.length := by
        rw [split.1]
        exact Nat.lt_of_add_lt_add_left before
      refine ⟨group[offset], ?_, split.2 _ (List.getElem_mem inside)⟩
      rw [← lengths, ← List.map_take, notes_withNotes, groups_getElem? ofGroup inside]
      exact List.getElem?_eq_getElem inside
  divides := melody.repeatBy_ne_divisionByZero shape fit

end

/-- Two notes with a rest between them, of durations of both kinds. -/
def motif : Melody Float :=
  ⟨[⟨.text "A", .int 0, .int 4, .int 2⟩, ⟨.text "0", .int 0, .int 4, .real 0.5⟩,
    ⟨.text "E", .int 3, .int 4, .real 1.5⟩], .bool true⟩

/-- Two copies of the first note, none of the rest and three of the last note. -/
theorem places_copies_of_motif :
    RepeatShape.ofValue (.list [.int 2, .int 0, .int 3] : Value Float) motif.length =
        .ok (.perElement [2, 0, 3]) ∧
      motif.HasRoomFor (.perElement [2, 0, 3]) ∧
      motif.IsMeasuredFor true (.perElement [2, 0, 3]) ∧
      ∃ made copy, motif.repeatBy (.list [.int 2, .int 0, .int 3]) (.bool true) =
          pure made ∧
        made.length = 5 ∧
        made.notes[3]? = some copy ∧
        Note.IsShare 3 ⟨.text "E", .int 3, .int 4, .real 1.5⟩ copy := by
  have decodes : RepeatShape.ofValue (.list [.int 2, .int 0, .int 3] : Value Float)
      motif.length = .ok (.perElement [2, 0, 3]) := rfl
  have whole : ∃ scalar : Float, (Number.whole 2).toScalar = .ok scalar :=
    Attempt.exists_of_isOk (by decide +kernel)
  have room : HasRoom Float 1 [2, 0, 3].sum := by decide
  have measured : motif.IsMeasuredFor true (.perElement [2, 0, 3]) := by
    obtain ⟨scalar, converted⟩ := whole
    exact List.forall_mem_cons.2 ⟨fun _ => ⟨scalar, _, rfl, converted⟩,
      List.forall_mem_cons.2 ⟨nofun, List.forall_mem_singleton.2
        fun _ => ⟨_, Value.countsAs_real.2 rfl⟩⟩⟩
  obtain ⟨made, repeated⟩ :=
    ((motif.places_copies (.list [.int 2, .int 0, .int 3]) (.bool true)).copies
      _ decodes room).2 measured
  obtain ⟨-, -, long, placed⟩ :=
    (motif.places_copies (.list [.int 2, .int 0, .int 3]) (.bool true)).each
      _ made decodes repeated
  obtain ⟨copy, found, isShare⟩ := placed 2 _ 3 rfl rfl 3 (by decide) (by decide)
  exact ⟨decodes, room, measured, made, copy, repeated, long, found, isShare⟩

/-- A number that is no length can be decoded but not be a number of copies, and a
duration out of range cannot be shortened. -/
theorem unfit_copies_overflow :
    (RepeatShape.ofValue (.int (10 ^ 30) : Value Float) 0 = .ok (.count (10 ^ 30)) ∧
      (repeatBy (⟨[], .bool false⟩ : Melody Float) (.int (10 ^ 30))
        (.bool false)).outcome = .error .overflow) ∧
      (repeatBy (⟨[⟨.text "A", .int 0, .int 0, .int (10 ^ 400)⟩], .bool false⟩ :
        Melody Float) (.int 1) (.bool true)).outcome = .error .overflow :=
  ⟨⟨rfl, Attempt.eq_of_overflows (by decide +kernel)⟩,
    Attempt.eq_of_overflows (by decide +kernel)⟩

end Melody
end MelodyAutomation

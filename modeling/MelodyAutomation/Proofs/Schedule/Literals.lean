import MelodyAutomation.Instrument
import MelodyAutomation.Proofs.Schedule.AlikeItems
import MelodyAutomation.Proofs.Schedule.Reference

/-!
# Literals and melodies

A composition is a list of note literals or a melody, and the two are normalized in
different ways: of a literal the fields are read at once, while a melody is made of
notes, whose fields have defaults of their own, and which are copied to their ends with
every record inside them turned into a map. The items that result are alike.

The main result is that literals are scheduled as the melody that they stand for is, as
long as its notes have an end. A pitch class that cannot be shown stands for no note, and
it cannot be scheduled either.
-/

namespace MelodyAutomation

variable {R : Type} [Machine R]

namespace Note

/-- Whether a note literal gives a field: one of its keys stands for the field, with a
value that is not null. -/
def gives (entries : Entries R) (field : String) : Bool :=
  entries.any fun entry =>
    !entry.2.isNull && (fieldName entry.1).isText field

/-- The fields of a note literal are those that it gives. -/
theorem isSome_get?_resolveFields
    (entries : Entries R)
    (field : String) :
    ((resolveFields entries).get? field).isSome = gives entries field := by
  rw [Entries.isSome_get?, resolveFields, Keyed.hasName_ofList, Keyed.hasName,
    List.any_map, List.any_filter]
  rfl

/-- The pitch class that a literal gives can be shown. -/
def IsShown (entries : Entries R) : Prop :=
  ∀ pitch, LastGiven "pitch_class" entries pitch → pitch.obstacle? = none

/-- The pitch class that a literal gives cannot be shown. -/
def IsUnshown (obstacle : Value.Obstacle) (entries : Entries R) : Prop :=
  ∃ pitch, LastGiven "pitch_class" entries pitch ∧ pitch.obstacle? = some obstacle

theorem get?_pitch_eq_some {entries : Entries R} {pitch : Value R} :
    (resolveFields entries).get? "pitch_class" = some pitch ↔
      LastGiven "pitch_class" entries pitch :=
  get?_resolveFields_eq_some (by decide)

instance (entries : Entries R) : Decidable (IsShown entries) :=
  decidable_of_iff (∀ pitch ∈ (resolveFields entries).get? "pitch_class",
      pitch.obstacle? = none)
    (by simp only [Option.mem_def, get?_pitch_eq_some, IsShown])

instance (obstacle : Value.Obstacle) (entries : Entries R) :
    Decidable (IsUnshown obstacle entries) :=
  decidable_of_iff (∃ pitch ∈ (resolveFields entries).get? "pitch_class",
      pitch.obstacle? = some obstacle)
    (by simp only [Option.mem_def, get?_pitch_eq_some, IsUnshown])

/-- A literal that gives a pitch class stands for a note if this can be shown. -/
theorem ofValue_map_of_get?
    {entries : Entries R}
    {pitch : Value R}
    (found : (resolveFields entries).get? "pitch_class" = some pitch) :
    ofValue (.map entries) = ofFields pitch (resolveFields entries) := by
  simp [ofValue, ofRecord?, found]

theorem exists_ofValue_map
    {entries : Entries R}
    (pitched : gives entries "pitch_class")
    (shown : IsShown entries) :
    ∃ note, ofValue (.map entries) = .ok note := by
  rw [← isSome_get?_resolveFields] at pitched
  obtain ⟨pitch, found⟩ := Option.isSome_iff_exists.mp pitched
  have named : shownText pitch = .ok pitch.display :=
    shownText_eq_ok.2 ⟨shown pitch (get?_pitch_eq_some.1 found), rfl⟩
  exact ⟨_, by rw [ofValue_map_of_get? found, ofFields, named]; rfl⟩

theorem ofValue_map_of_unshown
    {entries : Entries R}
    {obstacle : Value.Obstacle}
    (unshown : IsUnshown obstacle entries) :
    ofValue (.map entries) = .error (obstacleFailure obstacle) := by
  obtain ⟨pitch, given, unshown⟩ := unshown
  rw [ofValue_map_of_get? (get?_pitch_eq_some.2 given), ofFields,
    shownText_of_obstacle unshown]
  rfl

/-- Literals whose pitch classes are given and can be shown stand for notes. -/
theorem exists_notes
    {literals : List (Entries R)}
    (pitched : ∀ entries ∈ literals, gives entries "pitch_class")
    (shown : ∀ entries ∈ literals, IsShown entries) :
    ∃ notes, (literals.map Value.map).mapM ofValue = .ok notes := by
  refine Attempt.exists_mapM.2 fun literal member => ?_
  obtain ⟨entries, inside, rfl⟩ := List.mem_map.1 member
  exact exists_ofValue_map (pitched entries inside) (shown entries inside)

omit [Machine R] in
/-- No other key stands for the delay. -/
theorem isText_delay_fieldName (key : Value R) :
    (fieldName key).isText "delay" = key.isText "delay" := by
  unfold fieldName
  split <;> simp

/-- A literal without the key of the delay has no delay. -/
theorem get?_delay_of_undelayed
    {entries : Entries R}
    (undelayed : Keyed.hasName entries "delay" = false) :
    (resolveFields entries).get? "delay" = none := by
  rw [← Option.not_isSome_iff_eq_none, isSome_get?_resolveFields, gives]
  intro given
  obtain ⟨entry, member, named⟩ := List.any_eq_true.mp given
  rw [isText_delay_fieldName, Bool.and_eq_true] at named
  rw [Keyed.hasName, List.any_eq_false] at undelayed
  exact undelayed entry member named.2

end Note

/-- A list of literals is the melody of the notes that they stand for. -/
theorem Melody.ofValue_list (literals : List (Value R)) (strict : Value R) :
    ofValue (.list literals) strict =
      literals.mapM Note.ofValue >>= fun notes => .ok ⟨notes, strict⟩ := rfl

namespace Scheduler

variable {scheduler : Scheduler R}

/-- A beat is as long whether it is counted as a whole number or as a scalar, if
beats are measured by a scalar. -/
theorem beatsToMs_one
    (unit : Scalar.ofInt? (R := R) 1 = some Scalar.one)
    {beat : R}
    (measured : scheduler.msPerBeat = .real beat) :
    scheduler.beatsToMs (.int 1) =
      scheduler.beatsToMs Note.defaultDuration := by
  simp [beatsToMs, Note.defaultDuration, measured, Value.mul, Value.number?,
    Value.arithmetic, Value.toNumber, Number.mul, Number.combine,
    Number.toScalar, unit]

/-- The duration of a literal is alike to that of the note that it stands for. -/
theorem duration_alike
    (unit : Scalar.ofInt? (R := R) 1 = some Scalar.one)
    {entries : Entries R}
    (timed : (∃ beat, scheduler.msPerBeat = .real beat) ∨
      Note.gives entries "duration") :
    Attempt.Parallel Value.Alike
      (scheduler.beatsToMs
        (((Note.resolveFields entries).get? "duration").getD (.int 1)))
      (scheduler.beatsToMs
        (((Note.resolveFields entries).get? "duration").getD
          Note.defaultDuration).flatten) := by
  cases given : (Note.resolveFields entries).get? "duration" with
  | some duration => exact (Value.Alike.of_flatten duration).mul (.refl _)
  | none =>
      rcases timed with ⟨beat, measured⟩ | gives
      -- The two defaults are one beat, as a whole number and as a scalar.
      · rw [Option.getD_none, Option.getD_none, beatsToMs_one unit measured]
        exact (Value.Alike.of_flatten _).mul (.refl _)
      · rw [← Note.isSome_get?_resolveFields, given] at gives
        cases gives

/-- A literal and the note that it stands for are alike as items. -/
theorem normalizeItem_alike
    (unit : Scalar.ofInt? (R := R) 1 = some Scalar.one)
    {entries : Entries R}
    {note : Note R}
    (pitched : Note.gives entries "pitch_class")
    (made : Note.ofValue (.map entries) = .ok note)
    (timed : (∃ beat, scheduler.msPerBeat = .real beat) ∨
      Note.gives entries "duration")
    (undelayed : Keyed.hasName entries "delay" = false)
    (ends : note.toValue.hasEnd) :
    Attempt.Parallel CompositionItem.Alike
      (scheduler.normalizeItem (.map entries))
      (scheduler.normalizeItem note.toValue) := by
  rw [← Note.isSome_get?_resolveFields] at pitched
  obtain ⟨pitch, found⟩ := Option.isSome_iff_exists.mp pitched
  rw [Note.ofValue_map_of_get? found, Note.ofFields] at made
  simp only [Attempt.bind_eq_ok, Except.ok.injEq] at made
  obtain ⟨name, named, rfl⟩ := made
  have fields : itemFields (.map entries) = .ok (Note.resolveFields entries) := rfl
  have again : shownText (Value.text name : Value R).flatten = .ok name :=
    shownText_eq_ok.2 ⟨Value.obstacle?_text name, rfl⟩
  rw [normalizeItem_toValue, if_pos ends, normalizeItem, fields, Attempt.ok_bind,
    Note.get?_delay_of_undelayed undelayed, found, Option.getD_some, named, again,
    Attempt.ok_bind, Attempt.ok_bind]
  apply (duration_alike unit timed).bind
  intro duration duration' durations
  apply (Attempt.Parallel.refl _).bind
  rintro delay _ rfl
  exact .ok ⟨rfl, .of_flatten _, .of_flatten _, durations, rfl, rfl⟩

/-- Literals and the notes that they stand for are scheduled alike. -/
theorem schedule_literals
    (unit : Scalar.ofInt? (R := R) 1 = some Scalar.one)
    {literals : List (Entries R)}
    {notes : List (Note R)}
    (pitched : ∀ entries ∈ literals, Note.gives entries "pitch_class")
    (made : (literals.map Value.map).mapM Note.ofValue = .ok notes)
    (timed : (∃ beat, scheduler.msPerBeat = .real beat) ∨
      ∀ entries ∈ literals, Note.gives entries "duration")
    (undelayed : ∀ entries ∈ literals, Keyed.hasName entries "delay" = false)
    (ends : ∀ note ∈ notes, note.toValue.hasEnd) :
    scheduler.schedule (.list (literals.map .map)) =
      scheduler.schedule (.list (notes.map Note.toValue)) := by
  have items : List.Forall₂
      (fun literal note => Attempt.Parallel CompositionItem.Alike
        (scheduler.normalizeItem literal) (scheduler.normalizeItem note))
      (literals.map .map) (notes.map Note.toValue) := by
    rw [Attempt.mapM_eq_ok, List.forall₂_map_left_iff] at made
    obtain ⟨lengths, each⟩ := List.forall₂_iff_zip.mp made
    rw [List.forall₂_map_left_iff, List.forall₂_map_right_iff,
      List.forall₂_iff_zip]
    refine ⟨lengths, fun paired => ?_⟩
    obtain ⟨given, inMelody⟩ := List.of_mem_zip paired
    exact normalizeItem_alike unit (pitched _ given) (each paired)
      (timed.imp_right fun all => all _ given) (undelayed _ given)
      (ends _ inMelody)
  have normalized := Attempt.Parallel.mapM items fun _ _ own => own
  simp only [schedule, normalize, Value.toItems_list, Attempt.ok_bind]
  -- The two lists of attempts are known by their outcomes only from here on.
  generalize (literals.map Value.map).mapM scheduler.normalizeItem = first
    at normalized
  generalize (notes.map Note.toValue).mapM scheduler.normalizeItem = second
    at normalized
  cases normalized with
  | error failure => rfl
  | ok alike =>
      simp only [Attempt.ok_bind, Logged.liftM_ok, pure_bind]
      exact scheduleItems_alike (flagEnds_alike alike)

/-- A literal whose pitch class cannot be shown is refused for that. -/
theorem normalizeItem_of_unshown
    (scheduler : Scheduler R)
    {entries : Entries R}
    {obstacle : Value.Obstacle}
    (unshown : Note.IsUnshown obstacle entries) :
    scheduler.normalizeItem (.map entries) = .error (obstacleFailure obstacle) := by
  obtain ⟨pitch, given, unshown⟩ := unshown
  have fields : itemFields (.map entries) = .ok (Note.resolveFields entries) := rfl
  rw [normalizeItem, fields, Attempt.ok_bind, Note.get?_pitch_eq_some.2 given,
    Option.getD_some, shownText_of_obstacle unshown]
  rfl

/-- Literals of which one cannot be shown are not scheduled. If those in front of it are
in order, what cannot be shown is what they are refused for. -/
theorem schedule_of_unshown
    {before after : List (Entries R)}
    {entries : Entries R}
    {obstacle : Value.Obstacle}
    (unshown : Note.IsUnshown obstacle entries) :
    ∃ failure,
      scheduler.schedule (.list ((before ++ entries :: after).map .map)) =
        .refuse failure ∧
      ((∃ items, scheduler.normalize (.list (before.map .map)) = .ok items) →
        failure = obstacleFailure obstacle) := by
  have refused := Attempt.mapM_append_of_error
    (scheduler.normalizeItem_of_unshown unshown)
    (before.map .map) (after.map .map)
  simp only [schedule, normalize, Value.toItems_list, Attempt.ok_bind, List.map_append,
    List.map_cons, refused]
  cases (before.map Value.map).mapM scheduler.normalizeItem with
  | error failure =>
      refine ⟨failure, rfl, ?_⟩
      rintro ⟨items, made⟩
      cases made
  | ok items => exact ⟨_, rfl, fun _ => rfl⟩

/-- What is made of note literals and of the melody that they stand for. -/
structure SchedulesAlike (scheduler : Scheduler R) (literals : List (Entries R))
    (strict : Value R) : Prop where
  /-- If all pitch classes can be shown, the literals stand for a melody, and they are
  scheduled as that melody is, as long as its notes can be followed to their ends: the
  same schedule is made or the same failure arises, and the same is reported. -/
  shown : (∀ entries ∈ literals, Note.IsShown entries) →
    ∃ melody,
      Melody.ofValue (.list (literals.map .map)) strict = .ok melody ∧
      ((∀ note ∈ melody.notes, note.toValue.hasEnd) →
        scheduler.schedule (.list (literals.map .map)) =
          scheduler.schedule melody.composition)
  /-- The first pitch class that cannot be shown is in the way of the melody, and the
  literals are not scheduled either: if those in front of it are in order, it is in their
  way as well. -/
  unshown : ∀ before entries after obstacle,
    literals = before ++ entries :: after →
    (∀ other ∈ before, Note.IsShown other) →
    Note.IsUnshown obstacle entries →
    Melody.ofValue (.list (literals.map .map)) strict =
        .error (obstacleFailure obstacle) ∧
      ∃ failure, scheduler.schedule (.list (literals.map .map)) = .refuse failure ∧
        ((∃ items, scheduler.normalize (.list (before.map .map)) = .ok items) →
          failure = obstacleFailure obstacle)

/-- A C whose pitch class is given twice and whose octave is null, and a rest that is
given as a number; both have keys that name no field. -/
def untidyLiterals : List (Entries Float) :=
  [[(.text "duration", .real 0.5), (.text "pitch_class", .text "B"),
      (.text "oct", .null), (.text "colour", .list []), (.text "note", .text "C"),
      (.text "ht", .bool true)],
    [(.int 7, .null), (.text "note", .int 0), (.text "duration", .int 2)]]

/-- An A, and a pitch class of too many digits. -/
def overlongLiterals : List (Entries Float) :=
  [[(.text "note", .text "A"), (.text "duration", .int 1)],
    [(.text "note", .int Value.overlong), (.text "duration", .int 1)]]

/-- A list that contains itself. -/
def endlessList : Value Float :=
  .circular 0 fun _ => .list [.circular 0 fun _ => .list []]

/-- An A whose octave is a list that contains itself. -/
def endlessOctave : Entries Float :=
  [(.text "note", .text "A"), (.text "duration", .int 1),
    (.text "oct", endlessList)]

/-- An A whose duration is a map, and a pitch class of too many digits. -/
def timelessLiterals : List (Entries Float) :=
  [[(.text "note", .text "A"), (.text "duration", .map [])],
    [(.text "note", .int Value.overlong), (.text "duration", .int 1)]]

end Scheduler
end MelodyAutomation

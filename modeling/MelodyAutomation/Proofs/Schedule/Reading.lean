import MelodyAutomation.Proofs.Schedule.Laying
import MelodyAutomation.Proofs.Value.Keys
import MelodyAutomation.Proofs.Value.Obstacles
import MelodyAutomation.Proofs.Value.Scalars

/-!
# Reading compositions

What the items of a composition say is read off them here, without normalizing them. A
note says what its fields are. A literal gives a field under the name of the field or
under a short one; the last entry that is not null counts, and a field that no entry
gives has a default. The frequency of a pitch class is a formula over its distance from
the A in octave zero.

The main results are that a normalized item is what its literal says, and that a
frequency that is computed is the one of the formula.
-/

namespace MelodyAutomation

variable {R : Type}

/-! ## The fields of a literal -/

namespace Note

/-- The names under which a literal can give a field. -/
def namesOf : String → List String
  | "pitch_class" => ["pitch_class", "note"]
  | "halfstep_offset" => ["halfstep_offset", "ht"]
  | "octave" => ["octave", "oct"]
  | field => [field]

/-- A key stands for a field. -/
def Names (field : String) (key : Value R) : Prop :=
  ∃ name ∈ namesOf field, key = .text name

/-- No entry gives a field a value that is not null. -/
def Silent (field : String) (entries : Entries R) : Prop :=
  ∀ entry ∈ entries, Names field entry.1 → entry.2.isNull = true

/-- A value that is not null is the last one that some entries give a field. -/
def LastGiven (field : String) (entries : Entries R) (value : Value R) : Prop :=
  ∃ before key after, entries = before ++ (key, value) :: after ∧
    Names field key ∧ value.isNull = false ∧ Silent field after

/-- A field has the value that is given last, or its default if none is given. -/
def HasField (field : String) (entries : Entries R) (default value : Value R) : Prop :=
  LastGiven field entries value ∨ Silent field entries ∧ value = default

/-- Resolving a key leads to the field that it stands for, unless the field is called
like a short name. -/
theorem names_iff
    {field : String}
    (full : field ∉ ["note", "ht", "oct"])
    {key : Value R} :
    Names field key ↔ (fieldName key).isText field := by
  simp only [List.mem_cons, List.not_mem_nil, or_false, not_or] at full
  obtain ⟨notNote, notHalfstep, notOctave⟩ := full
  rw [Value.isText_iff]
  unfold Names namesOf fieldName
  split <;> split <;> simp_all
  all_goals exact iff_of_false (Ne.symm ‹_›) (Ne.symm ‹_›)

section

variable [Scalar R] {field : String} (full : field ∉ ["note", "ht", "oct"])
include full

omit full in
/-- Among the entries that are not null, the last one under a field is kept. -/
theorem get?_resolveFields (entries : Entries R) :
    (resolveFields entries).get? field =
      (entries.reverse.find? fun entry =>
        !entry.2.isNull && (fieldName entry.1).isText field).map Prod.snd := by
  rw [resolveFields, Keyed.get?_ofList, Entries.get?, ← List.map_reverse,
    ← List.filter_reverse, List.find?_map, List.find?_filter, Option.map_map]
  simp [Function.comp_def]

omit [Scalar R] in
theorem silent_iff {entries : Entries R} :
    Silent field entries ↔ ∀ entry ∈ entries,
      (!entry.2.isNull && (fieldName entry.1).isText field) = false := by
  refine forall₂_congr fun entry _ => ?_
  rw [names_iff full]
  cases entry.2.isNull <;> simp

theorem get?_resolveFields_eq_none {entries : Entries R} :
    (resolveFields entries).get? field = none ↔ Silent field entries := by
  rw [get?_resolveFields, silent_iff full]
  simp only [Option.map_eq_none_iff, List.find?_eq_none, List.mem_reverse,
    Bool.not_eq_true]

theorem get?_resolveFields_eq_some {entries : Entries R} {value : Value R} :
    (resolveFields entries).get? field = some value ↔ LastGiven field entries value := by
  rw [get?_resolveFields, Option.map_eq_some_iff]
  simp only [List.find?_eq_some_iff_append, Bool.and_eq_true, Bool.not_eq_true',
    ← names_iff full]
  constructor
  · rintro ⟨⟨key, value⟩, ⟨⟨present, names⟩, after, before, split, others⟩, rfl⟩
    refine ⟨before.reverse, key, after.reverse, ?_, names, present,
      (silent_iff full).2 fun entry member => others entry (List.mem_reverse.1 member)⟩
    simpa using congrArg List.reverse split
  · rintro ⟨before, key, after, rfl, names, present, silent⟩
    refine ⟨(key, value), ⟨⟨present, names⟩, after.reverse, before.reverse, by simp, ?_⟩,
      rfl⟩
    exact fun entry member => (silent_iff full).1 silent entry (List.mem_reverse.1 member)

/-- What is read of a literal is its field. -/
theorem hasField_getD (entries : Entries R) (default : Value R) :
    HasField field entries default (((resolveFields entries).get? field).getD default) := by
  cases found : (resolveFields entries).get? field with
  | some value => exact .inl ((get?_resolveFields_eq_some full).1 found)
  | none => exact .inr ⟨(get?_resolveFields_eq_none full).1 found, rfl⟩

end

end Note

/-! ## What is said -/

/-- What an item of a composition says: its pitch class, its octave, its offset in
halfsteps and its duration in beats. -/
structure Wording (R : Type) where
  pitch : Value R
  octave : Value R
  offset : Value R
  beats : Value R

/-- An item of a composition conveys a wording. -/
inductive Conveys : Value R → Wording R → Prop
  /-- A note says what its fields are, with all records inside them as maps. -/
  | note (note : Note R) :
      Conveys note.toValue
        ⟨note.pitch.flatten, note.octave.flatten, note.offset.flatten,
          note.duration.flatten⟩
  /-- A literal says what it gives, and the defaults for what it does not give. -/
  | literal {item : Value R} {entries : Entries R} {wording : Wording R}
      (isMap : item.exposed = .map entries)
      (pitch : Note.HasField "pitch_class" entries (.text "A") wording.pitch)
      (octave : Note.HasField "octave" entries (.int 0) wording.octave)
      (offset : Note.HasField "halfstep_offset" entries (.int 0) wording.offset)
      (beats : Note.HasField "duration" entries (.int 1) wording.beats) :
      Conveys item wording

theorem Note.eq_toValue_of_ofRecord?
    {value : Value R}
    {note : Note R}
    (isNote : ofRecord? value = some note) :
    value = note.toValue := by
  unfold ofRecord? at isNote
  split at isNote
  · cases isNote
    rfl
  · cases isNote

theorem Value.toEntries_eq_ok {value : Value R} {entries : Entries R} :
    value.toEntries = .ok entries ↔ value.exposed = .map entries := by
  unfold toEntries
  split
  next found => simp [found]
  next noMap => exact iff_of_false nofun (noMap entries)

variable [Machine R]

/-- An item of a normalized composition is what is said: its pitch class is shown, and
its duration is in milliseconds. -/
structure CompositionItem.Renders (item : CompositionItem R) (scheduler : Scheduler R)
    (wording : Wording R) : Prop where
  pitch : item.pitch = wording.pitch.display
  octave : item.octave = wording.octave
  offset : item.offset = wording.offset
  duration : wording.beats.mul scheduler.msPerBeat = .ok item.duration

namespace Scheduler

/-- The length of an item is what its duration counts as. -/
theorem countsAs_of_itemLength
    {item : CompositionItem R}
    {length : R}
    (measured : itemLength item = .ok length) :
    item.duration.CountsAs length :=
  Attempt.bind_eq_ok.1 measured

/-- A normalized item is what its literal says. -/
theorem exists_wording
    {scheduler : Scheduler R}
    {literal : Value R}
    {item : CompositionItem R}
    (normalized : scheduler.normalizeItem literal = .ok item) :
    ∃ wording, Conveys literal wording ∧ item.Renders scheduler wording := by
  cases isNote : Note.ofRecord? literal with
  | some note =>
      obtain rfl := Note.eq_toValue_of_ofRecord? isNote
      rw [normalizeItem_toValue] at normalized
      split_ifs at normalized
      simp only [Attempt.bind_eq_ok, Except.ok.injEq, shownText_eq_ok] at normalized
      obtain ⟨_, ⟨-, rfl⟩, duration, ofBeats, _, -, rfl⟩ := normalized
      exact ⟨_, .note note, rfl, rfl, rfl, ofBeats⟩
  | none =>
      simp only [normalizeItem, itemFields, isNote, Attempt.bind_eq_ok, Except.ok.injEq,
        shownText_eq_ok] at normalized
      obtain ⟨_, ⟨entries, mapped, rfl⟩, _, ⟨-, rfl⟩, duration, ofBeats, _, -, rfl⟩ :=
        normalized
      exact ⟨⟨_, _, _, _⟩, .literal (Value.toEntries_eq_ok.1 mapped)
        (Note.hasField_getD (by decide) entries _)
        (Note.hasField_getD (by decide) entries _)
        (Note.hasField_getD (by decide) entries _)
        (Note.hasField_getD (by decide) entries _), rfl, rfl, rfl, ofBeats⟩

end Scheduler

namespace Pitch

/-- The frequency of a pitch class by the formula. A rest has none that is heard, and an
unknown name has none at all. -/
inductive IsFrequency (base : Value R) (name : String) (octave offset : Value R) :
    Option (Value R) → Prop
  | rest (isRest : name = "0") :
      IsFrequency base name octave offset (some (.real Scalar.zero))
  | unknown (noRest : name ≠ "0") (noClass : name ∉ classes) :
      IsFrequency base name octave offset none
  | pitched {index : Nat} {shifted octaves halfsteps frequency : Value R} {exponent : R}
      (isClass : classes[index]? = some name)
      (ofOffset : (Value.int index).add offset = .ok shifted)
      (ofOctave : octave.mul (.int 12) = .ok octaves)
      (ofBoth : shifted.add octaves = .ok halfsteps)
      (divided : halfsteps.div (.int 12) = .ok exponent)
      (scaled : (Value.real (Scalar.exp2 exponent)).mul base = .ok frequency) :
      IsFrequency base name octave offset (some frequency)

theorem halfsteps?_eq_some {name : String} {index : Nat}
    (found : halfsteps? name = some index) :
    classes[index]? = some name := by
  simp only [halfsteps?, Option.ite_none_right_eq_some, Option.some.injEq] at found
  obtain ⟨within, rfl⟩ := found
  have same := List.findIdx_getElem (w := within)
  rw [List.getElem?_eq_getElem within]
  simpa using same

theorem halfsteps?_eq_none {name : String} (unknown : halfsteps? name = none) :
    name ∉ classes := by
  intro member
  have within : classes.findIdx (fun own => own == name) < classes.length :=
    List.findIdx_lt_length_of_exists ⟨name, member, beq_self_eq_true name⟩
  rw [halfsteps?, if_pos within] at unknown
  cases unknown

theorem eq_exp2_of_powerOfTwo {exponent power : R}
    (computed : powerOfTwo exponent = .ok power) :
    power = Scalar.exp2 exponent := by
  unfold powerOfTwo Scalar.bounded? at computed
  dsimp only at computed
  split at computed
  next found =>
      split at found <;> cases found
      cases computed
      rfl
  next => cases computed

/-- A frequency that is computed is the one of the formula. -/
theorem isFrequency_of_frequency?
    {base : Value R}
    {name : String}
    {octave offset : Value R}
    {frequency : Option (Value R)}
    (found : frequency? (.text name) octave offset base = .ok frequency) :
    IsFrequency base name octave offset frequency := by
  unfold frequency? at found
  split at found
  next isRest =>
      cases found
      exact .rest (by simpa [rest] using isRest)
  next noRest =>
      rw [if_pos (Value.isHashable_text name)] at found
      split at found
      next unknown =>
          cases found
          exact .unknown (by simpa [rest] using noRest) (halfsteps?_eq_none unknown)
      next index known =>
          simp only [Attempt.bind_eq_ok, Except.ok.injEq, distance, frequencyAt] at found
          obtain ⟨halfsteps, ⟨shifted, ofOffset, octaves, ofOctave, ofBoth⟩, scaled,
            ⟨exponent, divided, power, ofPower, multiplied⟩, rfl⟩ := found
          obtain rfl := eq_exp2_of_powerOfTwo ofPower
          exact .pitched (halfsteps?_eq_some known) ofOffset ofOctave ofBoth divided multiplied

end Pitch
end MelodyAutomation

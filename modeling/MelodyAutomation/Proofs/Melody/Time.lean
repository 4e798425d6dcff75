import MelodyAutomation.Proofs.Melody.Copies
import MelodyAutomation.Proofs.Value.Rationals
import Mathlib.Algebra.BigOperators.Ring.List
import Mathlib.Algebra.Order.Ring.Rat
import Mathlib.Algebra.Field.Basic

/-!
# Musical time

In the exact reading the shares of a note add up to its duration. So a melody that is
repeated to fit lasts as long as before, however often it is repeated, and a melody
that is looped lasts as many times as long. When every note is repeated by itself, the
copies of each note fill its time, and only the time of the notes without copies is
lost.
-/

namespace MelodyAutomation

/-! ## How long notes last -/

/-- A share of a note lasts its share of the time. -/
theorem Note.IsShare.countsAs
    [Limits]
    {count : Nat}
    (positive : 0 < count)
    {note copy : Note Rat}
    (isShare : note.IsShare count copy)
    {duration : Rat}
    (counts : note.duration.CountsAs duration) :
    copy.duration.CountsAs (duration / count) := by
  obtain ⟨factor, divided, multiplied, -⟩ := isShare
  obtain ⟨scalar, own, product⟩ := Value.mul_real_eq_ok.1 multiplied
  obtain rfl := own.unique counts
  have nonzero : (count : Int) ≠ 0 := by omega
  have exact := Number.divWhole_rat 1 nonzero
  obtain rfl := Except.ok.inj (divided.symm.trans exact)
  rw [product, Value.countsAs_real, Scalar.mul_rat]
  push_cast
  exact mul_one_div _ _

/-- The durations of notes are numbers, which add up to a total. -/
def NotesLast (notes : List (Note Rat)) (total : Rat) : Prop :=
  ∃ durations, List.Forall₂ (fun note duration => note.duration.CountsAs duration)
    notes durations ∧ durations.sum = total

namespace NotesLast

variable {notes others : List (Note Rat)} {total more : Rat}

theorem nil : NotesLast [] 0 := ⟨[], .nil, rfl⟩

/-- Notes in a row last as long as all of them together. -/
theorem append (lasts : NotesLast notes total) (last : NotesLast others more) :
    NotesLast (notes ++ others) (total + more) := by
  obtain ⟨durations, counts, rfl⟩ := lasts
  obtain ⟨later, countsLater, rfl⟩ := last
  exact ⟨durations ++ later, List.rel_append counts countsLater, List.sum_append⟩

/-- Copies of all notes last as many times as long. -/
theorem copies (lasts : NotesLast notes total) (times : Nat) :
    NotesLast (List.replicate times notes).flatten (times * total) := by
  induction times with
  | zero => simpa using nil
  | succ times hypothesis =>
      rw [List.replicate_succ, List.flatten_cons, Nat.cast_succ, add_one_mul,
        add_comm]
      exact lasts.append hypothesis

/-- Notes that are all shortened to their shares last their share of the time. -/
theorem shares
    [Limits]
    (lasts : NotesLast notes total)
    {count : Nat}
    (positive : 0 < count)
    (shortened : List.Forall₂ (Note.IsShare count) notes others) :
    NotesLast others (total / count) := by
  obtain ⟨durations, counts, rfl⟩ := lasts
  refine ⟨durations.map (· / count), ?_, ?_⟩
  · induction counts generalizing others with
    | nil =>
        cases shortened
        exact .nil
    | cons own _ hypothesis =>
        cases shortened with
        | cons isShare rest =>
            exact .cons (isShare.countsAs positive own) (hypothesis rest)
  · simp only [div_eq_mul_inv, List.sum_map_mul_right, List.map_id']

/-- A note that is split into copies lasts as long as all of them together. -/
theorem split
    [Limits]
    {note : Note Rat}
    {duration : Rat}
    (counts : note.duration.CountsAs duration)
    {count : Nat}
    (positive : 0 < count)
    (splits : note.SplitsInto count others) :
    NotesLast others duration := by
  have single : NotesLast [note] duration :=
    ⟨[duration], .cons counts .nil, List.sum_singleton⟩
  have whole : NotesLast (List.replicate count note) (count * duration) := by
    simpa using single.copies count
  have nonzero : (count : Rat) ≠ 0 := by exact_mod_cast positive.ne'
  have fitted := whole.shares positive (Note.splitsInto_iff.1 splits)
  rwa [mul_div_cancel_left₀ _ nonzero] at fitted

end NotesLast

namespace Melody

/-- A melody lasts a number of beats. -/
def Lasts [Limits] (melody : Melody Rat) (total : Rat) : Prop :=
  ∃ value, melody.totalDuration = .ok value ∧ value.CountsAs total

/-- The sum of the durations of the notes, from left to right, is how long they last. -/
theorem lasts_of_notesLast
    [Limits]
    {melody : Melody Rat}
    {total : Rat}
    (lasts : NotesLast melody.notes total) :
    melody.Lasts total := by
  obtain ⟨durations, counts, rfl⟩ := lasts
  unfold Lasts totalDuration
  generalize melody.notes = notes at counts ⊢
  -- Any start will do, because every step goes on from the sum so far.
  have sum (start : Value Rat) (first : Rat) (begins : start.CountsAs first) :
      ∃ value,
        notes.foldlM (fun total note => total.add note.duration) start = .ok value ∧
          value.CountsAs (first + durations.sum) := by
    induction counts generalizing start first with
    | nil => exact ⟨start, rfl, by simpa using begins⟩
    | @cons note duration notes durations own _ hypothesis =>
        obtain ⟨next, added, counted⟩ := Value.exists_add begins own
        obtain ⟨value, summed, countsAs⟩ := hypothesis next _ counted
        refine ⟨value, ?_, ?_⟩
        · rw [List.foldlM_cons, added, Attempt.ok_bind, summed]
        · rwa [List.sum_cons, ← add_assoc]
  simpa using sum (.int 0) 0 ⟨.whole 0, rfl, rfl⟩

/-- What becomes of the notes when each is split into its copies lasts as long as the
notes that have copies. -/
theorem notesLast_groups
    [Limits]
    {notes : List (Note Rat)}
    {durations : List Rat}
    (lasts : List.Forall₂ (fun note duration => note.duration.CountsAs duration)
      notes durations)
    {counts : List Nat}
    {groups : List (List (Note Rat))}
    (related : List.Forall₂
      (fun entry group => repeatWhole [entry.1] entry.2 true = .ok group)
      (notes.zip counts) groups) :
    NotesLast groups.flatten
      (List.zipWith (fun duration count => if 0 < count then duration else 0)
        durations counts).sum := by
  induction lasts generalizing counts groups with
  | nil =>
      cases related
      exact .nil
  | @cons note duration notes durations own _ hypothesis =>
      cases counts with
      | nil =>
          cases related
          exact .nil
      | cons count counts =>
          cases related with
          | cons single others =>
              rw [List.flatten_cons, List.zipWith_cons_cons, List.sum_cons]
              refine NotesLast.append ?_ (hypothesis others)
              have splits := (repeatWhole_singleton_eq_ok.1 single).2
              by_cases positive : 0 < count
              · rw [if_pos positive]
                exact NotesLast.split own positive splits
              · obtain rfl : count = 0 := by omega
                obtain rfl := List.eq_nil_of_length_eq_zero splits.1
                exact .nil

/-- How long a melody lasts when it is repeated, if the durations of its notes are
known. -/
structure KeepsTime [Limits] (melody : Melody Rat) (durations : List Rat) : Prop where
  /-- The melody itself lasts as long as its notes together. -/
  own : melody.Lasts durations.sum
  /-- Repeated to fit, it lasts as long as before. -/
  repeated : ∀ times : Nat, 0 < times → HasRoom Rat melody.length times →
    ∃ made, melody.repeatBy (.int times) (.bool true) = pure made ∧
      made.Lasts durations.sum
  /-- Looped, it lasts as many times as long. -/
  looped : ∀ times : Nat, 0 < times → HasRoom Rat melody.length times →
    ∃ made, melody.loop (.int times) = pure made ∧
      made.Lasts (times * durations.sum)
  /-- Repeated note by note, the copies of each note fill its time. -/
  filled : ∀ shape fit counts,
    RepeatShape.ofValue shape melody.length = .ok (.perElement counts) →
    (∀ count ∈ counts, HasRoom Rat 1 count) →
    ∃ groups : List (List (Note Rat)),
      melody.repeatBy shape fit = pure (melody.withNotes groups.flatten) ∧
      groups.length = melody.length ∧
      (∀ (index : Nat) (note : Note Rat) (count : Nat) (duration : Rat),
        melody.notes[index]? = some note → counts[index]? = some count →
        durations[index]? = some duration →
        ∃ group, groups[index]? = some group ∧ note.SplitsInto count group ∧
          (0 < count → (melody.withNotes group).Lasts duration)) ∧
      (melody.withNotes groups.flatten).Lasts
        (List.zipWith (fun duration count => if 0 < count then duration else 0)
          durations counts).sum

theorem hasShares_rat [Limits] : HasShares Rat :=
  fun _ positive => ⟨_, Number.divWhole_rat 1 (by omega)⟩

/-- Repeating a melody keeps its time. -/
theorem keeps_time
    [Limits]
    {melody : Melody Rat}
    {durations : List Rat}
    (lasts : List.Forall₂ (fun note duration => note.duration.CountsAs duration)
      melody.notes durations) :
    melody.KeepsTime durations := by
  have notesLast : NotesLast melody.notes durations.sum := ⟨durations, lasts, rfl⟩
  have measured : ∀ note ∈ melody.notes, note.IsMeasured := by
    intro note member
    obtain ⟨index, found⟩ := List.mem_iff_getElem?.1 member
    obtain ⟨duration, -, counts⟩ := exists_related lasts found
    exact ⟨duration, counts⟩
  refine ⟨lasts_of_notesLast notesLast, fun times positive room => ?_,
    fun times positive room => ?_, fun shape fit counts decodes fits => ?_⟩
  · obtain ⟨made, copied⟩ :
        ∃ made, repeatNotes melody.notes (.bool true) (.count times) = .ok made :=
      (exists_repeatNotes_count hasShares_rat).2 ⟨room, fun _ _ => measured⟩
    refine ⟨_, (repeatBy_eq_pure (RepeatShape.ofValue_natCast times _)).2
      ⟨made, copied, rfl⟩, lasts_of_notesLast ?_⟩
    have nonzero : (times : Rat) ≠ 0 := by exact_mod_cast positive.ne'
    have fitted := (notesLast.copies times).shares positive (repeatWhole_eq_ok.1 copied).2
    rwa [mul_div_cancel_left₀ _ nonzero] at fitted
  · exact ⟨_, loop_eq_pure.2 ⟨room, rfl⟩, lasts_of_notesLast (notesLast.copies times)⟩
  · have long := RepeatShape.length_of_ofValue decodes
    obtain ⟨made, copied⟩ :
        ∃ made, repeatNotes melody.notes fit (.perElement counts) = .ok made := by
      refine (exists_repeatNotes_perElement hasShares_rat fits).2 fun entry member _ => ?_
      exact measured _ (List.of_mem_zip member).1
    obtain ⟨groups, rfl, related⟩ := repeatEach_eq_ok.1 copied
    refine ⟨groups, (repeatBy_eq_pure decodes).2 ⟨_, copied, rfl⟩, ?_, ?_,
      lasts_of_notesLast (notesLast_groups lasts related)⟩
    · rw [← related.length_eq, List.length_zip, long, length, Nat.min_self]
    · intro index note count duration ofNote ofCount ofDuration
      obtain ⟨group, ofGroup, splits⟩ := exists_group related ofNote ofCount
      refine ⟨group, ofGroup, splits, fun positive => lasts_of_notesLast ?_⟩
      obtain ⟨own, found, counted⟩ := exists_related lasts ofNote
      obtain rfl := Option.some.inj (found.symm.trans ofDuration)
      exact NotesLast.split counted positive splits

/-- A phrase with a rest in it. -/
def phrase : Melody Rat :=
  ⟨[⟨.text "A", .int 0, .int 4, .int 2⟩, ⟨.text "0", .int 0, .int 4, .real (3 / 4)⟩,
    ⟨.text "E", .int 3, .int 4, .int 1⟩], .bool false⟩

theorem keeps_time_of_phrase :
    List.Forall₂ (fun note duration => note.duration.CountsAs duration)
      phrase.notes [2, 3 / 4, 1] ∧
      phrase.KeepsTime [2, 3 / 4, 1] := by
  have lasts : List.Forall₂ (fun note duration => note.duration.CountsAs duration)
      phrase.notes [2, 3 / 4, 1] :=
    .cons ⟨.whole 2, rfl, rfl⟩
      (.cons (Value.countsAs_real.2 rfl) (.cons ⟨.whole 1, rfl, rfl⟩ .nil))
  exact ⟨lasts, keeps_time lasts⟩

/-- A number of copies that is no length cannot be made even of no notes, which last no
time. -/
theorem endless_silence_overflows :
    Melody.Lasts ⟨[], .bool false⟩ 0 ∧
      (repeatBy (⟨[], .bool false⟩ : Melody Rat) (.int (10 ^ 30))
        (.bool true)).outcome = .error .overflow :=
  ⟨lasts_of_notesLast NotesLast.nil, Attempt.eq_of_overflows (by decide +kernel)⟩

end Melody
end MelodyAutomation

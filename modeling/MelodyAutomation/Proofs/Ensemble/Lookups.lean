import MelodyAutomation.Proofs.Ensemble.History
import MelodyAutomation.Proofs.Ensemble.Names
import MelodyAutomation.Proofs.Ensemble.Noninterference

/-!
# Lookups of a performance

A performance finds all of its tracks before it plays any of them. One entry that
cannot be played is enough to refuse it, wherever it stands in the mapping and however
many tracks were found before, and then nothing has become of the ensemble: what was
found was only looked at.
-/

namespace MelodyAutomation
namespace Ensemble

section

variable {R : Type} [Machine R]

/-- An entry of a mapping cannot be played a number of times: one of its names is not
registered, or the number is no count for its melody, which is strict. -/
inductive Unplayable (ensemble : Ensemble R) (times : Value R)
    (entry : Value R × Value R) : Prop
  | withoutInstrument :
      ensemble.band.entries.lookup? entry.1 = none →
        Unplayable ensemble times entry
  | withoutMelody :
      ensemble.album.entries.lookup? entry.2 = none →
        Unplayable ensemble times entry
  | rejected {melody : Melody R} {fault : Misuse R} :
      ensemble.album.entries.lookup? entry.2 = some melody →
        melody.isStrict = true →
        RepeatShape.ofValue times melody.length = .error fault →
        Unplayable ensemble times entry

/-- A strict melody is not looped a number of times that is no count for it. -/
theorem loop_of_isStrict
    {melody : Melody R}
    (strict : melody.isStrict = true)
    {times : Value R}
    {fault : Misuse R}
    (faulty : RepeatShape.ofValue times melody.length = .error fault) :
    melody.loop times = .refuse (.misuse fault) := by
  rw [Melody.loop, Melody.repeatBy, faulty]
  exact if_pos (by rw [strict, Bool.true_or])

/-- What cannot be played has no track. -/
theorem Unplayable.not_reaches_track
    {ensemble final : Ensemble R}
    {times : Value R}
    {entry : Value R × Value R}
    (unplayable : Unplayable ensemble times entry)
    (named : Instrument R × Melody R) :
    ¬ (track times entry).Reaches ensemble named final := by
  intro reaches
  have found := (reaches_track reaches).1
  simp only [track, onBand, onAlbum, Session.reaches_bind, Session.reaches_within,
    Session.reaches_logged, Session.reaches_pure] at reaches
  obtain ⟨instrument, _, ⟨band, looked, rfl⟩, melody, _, ⟨album, retrieved, rfl⟩,
    looped, _, ⟨loops, rfl⟩, rfl, rfl⟩ := reaches
  have stored := Registry.lookup?_of_retrieve retrieved
  cases unplayable with
  | withoutInstrument missing => rw [missing] at found; cases found
  | withoutMelody missing => rw [missing] at stored; cases stored
  | rejected kept strict faulty =>
      obtain rfl := Option.some.inj (kept.symm.trans stored)
      rw [loop_of_isStrict strict faulty] at loops
      cases loops

/-- An entry that cannot be played keeps the tracks of a mapping from being found. -/
theorem exists_failure_of_unplayable
    {ensemble : Ensemble R}
    {times : Value R}
    {entries : Entries R}
    {entry : Value R × Value R}
    (member : entry ∈ entries)
    (unplayable : Unplayable ensemble times entry) :
    ∃ failure,
      ((entries.mapM (track times)).run ensemble).1.outcome = .error failure := by
  cases outcome : ((entries.mapM (track times)).run ensemble).1.outcome with
  | error failure => exact ⟨failure, rfl⟩
  | ok tracks =>
      obtain ⟨each, -⟩ := reaches_tracks.1 ⟨outcome, rfl⟩
      obtain ⟨named, -, found⟩ := exists_related_of_mem each member
      exact absurd found (unplayable.not_reaches_track named)

end

/-- A performance plays all of its tracks or none. When an entry of the mapping cannot
be played, it is refused, and the ensemble is what it was: its stage with the clock, the
engine and the instruments on it, its band and its album. When all names are registered,
it is not refused for a name. -/
theorem play_is_all_or_nothing
    [Limits]
    (ensemble : Ensemble Float)
    {mapping : Value Float}
    {entries : Entries Float}
    (named : mapping.toEntries = .ok entries)
    (times : Value Float)
    (interrupt : Bool) :
    ((∃ entry ∈ entries, Unplayable ensemble times entry) →
      ∃ failure,
        ((play mapping times interrupt).run ensemble).1.outcome = .error failure ∧
        ((play mapping times interrupt).run ensemble).2 = ensemble) ∧
    (Registers entries ensemble →
      ((play mapping times interrupt).run ensemble).1.outcome.RefusedFor
        Failure.FindsNames) := by
  refine ⟨fun ⟨entry, member, unplayable⟩ => ?_, fun registers =>
    (yields_play named times interrupt ensemble registers).1⟩
  obtain ⟨failure, refused⟩ := exists_failure_of_unplayable member unplayable
  exact ⟨failure, run_play_of_refused named refused interrupt⟩

/-- Make a strict melody of one note and store it under a name. -/
def storeStrictly [Limits] (name : String) (note : Entries Float) :
    Session (Registry Float (Melody Float)) Float Unit := do
  Registry.make
    (Logged.ofAttempt (Melody.ofArguments [.list [.map note], .bool true]))
  Registry.save (.text name)

/-- The duo with a third melody, which is strict. -/
def sternDuo : Ensemble Float :=
  ((handleAll (duoRequests ++
    [.melodies (storeStrictly "march" [(.text "note", .text "C")])])).run
      (onStageOf (Stage.openTape 2.0 .manual true))).2

/-- Who plays what: the strict melody comes last. -/
def sternMapping : Entries Float :=
  duoMapping ++ [(.text "lead", .text "march")]

theorem play_is_all_or_nothing_of_stern :
    (Value.map sternMapping).toEntries = .ok sternMapping ∧
      (∃ entry ∈ sternMapping, Unplayable sternDuo (.int (-1)) entry) ∧
      Registers sternMapping sternDuo ∧
      (∃ failure,
        ((play (.map sternMapping) (.int (-1)) false).run
          sternDuo).1.outcome = .error failure ∧
        ((play (.map sternMapping) (.int (-1)) false).run sternDuo).2 =
          sternDuo) ∧
      ((play (.map sternMapping) (.int (-1)) false).run
        sternDuo).1.outcome.RefusedFor Failure.FindsNames := by
  have named : (Value.map sternMapping).toEntries = .ok sternMapping := rfl
  have rejects : (sternDuo.album.entries.lookup? (.text "march")).any
      (fun melody => melody.isStrict &&
        !(RepeatShape.ofValue (.int (-1) : Value Float) melody.length).isOk) =
      true := by
    decide +kernel
  have unplayable : ∃ entry ∈ sternMapping,
      Unplayable sternDuo (.int (-1)) entry := by
    refine ⟨(.text "lead", .text "march"), by simp [sternMapping], ?_⟩
    obtain ⟨melody, stored, rejected⟩ := (Option.any_eq_true _ _).1 rejects
    rw [Bool.and_eq_true] at rejected
    cases faulty : RepeatShape.ofValue (.int (-1) : Value Float)
        melody.length with
    | ok shape => simp [faulty, Except.isOk, Except.toBool] at rejected
    | error fault => exact .rejected stored rejected.1 faulty
  have registers : Registers sternMapping sternDuo :=
    ⟨by unfold Registry.HasAll; decide +kernel,
      by unfold Registry.HasAll; decide +kernel⟩
  obtain ⟨untouched, findsNames⟩ :=
    play_is_all_or_nothing sternDuo named (.int (-1)) false
  exact ⟨named, unplayable, registers, untouched unplayable,
    findsNames registers⟩

end Ensemble
end MelodyAutomation

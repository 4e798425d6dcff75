import MelodyAutomation.Proofs.Ensemble.Reachable
import MelodyAutomation.Proofs.Instrument.Steps

/-!
# Performances

A performance looks up the tracks of a mapping, begins them all, wakes those that
wait, and destroys all instruments. In double precision and on a tape, it can only
be refused before all have begun: no instrument is refused to stop.
-/

namespace MelodyAutomation
namespace Ensemble

section

variable {R : Type} [Machine R]

/-! ## Performances in three parts -/

omit [Machine R] in
/-- No track was refused exactly when each came to a result. -/
theorem firstFailure?_eq_none
    {begun : List (Instrument R × Attempt R (Option R))} :
    firstFailure? begun = none ↔
      ∀ track ∈ begun, ∃ wake, track.2 = .ok wake := by
  simp only [firstFailure?, List.findSome?_eq_none_iff]
  refine forall₂_congr fun track _ => ?_
  cases track.2 <;> simp

/-- A performance that is not refused begins all tracks, wakes those that wait, and
destroys all instruments. -/
theorem reaches_playTracks
    {tracks : List (Instrument R × Melody R)}
    {stage final : Stage R}
    {ending : Ending} :
    (playTracks tracks false).Reaches stage ending final ↔
      ending = .finished ∧ ∃ begun beginning woken,
        (beginTracks tracks).Reaches stage begun beginning ∧
        firstFailure? begun = none ∧
        ((wakeOrder (sleepers begun)).forM wake).Reaches beginning () woken ∧
        (destroyTracks tracks).Reaches woken () final := by
  rw [playTracks, Session.reaches_bind]
  constructor
  · rintro ⟨begun, beginning, begins, reaches⟩
    cases failed : firstFailure? begun with
    | some failure => simp [failed] at reaches
    | none =>
        simp only [failed, Session.reaches_bind, Session.reaches_get,
          Bool.false_and, Bool.false_eq_true, if_false,
          Session.reaches_pure] at reaches
        obtain ⟨_, _, ⟨rfl, rfl⟩, _, woken, wakes, _, _, destroyed, _, _,
          reported, rfl, rfl⟩ := reaches
        obtain rfl := Session.reaches_report.1 reported
        exact ⟨rfl, begun, beginning, woken, begins, failed, wakes, destroyed⟩
  · rintro ⟨rfl, begun, beginning, woken, begins, unfailed, wakes, destroyed⟩
    refine ⟨begun, beginning, begins, ?_⟩
    simp only [unfailed, Session.reaches_bind, Session.reaches_get,
      Bool.false_and, Bool.false_eq_true, if_false, Session.reaches_pure]
    exact ⟨beginning, beginning, ⟨rfl, rfl⟩, (), woken, wakes, (), final,
      destroyed, (), final, Session.reaches_report.2 rfl, trivial, rfl⟩

/-- The tracks before, at and behind one of them begin one after another. -/
theorem reaches_beginTracks_append
    {earlier later : List (Instrument R × Melody R)}
    {instrument : Instrument R}
    {melody : Melody R}
    {stage final : Stage R}
    {begun : List (Instrument R × Attempt R (Option R))}
    (reaches : (beginTracks (earlier ++ (instrument, melody) :: later)).Reaches
      stage begun final) :
    ∃ before first outcome second behind,
      (beginTracks earlier).Reaches stage before first ∧
      (Session.attempt (instrument.beginPlaying melody.composition)).Reaches
        first outcome second ∧
      (beginTracks later).Reaches second behind final ∧
      begun = before ++ (instrument, outcome) :: behind := by
  induction earlier generalizing stage begun with
  | nil =>
      simp only [List.nil_append, beginTracks, Session.reaches_bind,
        Session.reaches_pure] at reaches
      obtain ⟨outcome, second, own, behind, _, rest, rfl, rfl⟩ := reaches
      exact ⟨[], stage, outcome, second, behind,
        Session.reaches_pure.2 ⟨rfl, rfl⟩, own, rest, rfl⟩
  | cons track rest hypothesis =>
      obtain ⟨other, tune⟩ := track
      simp only [List.cons_append, beginTracks, Session.reaches_bind,
        Session.reaches_pure] at reaches
      obtain ⟨outcome, middle, ran, others, _, continued, rfl, rfl⟩ := reaches
      obtain ⟨before, first, own, second, behind, begins, begun, ends, rfl⟩ :=
        hypothesis continued
      refine ⟨(other, outcome) :: before, first, own, second, behind, ?_, begun,
        ends, rfl⟩
      simp only [beginTracks, Session.reaches_bind, Session.reaches_pure]
      exact ⟨outcome, middle, ran, before, first, begins, rfl, rfl⟩

/-! ## Performances by name -/

/-- The instruments that the entries of a mapping name. -/
def mapped (ensemble : Ensemble R) (entries : Entries R) :
    List (Instrument R) :=
  entries.filterMap fun entry => ensemble.band.entries.lookup? entry.1

/-- The track of an entry is on the instrument that the entry names, and looking it
up changes nothing. -/
theorem reaches_track
    {times : Value R}
    {entry : Value R × Value R}
    {ensemble final : Ensemble R}
    {named : Instrument R × Melody R}
    (reaches : (track times entry).Reaches ensemble named final) :
    ensemble.band.entries.lookup? entry.1 = some named.1 ∧
      ensemble = final := by
  have unchanged : (track times entry).Keeps Eq := keeps_track times entry
  refine ⟨?_, unchanged.of_reaches reaches⟩
  simp only [track, onBand, Session.reaches_bind, Session.reaches_within,
    Session.reaches_logged, Session.reaches_pure] at reaches
  obtain ⟨instrument, _, ⟨_, retrieved, rfl⟩, melody, _, -, looped, _, -, rfl,
    rfl⟩ := reaches
  exact Registry.lookup?_of_retrieve retrieved

/-- The tracks of a mapping, one for every entry. -/
theorem reaches_tracks
    {times : Value R}
    {entries : Entries R}
    {ensemble final : Ensemble R}
    {tracks : List (Instrument R × Melody R)} :
    (entries.mapM (track times)).Reaches ensemble tracks final ↔
      List.Forall₂ (fun entry named =>
        (track times entry).Reaches ensemble named ensemble) entries tracks ∧
      ensemble = final := by
  induction entries generalizing tracks with
  | nil =>
      simp only [List.mapM_nil, Session.reaches_pure]
      constructor
      · rintro ⟨rfl, rfl⟩
        exact ⟨.nil, rfl⟩
      · rintro ⟨⟨⟩, rfl⟩
        exact ⟨rfl, rfl⟩
  | cons entry rest hypothesis =>
      simp only [List.mapM_cons, Session.reaches_bind, Session.reaches_pure]
      constructor
      · rintro ⟨named, _, found, others, _, more, rfl, rfl⟩
        obtain ⟨-, rfl⟩ := reaches_track found
        obtain ⟨each, rfl⟩ := hypothesis.1 more
        exact ⟨.cons found each, rfl⟩
      · rintro ⟨each, rfl⟩
        cases each with
        | cons found each =>
            exact ⟨_, ensemble, found, _, ensemble, hypothesis.2 ⟨each, rfl⟩,
              rfl, rfl⟩

/-- A performance is one of the tracks of its entries. -/
theorem reaches_play
    {mapping times : Value R}
    {entries : Entries R}
    (named : mapping.toEntries = .ok entries)
    {ensemble final : Ensemble R}
    {ending : Ending} :
    (play mapping times false).Reaches ensemble ending final ↔
      ∃ tracks stage,
        List.Forall₂ (fun entry named =>
          (track times entry).Reaches ensemble named ensemble) entries tracks ∧
        (playTracks tracks false).Reaches ensemble.stage ending stage ∧
        { ensemble with stage } = final := by
  simp only [play, named, onStage, Session.reaches_bind,
    Session.reaches_attempt, Session.reaches_within, reaches_tracks]
  constructor
  · rintro ⟨_, _, ⟨same, rfl⟩, tracks, _, ⟨each, rfl⟩, _, _, reported, stage,
      played, rfl⟩
    obtain rfl := Except.ok.inj same
    obtain rfl := Session.reaches_report.1 reported
    exact ⟨tracks, stage, each, played, rfl⟩
  · rintro ⟨tracks, stage, each, played, rfl⟩
    exact ⟨entries, ensemble, ⟨rfl, rfl⟩, tracks, ensemble, ⟨each, rfl⟩, (),
      ensemble, Session.reaches_report.2 rfl, stage, played, rfl⟩

/-- The tracks of a mapping are on the instruments that it names. -/
theorem instruments_of_tracks
    {times : Value R}
    {ensemble : Ensemble R}
    {entries : Entries R}
    {tracks : List (Instrument R × Melody R)}
    (each : List.Forall₂ (fun entry named =>
      (track times entry).Reaches ensemble named ensemble) entries tracks) :
    tracks.map Prod.fst = ensemble.mapped entries := by
  induction each with
  | nil => rfl
  | cons found _ hypothesis =>
      rw [mapped, List.filterMap_cons, (reaches_track found).1, List.map_cons,
        hypothesis]
      rfl

/-- The instruments that a mapping names are those of the band. -/
theorem mem_held_of_mem_mapped
    {ensemble : Ensemble R}
    {entries : Entries R}
    {instrument : Instrument R}
    (member : instrument ∈ ensemble.mapped entries) :
    instrument ∈ ensemble.band.held := by
  obtain ⟨entry, -, found⟩ := List.mem_filterMap.1 member
  obtain ⟨stored, present, rfl⟩ := Option.map_eq_some_iff.1 found
  exact List.mem_append_left _
    (List.mem_map_of_mem (List.mem_of_find?_eq_some present))

end

/-! ## What refuses a performance -/

theorem completes_wake (sleeper : Instrument Float × Float) :
    (wake sleeper).Completes Stage.OnTape := by
  have set : (Stage.setClock sleeper.2).Completes Stage.OnTape :=
    Session.completes_modify fun _ onTape => onTape
  exact set.bind fun _ => sleeper.1.completes_stop

/-- A performance on a tape whose tracks all begin is finished. -/
theorem exists_playTracks
    [Limits]
    {tracks : List (Instrument Float × Melody Float)}
    {stage beginning : Stage Float}
    (onTape : stage.OnTape)
    {begun : List (Instrument Float × Attempt Float (Option Float))}
    (begins : (beginTracks tracks).Reaches stage begun beginning)
    (unfailed : firstFailure? begun = none) :
    ∃ final, (playTracks tracks false).Reaches stage .finished final := by
  have stays : (beginTracks tracks).Keeps Stage.Grows :=
    keeps_beginTracks fun track _ => .ofOwn (Instrument.grows_rules track.1)
  have wakesAll : ((wakeOrder (sleepers begun)).forM wake).Completes
      Stage.OnTape :=
    Session.completes_forM fun sleeper _ => completes_wake sleeper
  have destroysAll : (destroyTracks tracks).Completes Stage.OnTape :=
    Session.completes_forM fun track _ => track.1.completes_destroy
  obtain ⟨⟨⟩, woken, wakes, awake⟩ :=
    wakesAll beginning (stays.of_reaches begins onTape).1
  obtain ⟨⟨⟩, final, destroyed, -⟩ := destroysAll woken awake
  exact ⟨final, reaches_playTracks.2
    ⟨rfl, begun, beginning, woken, begins, unfailed, wakes, destroyed⟩⟩

/-- A mapping on a tape is played when all names in it are known and its tracks all
begin. -/
theorem exists_play
    [Limits]
    {ensemble looked reached : Ensemble Float}
    (onTape : ensemble.stage.OnTape)
    {mapping times : Value Float}
    {entries : Entries Float}
    (named : mapping.toEntries = .ok entries)
    {tracks : List (Instrument Float × Melody Float)}
    (found : (entries.mapM (track times)).Reaches ensemble tracks looked)
    {begun : List (Instrument Float × Attempt Float (Option Float))}
    (begins : (onStage (beginTracks tracks)).Reaches looked begun reached)
    (unfailed : firstFailure? begun = none) :
    ∃ final, (play mapping times false).Reaches ensemble .finished final := by
  obtain ⟨each, rfl⟩ := reaches_tracks.1 found
  obtain ⟨beginning, begins, -⟩ := Session.reaches_within.1 begins
  obtain ⟨stage, played⟩ := exists_playTracks onTape begins unfailed
  exact ⟨_, (reaches_play named).2 ⟨tracks, stage, each, played, rfl⟩⟩

end Ensemble
end MelodyAutomation

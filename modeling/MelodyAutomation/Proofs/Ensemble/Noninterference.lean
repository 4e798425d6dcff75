import MelodyAutomation.Proofs.Ensemble.Performance

/-!
# Tracks do not interfere

All tracks of a performance share one clock and one tape, and those that wait go
on in the order in which their schedules are over. Still, what is recorded of an
instrument is what would be recorded if its track were the only one: a track
begins at the time of the performance, ends at its own wake time, and what other
tracks do in between is not about its nodes.
-/

namespace MelodyAutomation
namespace Ensemble

variable {R : Type} [Machine R]

/-! ## One track among others -/

section

variable {instrument : Instrument R} {melody : Melody R}
variable {earlier later : List (Instrument R × Melody R)}

/-- All other tracks are on instruments apart from one. -/
def OthersApart (instrument : Instrument R)
    (tracks : List (Instrument R × Melody R)) : Prop :=
  ∀ track ∈ tracks, track.1.Apart instrument

theorem OthersApart.rules
    {tracks : List (Instrument R × Melody R)}
    (apart : OthersApart instrument tracks) :
    ∀ track ∈ tracks, TrackRules instrument.Spares track.1 :=
  fun track member => .ofOwn (Instrument.spare_rules (apart track member))

/-- A waiting track of other instruments spares an instrument. -/
theorem keeps_wake_of_apart
    {tracks : List (Instrument R × Melody R)}
    (apart : OthersApart instrument tracks)
    {begun : List (Instrument R × Attempt R (Option R))}
    (same : begun.map Prod.fst = tracks.map Prod.fst)
    {sleeper : Instrument R × R}
    (member : sleeper ∈ sleepers begun) :
    (wake sleeper).Keeps instrument.Spares := by
  have inBegun : sleeper.1 ∈ begun.map Prod.fst :=
    List.mem_map_of_mem (mem_sleepers.1 member)
  rw [same] at inBegun
  obtain ⟨track, inTracks, same⟩ := List.mem_map.1 inBegun
  exact keeps_wake (same ▸ apart.rules track inTracks)
    instrument.keeps_setClock sleeper.2

/-- Going on at a wake time, an instrument does the same on stages that are alike,
whatever their clocks have shown before. -/
theorem respects_wake (instrument : Instrument R) (reading : R) :
    (wake (instrument, reading)).Respects instrument.AlikeOn := by
  intro left right alike
  have set (stage : Stage R) : (Stage.setClock reading).run stage =
      (⟨.ok (), []⟩, { stage with clock := reading }) := rfl
  rw [wake, Session.run_bind_of_ok (set left), Session.run_bind_of_ok (set right)]
  obtain ⟨same, reached, -⟩ := (Instrument.alike_rules instrument).stopAll
    { left with clock := reading } { right with clock := reading }
    ⟨⟨alike.onTape_left, alike.onTape_right, alike.recording_eq,
      alike.playing_eq, alike.timebase_eq, alike.realtime_eq⟩, rfl⟩
  exact ⟨by rw [same], reached⟩

/-- An instrument that has gone on does not play. -/
theorem playing_of_wake
    {reading : R}
    {stage final : Stage R}
    (woken : (wake (instrument, reading)).Reaches stage () final) :
    final.playing instrument.number = false := by
  obtain ⟨_, _, -, stopped⟩ := Session.reaches_bind.1 woken
  exact Instrument.playing_of_stop stopped

/-- A track that begins and has nothing to wait for is over. -/
theorem playing_of_beginPlaying
    {composition : Value R}
    {stage final : Stage R}
    (begun : (Session.attempt (instrument.beginPlaying composition)).Reaches
      stage (.ok none) final) :
    final.playing instrument.number = false := by
  obtain ⟨outcome, rfl⟩ := begun
  have ran : (instrument.beginPlaying composition).Reaches stage none
      ((instrument.beginPlaying composition).run stage).2 :=
    ⟨Except.ok.inj outcome, rfl⟩
  simp only [Instrument.beginPlaying, Session.reaches_bind,
    Session.reaches_logged] at ran
  obtain ⟨schedule, _, -, _, _, -, _, _, -, applied, _, -, ran⟩ := ran
  cases applied with
  | error failure => simp at ran
  | ok _ =>
      simp only [Session.reaches_bind, Session.reaches_get] at ran
      obtain ⟨looked, _, -, ran⟩ := ran
      cases waits : looked.waitsUntil? schedule.duration with
      | some wake => simp [waits] at ran
      | none =>
          simp only [waits, Session.reaches_bind] at ran
          obtain ⟨_, _, stopped, ended⟩ := ran
          obtain ⟨-, rfl⟩ := Session.reaches_pure.1 ended
          exact Instrument.playing_of_stop stopped

/-- A track begins among others as it begins alone: no other one that begins moves
the clock. -/
theorem begin_alone
    (apart : OthersApart instrument (earlier ++ later))
    {stage beginning : Stage R}
    (onTape : stage.OnTape)
    {begun : List (Instrument R × Attempt R (Option R))}
    (begins : (beginTracks (earlier ++ (instrument, melody) :: later)).Reaches
      stage begun beginning) :
    ∃ before outcome behind alone,
      begun = before ++ (instrument, outcome) :: behind ∧
      (before ++ behind).map Prod.fst = (earlier ++ later).map Prod.fst ∧
      (Session.attempt (instrument.beginPlaying melody.composition)).Reaches
        stage outcome alone ∧
      instrument.AlikeOn beginning alone := by
  obtain ⟨before, first, outcome, second, behind, ranBefore, ran, ranBehind,
    rfl⟩ := reaches_beginTracks_append begins
  have sparedBefore := (keeps_beginTracks fun track member =>
    apart.rules track (List.mem_append_left _ member)).of_reaches ranBefore
  have still := (keeps_beginTracks fun track _ =>
    .ofOwn (Instrument.clock_rules track.1)).of_reaches ranBefore
  have alike : instrument.AlikeAt first stage :=
    ⟨(sparedBefore onTape).symm, still.symm⟩
  have rules := Instrument.alike_rules instrument
  obtain ⟨alone, ranAlone, reached, -⟩ := (rules.attempt (rules.beginPlaying
    fun schedule _ => instrument.accepts_all schedule)).reaches alike ran
  have sparedBehind := (keeps_beginTracks fun track member =>
    apart.rules track (List.mem_append_right _ member)).of_reaches ranBehind
  refine ⟨before, outcome, behind, alone, rfl, ?_, ranAlone,
    (sparedBehind reached.onTape_left).symm.trans reached⟩
  simp [instruments_of_beginTracks ranBefore,
    instruments_of_beginTracks ranBehind]

omit [Machine R] in
theorem sleepers_append (before behind : List (Instrument R × Attempt R (Option R))) :
    sleepers (before ++ behind) = sleepers before ++ sleepers behind := by
  simp [sleepers]

/-- A waiting track has its place in the order of waking, among all other ones. -/
theorem exists_wakeOrder_eq
    (instrument : Instrument R)
    (reading : R)
    (before behind : List (Instrument R × Attempt R (Option R))) :
    ∃ sooner afterwards,
      wakeOrder (sleepers
        (before ++ (instrument, .ok (some reading)) :: behind)) =
          sooner ++ (instrument, reading) :: afterwards ∧
      (sooner ++ afterwards).Perm (sleepers (before ++ behind)) := by
  have waiting : sleepers
      (before ++ (instrument, .ok (some reading)) :: behind) =
        sleepers before ++ (instrument, reading) :: sleepers behind := by
    simp [sleepers]
  have sorted := List.mergeSort_perm
    (sleepers before ++ (instrument, reading) :: sleepers behind)
    fun left right => !(Scalar.compare? right.2 left.2 == some .lt)
  obtain ⟨sooner, afterwards, order⟩ := List.append_of_mem
    (sorted.mem_iff.2 (List.mem_append_right _ List.mem_cons_self))
  refine ⟨sooner, afterwards, waiting ▸ order, ?_⟩
  rw [order] at sorted
  rw [sleepers_append]
  exact ((List.perm_middle.symm.trans sorted).trans List.perm_middle).cons_inv

/-- A track that has begun goes on among others as it goes on alone, and is then
over. -/
theorem wake_alone
    (apart : OthersApart instrument (earlier ++ later))
    {before behind : List (Instrument R × Attempt R (Option R))}
    (same : (before ++ behind).map Prod.fst = (earlier ++ later).map Prod.fst)
    {reading : Option R}
    {beginning woken alone : Stage R}
    (waits : reading = none → alone.playing instrument.number = false)
    (alike : instrument.AlikeOn beginning alone)
    (wakes : ((wakeOrder (sleepers
      (before ++ (instrument, .ok reading) :: behind))).forM wake).Reaches
        beginning () woken) :
    ∃ rested,
      ((wakeOrder (sleepers
        [(instrument, (.ok reading : Attempt R (Option R)))])).forM wake).Reaches
          alone () rested ∧
      instrument.AlikeOn woken rested ∧
      rested.playing instrument.number = false := by
  have others (sleeper : Instrument R × R)
      (member : sleeper ∈ sleepers (before ++ behind)) :
      (wake sleeper).Keeps instrument.Spares :=
    keeps_wake_of_apart apart same member
  -- A track without anything to wait for does not wake; the others do, apart from it.
  cases reading with
  | none =>
      have none_waits : sleepers (before ++ (instrument,
          (.ok none : Attempt R (Option R))) :: behind) =
            sleepers (before ++ behind) := by
        simp [sleepers]
      rw [none_waits] at wakes
      have spared := ((Session.keeps_rules instrument.Spares).forM
        fun sleeper member =>
          others sleeper (List.mem_mergeSort.1 member)).of_reaches wakes
      refine ⟨alone, ?_, (spared alike.onTape_left).symm.trans alike, waits rfl⟩
      simp [sleepers, wakeOrder]
  | some reading =>
      obtain ⟨sooner, afterwards, order, rest⟩ :=
        exists_wakeOrder_eq instrument reading before behind
      rw [order] at wakes
      obtain ⟨rested, ran, reached⟩ := Session.reaches_forM_alone
        (fun _ _ _ spared related =>
          (spared related.onTape_left).symm.trans related)
        wake (instrument, reading)
        (fun sleeper member => others sleeper (rest.mem_iff.1 member))
        (respects_wake instrument reading) alike wakes
      refine ⟨rested, ?_, reached, playing_of_wake ran⟩
      simp only [sleepers, wakeOrder, List.filterMap_cons, List.filterMap_nil,
        List.mergeSort_singleton, List.forM_eq_forM, List.forM_cons,
        List.forM_nil, Session.reaches_bind, Session.reaches_pure]
      exact ⟨_, _, ran, trivial, rfl⟩

/-- A track ends among others as it ends alone, and so a whole performance leaves of
its instrument what its own track leaves. -/
theorem playTracks_alone
    (apart : OthersApart instrument (earlier ++ later))
    {stage final : Stage R}
    {ending : Ending}
    (onTape : stage.OnTape)
    (played : (playTracks (earlier ++ (instrument, melody) :: later)
      false).Reaches stage ending final) :
    ∃ alone,
      (playTracks [(instrument, melody)] false).Reaches stage ending alone ∧
      instrument.AlikeOn final alone := by
  obtain ⟨rfl, begun, beginning, woken, begins, unfailed, wakes, destroyed⟩ :=
    reaches_playTracks.1 played
  obtain ⟨before, outcome, behind, begunAlone, rfl, same, begin, alike⟩ :=
    begin_alone apart onTape begins
  obtain ⟨reading, rfl⟩ : ∃ reading, outcome = .ok reading :=
    firstFailure?_eq_none.1 unfailed (instrument, outcome) (by simp)
  obtain ⟨rested, wakesAlone, alike, resting⟩ := wake_alone apart same
    (fun none_waits => playing_of_beginPlaying (none_waits ▸ begin)) alike wakes
  -- What is left is to destroy all instruments, of which one alone is its own.
  have destroyers (track : Instrument R × Melody R)
      (member : track ∈ earlier ++ later) :
      track.1.destroy.Keeps instrument.Spares :=
    (apart.rules track member).destroy
  rw [destroyTracks] at destroyed
  obtain ⟨alone, destroysAlone, reached, -⟩ := Session.reaches_forM_alone
    (fun _ _ _ spared related =>
      ⟨(spared related.1.onTape_left).symm.trans related.1,
        (spared related.1.onTape_left).playing_eq.symm.trans related.2⟩)
    (fun track : Instrument R × Melody R => track.1.destroy)
    (instrument, melody)
    destroyers (Instrument.respects_destroy instrument)
    ⟨alike, alike.playing_eq.trans resting⟩ destroyed
  refine ⟨alone, reaches_playTracks.2 ⟨rfl, [(instrument, .ok reading)],
    begunAlone, rested, ?_, ?_, wakesAlone, ?_⟩, reached⟩
  · simp only [beginTracks, Session.reaches_bind, Session.reaches_pure]
    exact ⟨_, _, begin, _, _, ⟨rfl, rfl⟩, rfl, rfl⟩
  · simp [firstFailure?]
  · simp only [destroyTracks, List.forM_eq_forM, List.forM_cons, List.forM_nil,
      Session.reaches_bind, Session.reaches_pure]
    exact ⟨_, _, destroysAlone, trivial, rfl⟩

end

/-! ## Performances of a mapping -/

omit [Machine R] in
/-- In a sound ensemble, tracks on different instruments are apart. -/
theorem Sound.othersApart
    {known : List (Instrument R)}
    {ensemble : Ensemble R}
    (sound : Sound known ensemble)
    {earlier later : List (Instrument R × Melody R)}
    {instrument : Instrument R}
    {melody : Melody R}
    (present : ∀ track ∈ earlier ++ (instrument, melody) :: later,
      track.1 ∈ known)
    (distinct : ((earlier ++ (instrument, melody) :: later).map
      fun track => track.1.number).Nodup) :
    OthersApart instrument (earlier ++ later) := by
  intro track member
  have other : track ∈ earlier ++ (instrument, melody) :: later :=
    List.perm_middle.mem_iff.2 (List.mem_cons_of_mem _ member)
  refine sound.apart (present track other)
    (present (instrument, melody) (by simp)) fun same => ?_
  rw [(List.perm_middle.map _).nodup_iff, List.map_cons,
    List.nodup_cons] at distinct
  exact distinct.1 (List.mem_map.2 ⟨track, member, same⟩)

/-- A performance leaves every instrument as it was that is apart from those that
play. -/
theorem alike_after_play
    {ensemble final : Ensemble R}
    {mapping times : Value R}
    {entries : Entries R}
    {ending : Ending}
    (onTape : ensemble.stage.OnTape)
    (named : mapping.toEntries = .ok entries)
    (played : (play mapping times false).Reaches ensemble ending final)
    {other : Instrument R}
    (apart : ∀ instrument ∈ ensemble.mapped entries, instrument.Apart other) :
    other.AlikeOn ensemble.stage final.stage := by
  obtain ⟨tracks, stage, each, ran, rfl⟩ := (reaches_play named).1 played
  have spared : (playTracks tracks false).Keeps other.Spares := by
    refine keeps_playTracks (fun track member => ?_) other.keeps_setClock false
    refine .ofOwn (Instrument.spare_rules (apart track.1 ?_))
    exact instruments_of_tracks each ▸ List.mem_map_of_mem member
  exact spared.of_reaches ran onTape

/-- Tracks of a performance do not interfere: of the instrument of every entry, it
leaves what playing this entry alone leaves, however many other tracks there are,
whatever these play and wherever the entry stands. Of all others that were built on
the stage, and of whatever else has no node in common with those that play, it
leaves what was there. -/
theorem tracks_do_not_interfere
    {known : List (Instrument R)}
    {ensemble final : Ensemble R}
    {mapping times : Value R}
    {entries : Entries R}
    {ending : Ending}
    (reachable : Reachable known ensemble)
    (named : mapping.toEntries = .ok entries)
    (distinct : ((ensemble.mapped entries).map Instrument.number).Nodup)
    (played : (play mapping times false).Reaches ensemble ending final) :
    (∀ entry ∈ entries, ∃ instrument alone,
      ensemble.band.entries.lookup? entry.1 = some instrument ∧
      (play (.map [entry]) times false).Reaches ensemble ending alone ∧
      instrument.AlikeOn final.stage alone.stage) ∧
    (∀ instrument ∈ known,
      (∀ other ∈ ensemble.mapped entries, other.number ≠ instrument.number) →
        instrument.AlikeOn ensemble.stage final.stage) ∧
    ∀ elsewhere : Instrument R,
      (∀ instrument ∈ ensemble.mapped entries, instrument.Apart elsewhere) →
        elsewhere.AlikeOn ensemble.stage final.stage := by
  have sound := reachable.sound
  have present (instrument : Instrument R)
      (member : instrument ∈ ensemble.mapped entries) : instrument ∈ known :=
    sound.held instrument (mem_held_of_mem_mapped member)
  have unplayed {other : Instrument R}
      (apart : ∀ instrument ∈ ensemble.mapped entries,
        instrument.Apart other) :
      other.AlikeOn ensemble.stage final.stage :=
    alike_after_play sound.onTape named played apart
  refine ⟨?_, ?_, fun elsewhere apart => unplayed apart⟩
  · intro entry member
    obtain ⟨tracks, stage, each, ran, rfl⟩ := (reaches_play named).1 played
    obtain ⟨⟨instrument, melody⟩, inTracks, found⟩ := exists_related_of_mem each member
    obtain ⟨earlier, later, rfl⟩ := List.append_of_mem inTracks
    have instruments := instruments_of_tracks each
    rw [← instruments, List.map_map] at distinct
    have apart := sound.othersApart (fun track inTracks =>
      present track.1 (instruments ▸ List.mem_map_of_mem inTracks)) distinct
    obtain ⟨alone, ranAlone, alike⟩ := playTracks_alone apart sound.onTape ran
    have playsAlone := (reaches_play (Value.toEntries_map [entry])).2
      ⟨_, alone, .cons found .nil, ranAlone, rfl⟩
    exact ⟨instrument, _, (reaches_track found).1, playsAlone, alike⟩
  · intro instrument member others
    apply unplayed
    intro other inMapping
    exact sound.apart (present other inMapping) member (others other inMapping)

/-- What is asked for to get a duo: a modulated lead and a noisy bass, whose beats
are of different lengths, and a melody for each. -/
def duoRequests : List (Request Float) :=
  [.make (.map [(.text "lfos", .map [(.text "osc.gain", .map [])])]) [],
    .save (.text "lead"),
    .make (.map [(.text "noise", .map [(.text "type", .text "white")])])
      [(.text "ms_per_beat", .int 400)],
    .save (.text "bass"),
    .melodies (storeNote "drone"
      [(.text "note", .text "A"), (.text "duration", .int 2)]),
    .melodies (storeNote "riff" [(.text "note", .text "A")])]

/-- A lead and a bass on a tape that waits. -/
def duo : Ensemble Float :=
  ((handleAll duoRequests).run
    (onStageOf (Stage.openTape 2.0 .manual true))).2

/-- Who plays what: the lead waits longer than the bass, which begins later. -/
def duoMapping : Entries Float :=
  [(.text "lead", .text "drone"), (.text "bass", .text "riff")]

theorem duo_tracks_do_not_interfere :
    ∃ known ending final,
      Reachable known duo ∧
      (Value.map duoMapping).toEntries = .ok duoMapping ∧
      ((duo.mapped duoMapping).map Instrument.number).Nodup ∧
      (play (.map duoMapping) (.int 2) false).Reaches duo ending final ∧
      (∀ entry ∈ duoMapping, ∃ instrument alone,
        duo.band.entries.lookup? entry.1 = some instrument ∧
        (play (.map [entry]) (.int 2) false).Reaches duo ending alone ∧
        instrument.AlikeOn final.stage alone.stage) ∧
      (∀ instrument ∈ known,
        (∀ other ∈ duo.mapped duoMapping, other.number ≠ instrument.number) →
          instrument.AlikeOn duo.stage final.stage) ∧
      ∀ elsewhere : Instrument Float,
        (∀ instrument ∈ duo.mapped duoMapping, instrument.Apart elsewhere) →
          elsewhere.AlikeOn duo.stage final.stage := by
  obtain ⟨known, reachable⟩ : ∃ known, Reachable known duo :=
    exists_reachable ⟨Tape.blank, rfl⟩ duoRequests
  have distinct : (duo.mapped duoMapping).map Instrument.number = [0, 1] := by
    decide +kernel
  have unfailed : ((duoMapping.mapM (track (.int 2)) >>= fun tracks =>
      onStage (beginTracks tracks)).run duo).1.outcome.toOption.any
        (fun begun => (firstFailure? begun).isNone) = true := by
    decide +kernel
  obtain ⟨begun, outcome, unfailed⟩ := Attempt.exists_of_any unfailed
  obtain ⟨tracks, looked, found, begins⟩ :=
    Session.reaches_bind.1 ⟨outcome, rfl⟩
  have named : (Value.map duoMapping).toEntries = .ok duoMapping := rfl
  obtain ⟨final, played⟩ := exists_play reachable.sound.onTape named found
    begins (Option.isNone_iff_eq_none.1 unfailed)
  have nodup : ((duo.mapped duoMapping).map Instrument.number).Nodup := by
    rw [distinct]
    decide
  exact ⟨known, .finished, final, reachable, named, nodup, played,
    tracks_do_not_interfere reachable named nodup played⟩

end Ensemble
end MelodyAutomation

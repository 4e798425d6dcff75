import MelodyAutomation.Proofs.Ensemble.History

/-!
# Teardown

However a performance ends, its instruments are at rest: all of its tracks were over,
or it was interrupted while some of them waited, or one was refused, in which case
others may still wait. What still waits has nothing left to do: it finds its
instrument at rest, and goes on to its end without a command.
-/

namespace MelodyAutomation

/-! ## Rest -/

namespace Instrument

variable {R : Type}

theorem IsAtRest.alike
    {instrument : Instrument R}
    {before after : Stage R}
    (rests : instrument.IsAtRest before)
    (alike : instrument.AlikeOn before after) :
    instrument.IsAtRest after where
  playing := alike.playing_eq.symm.trans rests.playing
  started primitive member := by
    rw [← alike.recording_eq primitive member]
    exact rests.started primitive member

end Instrument

namespace Stage

variable [Limits] {opened : Stage Float} {known : List (Instrument Float)}

/-- A stage with some history, on which some instruments are at rest. -/
structure Rested (opened : Stage Float)
    (known resting : List (Instrument Float)) (stage : Stage Float) : Prop where
  history : History opened known stage
  rests : ∀ instrument ∈ resting, instrument.IsAtRest stage

/-- Destroying one more instrument brings it to rest and disturbs no other one. -/
theorem ensures_destroy
    (onTape : opened.OnTape)
    {resting : List (Instrument Float)}
    (members : ∀ other ∈ resting, other ∈ known)
    {instrument : Instrument Float}
    (member : instrument ∈ known) :
    instrument.destroy.Ensures (Rested opened known resting)
      (fun _ => Rested opened known (instrument :: resting))
      (fun _ => False) := by
  rintro stage ⟨history, rests⟩
  have populated := history.populated onTape
  obtain ⟨life, lives⟩ := populated.lives instrument member
  obtain ⟨outcome, -⟩ := instrument.reaches_destroy populated.onTape
  rw [outcome]
  have own := lives.isAtRest_of_destroy
  refine ⟨history.turned (.stepped (.act .destroy) member), ?_⟩
  intro other inside
  rcases List.mem_cons.1 inside with rfl | earlier
  · exact own
  rcases populated.eq_or_apart member (members other earlier) with rfl | apart
  · exact own
  · exact (rests other earlier).alike (Instrument.spares_step apart
      (.act .destroy) stage populated.onTape)

theorem ensures_destroyTracks
    (onTape : opened.OnTape)
    {tracks : List (Instrument Float × Melody Float)}
    (members : ∀ track ∈ tracks, track.1 ∈ known)
    {resting : List (Instrument Float)}
    (others : ∀ other ∈ resting, other ∈ known) :
    (Ensemble.destroyTracks tracks).Ensures (Rested opened known resting)
      (fun _ => Rested opened known ((tracks.map Prod.fst).reverse ++ resting))
      (fun _ => False) := by
  induction tracks generalizing resting with
  | nil => exact Session.ensures_pure fun _ rested => rested
  | cons track rest hypothesis =>
      refine (ensures_destroy onTape others (members track
        List.mem_cons_self)).bind fun _ => ?_
      have continued := hypothesis
        (fun later inside => members later (List.mem_cons_of_mem _ inside))
        (List.forall_mem_cons.2 ⟨members track List.mem_cons_self, others⟩)
      rw [List.map_cons, List.reverse_cons, List.append_assoc]
      exact continued

/-- Where nothing that is asked of a tape is refused, a history goes on. -/
theorem completes_history
    {α : Type}
    (onTape : opened.OnTape)
    {session : Session (Stage Float) Float α}
    (completes : session.Completes OnTape)
    (leads : session.Keeps (Leads known)) :
    session.Completes (History opened known) := by
  intro stage history
  obtain ⟨result, final, reaches, -⟩ :=
    completes stage (history.populated onTape).onTape
  exact ⟨result, final, reaches, leads.of_reaches reaches opened history⟩

/-- Beginning tracks is not refused, though single tracks may be. -/
theorem completes_beginTracks
    {tracks : List (Instrument Float × Melody Float)}
    (members : ∀ track ∈ tracks, track.1 ∈ known) :
    (Ensemble.beginTracks tracks).Completes (History opened known) := by
  induction tracks with
  | nil => exact Session.completes_pure _
  | cons track rest hypothesis =>
      obtain ⟨instrument, melody⟩ := track
      have rules := leads_rules (members (instrument, melody) List.mem_cons_self)
      refine (Session.completes_attempt fun stage =>
        rules.beginPlaying melody.composition stage opened).bind
          fun outcome => ?_
      exact (hypothesis fun track inside =>
        members track (List.mem_cons_of_mem _ inside)).bind
          fun others => Session.completes_pure _

/-- Tracks that wait may go on, or be stopped, one after another. -/
theorem completes_wakes
    (onTape : opened.OnTape)
    {sleeping : List (Instrument Float × Float)}
    (members : ∀ sleeper ∈ sleeping, sleeper.1 ∈ known) :
    (sleeping.forM Ensemble.wake).Completes (History opened known) ∧
      (sleeping.forM fun sleeper => sleeper.1.stop).Completes
        (History opened known) := by
  constructor
  · exact Session.completes_forM fun sleeper inside =>
      completes_history onTape (Ensemble.completes_wake sleeper)
        (leads_step (members sleeper inside) (.resume sleeper.2))
  · exact Session.completes_forM fun sleeper inside =>
      completes_history onTape sleeper.1.completes_stop
        (leads_step (members sleeper inside) (.act .stop))

/-- Whether or not a performance is refused, it leaves its instruments at rest. -/
theorem ensures_playTracks
    (onTape : opened.OnTape)
    {tracks : List (Instrument Float × Melody Float)}
    (members : ∀ track ∈ tracks, track.1 ∈ known)
    (interrupt : Bool) :
    (Ensemble.playTracks tracks interrupt).Ensures (History opened known)
      (fun _ => Rested opened known (tracks.map Prod.fst).reverse)
      (Rested opened known (tracks.map Prod.fst).reverse) := by
  have destroyed : (Ensemble.destroyTracks tracks).Ensures
      (History opened known)
      (fun _ => Rested opened known (tracks.map Prod.fst).reverse)
      (Rested opened known (tracks.map Prod.fst).reverse) := by
    have torn := ensures_destroyTracks onTape members (List.forall_mem_nil _)
    rw [List.append_nil] at torn
    exact fun stage history => torn.imp (fun _ _ => id) (fun _ => False.elim)
      stage ⟨history, by simp⟩
  refine (completes_beginTracks members).ensures_bind fun begun reached => ?_
  obtain ⟨_, _, reaches⟩ := reached
  have continues (sleeping : List (Instrument Float × Float))
      (among : ∀ sleeper ∈ sleeping, sleeper ∈ Ensemble.sleepers begun) :=
    completes_wakes onTape fun sleeper inside =>
      have ⟨track, inTracks, same⟩ :=
        Ensemble.exists_track_of_sleeper reaches (among sleeper inside)
      same ▸ members track inTracks
  -- Whichever way the tracks went, every instrument is destroyed at the end.
  cases Ensemble.firstFailure? begun with
  | some failure =>
      exact destroyed.bind fun _ => Session.ensures_throw fun _ rested => rested
  | none =>
      refine Session.ensures_get_bind fun stage => ?_
      simp only [List.partition_eq_filter_filter]
      split
      · refine (continues _ fun sleeper inside =>
          (List.mem_filter.1 inside).1).1.ensures_bind fun _ _ => ?_
        refine (continues _ fun sleeper inside =>
          (List.mem_filter.1 inside).1).2.ensures_bind fun _ _ => ?_
        exact destroyed.bind fun _ => Session.ensures_pure fun _ rested => rested
      · refine (continues _ fun sleeper inside =>
          List.mem_mergeSort.1 inside).1.ensures_bind fun _ _ => ?_
        refine destroyed.bind fun _ => ?_
        exact (Session.ensures_report _ _).bind fun _ =>
          Session.ensures_pure fun _ rested => rested

end Stage

/-! ## Performances -/

namespace Ensemble

section

variable {R : Type} [Machine R] {stage : Stage R}

/-- The tracks that a performance leaves waiting: if one is refused, those that have
begun to wait by then. A performance that is over or was interrupted has seen all of
its tracks to their ends. -/
def leftWaiting (tracks : List (Instrument R × Melody R)) (stage : Stage R) :
    List (Instrument R × R) :=
  match ((beginTracks tracks).run stage).1.outcome with
  | .ok begun => if (firstFailure? begun).isSome then sleepers begun else []
  | .error _ => []

/-- A track that still waits goes on to its end, at its time or, cancelled, at
once. -/
def settle : Instrument R × Option R → Session (Stage R) R Unit
  | (instrument, some reading) => wake (instrument, reading)
  | (instrument, none) => instrument.stop

/-- What becomes of tracks that wait: in some order each of them goes on at the reading
that it waits for, or is cancelled. -/
def IsSettlement (waiting : List (Instrument R × R))
    (settled : List (Instrument R × Option R)) : Prop :=
  ∃ ordered, ordered.Perm waiting ∧
    List.Forall₂ (fun sleeper settled =>
      settled = (sleeper.1, some sleeper.2) ∨ settled = (sleeper.1, none))
      ordered settled

/-- Tracks go on to their ends without a command: nothing moves but the clock. -/
def SettleSilently (sleeping : List (Instrument R × Option R)) (stage : Stage R) :
    Prop :=
  ∃ clock, (sleeping.forM settle).run stage = (.succeed (), { stage with clock })

/-- A track whose instrument is at rest moves nothing but the clock. -/
theorem run_settle
    {sleeper : Instrument R × Option R}
    (rests : sleeper.1.IsAtRest stage) :
    ∃ clock, (settle sleeper).run stage = (.succeed (), { stage with clock }) := by
  obtain ⟨instrument, reading⟩ := sleeper
  cases reading with
  | none => exact ⟨stage.clock, Instrument.run_stop_of_resting rests.playing⟩
  | some reading =>
      have set : (Stage.setClock reading).run stage =
          (⟨.ok (), []⟩, { stage with clock := reading }) := rfl
      have stopped : instrument.stop.run { stage with clock := reading } =
          (.succeed (), { stage with clock := reading }) :=
        Instrument.run_stop_of_resting rests.playing
      refine ⟨reading, ?_⟩
      rw [settle, wake, Session.run_bind_of_ok set, stopped]
      rfl

/-- So do any number of such tracks, in whatever order. -/
theorem run_settleAll
    {sleeping : List (Instrument R × Option R)}
    (rests : ∀ sleeper ∈ sleeping, sleeper.1.IsAtRest stage) :
    SettleSilently sleeping stage := by
  induction sleeping generalizing stage with
  | nil => exact ⟨stage.clock, rfl⟩
  | cons sleeper rest hypothesis =>
      obtain ⟨reading, ran⟩ := run_settle (rests sleeper List.mem_cons_self)
      have resting (later : Instrument R × Option R) (inside : later ∈ rest) :
          later.1.IsAtRest { stage with clock := reading } :=
        have before := rests later (List.mem_cons_of_mem _ inside)
        ⟨before.playing, before.started⟩
      obtain ⟨clock, settled⟩ := hypothesis resting
      refine ⟨clock, ?_⟩
      rw [List.forM_eq_forM] at settled
      rw [List.forM_eq_forM, List.forM_cons, Session.run_bind_of_ok ran, settled]
      rfl

/-- Tracks that a performance leaves waiting are tracks of it. -/
theorem exists_track_of_leftWaiting
    {tracks : List (Instrument R × Melody R)}
    {sleeper : Instrument R × R}
    (member : sleeper ∈ leftWaiting tracks stage) :
    ∃ track ∈ tracks, track.1 = sleeper.1 := by
  unfold leftWaiting at member
  split at member
  next begun outcome =>
      split at member
      · exact exists_track_of_sleeper ⟨outcome, rfl⟩ member
      · cases member
  next => cases member

omit [Machine R] in
/-- A track that is settled is one that waited. -/
theorem IsSettlement.exists_waiting
    {waiting : List (Instrument R × R)}
    {settled : List (Instrument R × Option R)}
    (settlement : IsSettlement waiting settled)
    {sleeper : Instrument R × Option R}
    (member : sleeper ∈ settled) :
    ∃ waited ∈ waiting, waited.1 = sleeper.1 := by
  obtain ⟨ordered, same, each⟩ := settlement
  obtain ⟨waited, inside, goes⟩ := exists_related_of_mem each.flip member
  refine ⟨waited, same.mem_iff.1 inside, ?_⟩
  rcases goes with rfl | rfl <;> rfl

end

/-- However a performance ends whose tracks were found, whatever was played and
stopped before it, and no matter how many names are for one instrument: every
instrument that the mapping names is at rest. The tracks that it leaves waiting then
move nothing but the clock, in whatever order they go on at their times or are
cancelled, and so nothing more is written; nor would any other tracks of its
instruments write anything. -/
theorem instruments_rest_after_play
    [Limits]
    {opened : Stage Float}
    (onTape : opened.OnTape)
    {known : List (Instrument Float)}
    {ensemble looked : Ensemble Float}
    (history : History opened known ensemble)
    {mapping times : Value Float}
    {entries : Entries Float}
    (named : mapping.toEntries = .ok entries)
    {tracks : List (Instrument Float × Melody Float)}
    (found : (entries.mapM (track times)).Reaches ensemble tracks looked)
    (interrupt : Bool) :
    (∀ entry ∈ entries, ∃ instrument,
      ensemble.band.entries.lookup? entry.1 = some instrument ∧
      instrument.IsAtRest
        ((play mapping times interrupt).run ensemble).2.stage) ∧
    (∀ settled, IsSettlement (leftWaiting tracks ensemble.stage) settled →
      SettleSilently settled
        ((play mapping times interrupt).run ensemble).2.stage) ∧
    ∀ sleeping : List (Instrument Float × Option Float),
      (∀ sleeper ∈ sleeping, sleeper.1 ∈ ensemble.mapped entries) →
      SettleSilently sleeping
        ((play mapping times interrupt).run ensemble).2.stage := by
  obtain ⟨onStage, held⟩ := history.onStage
  obtain ⟨each, rfl⟩ := reaches_tracks.1 found
  have instruments := instruments_of_tracks each
  have played : ((play mapping times interrupt).run ensemble).2.stage =
      ((playTracks tracks interrupt).run ensemble.stage).2 :=
    congrArg Ensemble.stage (run_play_of_tracks named found interrupt)
  have members (track : Instrument Float × Melody Float)
      (inside : track ∈ tracks) : track.1 ∈ known :=
    held _ (mem_held_of_mem_mapped
      (instruments ▸ List.mem_map_of_mem inside))
  have rested := (Stage.ensures_playTracks onTape members interrupt).of_run
    (fun _ _ => id) (fun _ => id) onStage
  rw [played]
  have rests (instrument : Instrument Float)
      (inside : instrument ∈ ensemble.mapped entries) :=
    rested.rests instrument (List.mem_reverse.2 (instruments ▸ inside))
  refine ⟨fun entry member => ?_, fun settled settlement => ?_,
    fun sleeping among =>
      run_settleAll fun sleeper inside => rests _ (among sleeper inside)⟩
  · obtain ⟨named, inTracks, found⟩ := exists_related_of_mem each member
    have lookup := (reaches_track found).1
    exact ⟨named.1, lookup, rests _ (List.mem_filterMap.2 ⟨entry, member, lookup⟩)⟩
  · refine run_settleAll fun sleeper inside => rests _ ?_
    obtain ⟨waited, waits, same⟩ := settlement.exists_waiting inside
    obtain ⟨track, inTracks, own⟩ := exists_track_of_leftWaiting waits
    rw [← same, ← own, ← instruments]
    exact List.mem_map_of_mem inTracks

/-- What is asked for to get a trio: a modulated lead, for which there are two names,
a noisy bass, and two melodies, one of which has no duration. -/
def trioRequests : List (Request Float) :=
  [.make (.map [(.text "lfos", .map [(.text "osc.gain", .map [])])]) [],
    .save (.text "lead"), .save (.text "double"),
    .make (.map [(.text "noise", .map [(.text "type", .text "white")])]) [],
    .save (.text "bass"),
    .melodies (storeNote "drone" [(.text "note", .text "A")]),
    .melodies (storeNote "broken"
      [(.text "note", .text "A"), (.text "duration", .text "long")])]

/-- A lead, its double and a bass on a tape that waits. -/
def trio : Ensemble Float :=
  ((handleAll trioRequests).run
    (onStageOf (Stage.openTape 2.0 .manual true))).2

/-- Who plays what: the lead waits twice when the bass is refused. -/
def trioMapping : Entries Float :=
  [(.text "lead", .text "drone"), (.text "double", .text "drone"),
    (.text "bass", .text "broken")]

theorem trio_rests_after_refused_play :
    ∃ known tracks looked,
      (Stage.openTape (2.0 : Float) .manual true).OnTape ∧
      History (Stage.openTape 2.0 .manual true) known trio ∧
      (Value.map trioMapping).toEntries = .ok trioMapping ∧
      (trioMapping.mapM (track (.int 1))).Reaches trio tracks looked ∧
      ((play (.map trioMapping) (.int 1) false).run trio).1.outcome.isOk =
        false ∧
      (leftWaiting tracks trio.stage).length = 2 ∧
      (∀ entry ∈ trioMapping, ∃ instrument,
        trio.band.entries.lookup? entry.1 = some instrument ∧
        instrument.IsAtRest
          ((play (.map trioMapping) (.int 1) false).run trio).2.stage) ∧
      (∀ settled, IsSettlement (leftWaiting tracks trio.stage) settled →
        SettleSilently settled
          ((play (.map trioMapping) (.int 1) false).run trio).2.stage) ∧
      ∀ sleeping : List (Instrument Float × Option Float),
        (∀ sleeper ∈ sleeping, sleeper.1 ∈ trio.mapped trioMapping) →
        SettleSilently sleeping
          ((play (.map trioMapping) (.int 1) false).run trio).2.stage := by
  have onTape : (Stage.openTape (2.0 : Float) .manual true).OnTape :=
    ⟨Tape.blank, rfl⟩
  have byName : ∀ request ∈ trioRequests, request.IsByName := by
    simp [trioRequests, Request.IsByName]
  obtain ⟨known, history⟩ :
      ∃ known, History (Stage.openTape 2.0 .manual true) known trio :=
    exists_history _ byName
  have named : (Value.map trioMapping).toEntries = .ok trioMapping := rfl
  have waiting : ((trioMapping.mapM (track (.int 1))).run
      trio).1.outcome.toOption.any (fun tracks =>
        (leftWaiting tracks trio.stage).length == 2) = true := by
    decide +kernel
  have refused :
      ((play (.map trioMapping) (.int 1) false).run trio).1.outcome.isOk =
        false := by
    decide +kernel
  obtain ⟨tracks, outcome, two⟩ := Attempt.exists_of_any waiting
  have found : (trioMapping.mapM (track (.int 1))).Reaches trio tracks _ :=
    ⟨outcome, rfl⟩
  exact ⟨known, tracks, _, onTape, history, named, found, refused,
    beq_iff_eq.1 two, instruments_rest_after_play onTape history named found false⟩

end Ensemble
end MelodyAutomation

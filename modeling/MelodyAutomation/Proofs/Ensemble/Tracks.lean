import MelodyAutomation.Ensemble
import MelodyAutomation.Proofs.Instrument.Rules

/-!
# Tracks

What a performance does, it does by beginning to play, stopping and destroying the
instruments of its tracks, and by moving the clock. So a property of sessions that has
these holds of the whole performance; in particular, a frame that has these is a frame
of the performance.
-/

namespace MelodyAutomation
namespace Ensemble

variable {R : Type} [Machine R]

/-- The tracks that have begun are those that were to begin, in order. -/
theorem instruments_of_beginTracks
    {tracks : List (Instrument R × Melody R)}
    {stage final : Stage R}
    {begun : List (Instrument R × Attempt R (Option R))}
    (reaches : (beginTracks tracks).Reaches stage begun final) :
    begun.map Prod.fst = tracks.map Prod.fst := by
  induction tracks generalizing stage begun with
  | nil =>
      obtain ⟨rfl, rfl⟩ := Session.reaches_pure.1 reaches
      rfl
  | cons track rest hypothesis =>
      obtain ⟨instrument, melody⟩ := track
      simp only [beginTracks, Session.reaches_bind,
        Session.reaches_pure] at reaches
      obtain ⟨outcome, middle, -, others, _, later, rfl, rfl⟩ := reaches
      simp [hypothesis later]

omit [Machine R] in
/-- A waiting track is one that has begun. -/
theorem mem_sleepers
    {begun : List (Instrument R × Attempt R (Option R))}
    {instrument : Instrument R}
    {wake : R} :
    (instrument, wake) ∈ sleepers begun ↔
      (instrument, .ok (some wake)) ∈ begun := by
  simp only [sleepers, List.mem_filterMap]
  constructor
  · rintro ⟨⟨own, outcome⟩, member, same⟩
    rcases outcome with failure | (_ | reading)
    · cases same
    · cases same
    · cases same
      exact member
  · exact fun member => ⟨_, member, rfl⟩

/-- The tracks that wait are among those that were to begin. -/
theorem exists_track_of_sleeper
    {tracks : List (Instrument R × Melody R)}
    {stage final : Stage R}
    {begun : List (Instrument R × Attempt R (Option R))}
    (reaches : (beginTracks tracks).Reaches stage begun final)
    {sleeper : Instrument R × R}
    (member : sleeper ∈ sleepers begun) :
    ∃ track ∈ tracks, track.1 = sleeper.1 := by
  have inBegun : sleeper.1 ∈ begun.map Prod.fst :=
    List.mem_map_of_mem (mem_sleepers.1 member)
  rw [instruments_of_beginTracks reaches] at inBegun
  exact List.mem_map.1 inBegun

/-- A property of sessions holds of what a performance does with an instrument. -/
structure PlayerRules (holds : ∀ α : Type, Session (Stage R) R α → Prop)
    (instrument : Instrument R) : Prop where
  beginPlaying : ∀ composition,
    holds (Option R) (instrument.beginPlaying composition)
  stop : holds Unit instrument.stop
  destroy : holds Unit instrument.destroy

/-- A frame has what a performance does with an instrument. -/
abbrev TrackRules (step : Stage R → Stage R → Prop)
    (instrument : Instrument R) : Prop :=
  PlayerRules (fun _ session => session.Keeps step) instrument

section

variable {holds : ∀ α : Type, Session (Stage R) R α → Prop}
variable {tracks : List (Instrument R × Melody R)}

/-- What holds of all that an instrument does holds of what a performance does with
it. -/
theorem PlayerRules.ofOwn
    {instrument : Instrument R}
    (rules : Instrument.OwnRules instrument (fun _ => True) holds) :
    PlayerRules holds instrument where
  beginPlaying _ := rules.beginPlaying fun schedule _ =>
    instrument.accepts_all schedule
  stop := rules.stopAll
  destroy := rules.destroy

theorem holds_beginTracks
    (general : Session.Rules holds)
    (rules : ∀ track ∈ tracks, PlayerRules holds track.1) :
    holds (List (Instrument R × Attempt R (Option R))) (beginTracks tracks) := by
  induction tracks with
  | nil => exact general.pure _
  | cons track rest hypothesis =>
      obtain ⟨instrument, melody⟩ := track
      have own := rules (instrument, melody) (by simp)
      refine general.bind (general.attempt (own.beginPlaying _))
        fun outcome => ?_
      refine general.bind (hypothesis fun later member =>
        rules later (by simp [member])) fun others => ?_
      exact general.pure _

theorem holds_destroyTracks
    (general : Session.Rules holds)
    (rules : ∀ track ∈ tracks, PlayerRules holds track.1) :
    holds Unit (destroyTracks tracks) :=
  general.forM fun track member => (rules track member).destroy

theorem holds_wake
    (general : Session.Rules holds)
    {instrument : Instrument R}
    (rules : PlayerRules holds instrument)
    (setClock : ∀ clock : R, holds Unit (Stage.setClock clock))
    (reading : R) :
    holds Unit (wake (instrument, reading)) :=
  general.bind (setClock reading) fun _ => rules.stop

/-- What a performance takes besides its tracks: it looks at the clock and sets it, and
it goes on only with tracks that have begun. -/
structure PerformanceRules (holds : ∀ α : Type, Session (Stage R) R α → Prop) :
    Prop extends Session.Rules holds where
  bind_of_reaches : ∀ {α β : Type} {first : Session (Stage R) R α}
    {next : α → Session (Stage R) R β},
    holds α first →
      (∀ value, (∃ state reached, first.Reaches state value reached) →
        holds β (next value)) →
      holds β (first >>= next)
  look : ∀ {α : Type} {next : Stage R → Session (Stage R) R α},
    (∀ left right : Stage R, left.clock = right.clock →
      next left = next right) →
    (∀ stage, holds α (next stage)) → holds α (get >>= next)
  setClock : ∀ clock : R, holds Unit (Stage.setClock clock)

/-- What holds of the parts of a performance holds of the whole of it. -/
theorem PerformanceRules.playTracks
    (general : PerformanceRules holds)
    (rules : ∀ track ∈ tracks, PlayerRules holds track.1)
    (interrupt : Bool) :
    holds Ending (playTracks tracks interrupt) := by
  have destroys := holds_destroyTracks general.toRules rules
  refine general.bind_of_reaches (holds_beginTracks general.toRules rules)
    fun begun reached => ?_
  obtain ⟨_, _, reaches⟩ := reached
  have own (sleeper : Instrument R × R) (member : sleeper ∈ sleepers begun) :
      PlayerRules holds sleeper.1 := by
    obtain ⟨track, inTracks, same⟩ := exists_track_of_sleeper reaches member
    exact same ▸ rules track inTracks
  have wakes (sleeper : Instrument R × R) (member : sleeper ∈ sleepers begun) :
      holds Unit (wake sleeper) :=
    holds_wake general.toRules (own sleeper member) general.setClock sleeper.2
  cases firstFailure? begun with
  | some failure => exact general.bind destroys fun _ => general.throw _
  | none =>
      refine general.look (fun left right same => by rw [same]) fun stage => ?_
      simp only [List.partition_eq_filter_filter]
      split
      · refine general.bind (general.forM fun sleeper member =>
          wakes sleeper (List.mem_filter.1 member).1) fun _ => ?_
        refine general.bind (general.forM fun sleeper member =>
          (own sleeper (List.mem_filter.1 member).1).stop) fun _ => ?_
        exact general.bind destroys fun _ => general.pure _
      · refine general.bind (general.forM fun sleeper member =>
          wakes sleeper (List.mem_mergeSort.1 member)) fun _ => ?_
        refine general.bind destroys fun _ => ?_
        exact general.bind (general.report _) fun _ => general.pure _

end

/-! ## Frames -/

section

variable {step : Stage R → Stage R → Prop} [IsPreorder (Stage R) step]
variable {tracks : List (Instrument R × Melody R)}

theorem keeps_beginTracks
    (rules : ∀ track ∈ tracks, TrackRules step track.1) :
    (beginTracks tracks).Keeps step :=
  holds_beginTracks (Session.keeps_rules step) rules

theorem keeps_wake
    {instrument : Instrument R}
    (rules : TrackRules step instrument)
    (setClock : ∀ clock : R,
      (Stage.setClock clock : Session (Stage R) R Unit).Keeps step)
    (reading : R) :
    (wake (instrument, reading)).Keeps step :=
  holds_wake (Session.keeps_rules step) rules setClock reading

/-- A performance keeps what its instruments and the clock keep. -/
theorem keeps_playTracks
    (rules : ∀ track ∈ tracks, TrackRules step track.1)
    (setClock : ∀ clock : R,
      (Stage.setClock clock : Session (Stage R) R Unit).Keeps step)
    (interrupt : Bool) :
    (playTracks tracks interrupt).Keeps step :=
  PerformanceRules.playTracks
    { Session.keeps_rules step with
      bind_of_reaches := Session.keeps_bind_of_reaches
      look := fun _ continued => Session.keeps_get_bind continued
      setClock }
    rules interrupt

end

end Ensemble
end MelodyAutomation

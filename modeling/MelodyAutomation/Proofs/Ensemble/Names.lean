import MelodyAutomation.Proofs.Instrument.Refusal
import MelodyAutomation.Proofs.Melody.Copies
import MelodyAutomation.Proofs.Schedule.Refusals

/-!
# Names of a performance

A performance looks up the names in its mapping before anything else, and no other ones.
So when all of them are registered it may still be refused, for a literal somewhere in
its melodies or its envelopes, but not for a name.
-/

namespace MelodyAutomation

/-! ## Instruments -/

namespace Instrument

variable (instrument : Instrument Float)

theorem stop_findsNames : instrument.stop.RefusedFor Failure.FindsNames :=
  instrument.stop_succeeds.imp (fun _ => id) fun _ => False.elim

theorem destroy_findsNames : instrument.destroy.RefusedFor Failure.FindsNames :=
  instrument.stop_findsNames.bind fun _ _ =>
    Session.yields_forM fun _ _ => Stage.refusedFor_stop (by simp)

/-- Whatever is refused while an instrument begins to play, it is no name. -/
theorem beginPlaying_findsNames [Limits] (composition : Value Float) :
    (instrument.beginPlaying composition).RefusedFor Failure.FindsNames := by
  refine refusedFor_beginPlaying timely_double instrument.stop_findsNames ?_
  refine (instrument.scheduler.refusedFor_schedule composition).imp
    (fun schedule _ target _ block _ segment _ => ?_) fun _ => id
  exact ⟨fun _ => Value.refusedFor_add _ _, fun _ => Value.refusedFor_add _ _,
    Value.refusedFor_toScalar _⟩

end Instrument

namespace Registry

variable {R T : Type} [Machine R]

/-- A registry has entries under all of some names. -/
def HasAll (names : List (Value R)) (registry : Registry R T) : Prop :=
  ∀ name ∈ names, (registry.entries.lookup? name).isSome = true

theorem retrieve_findsNames
    {names : List (Value R)}
    {name : Value R}
    (member : name ∈ names) :
    (retrieve name : Session (Registry R T) R T).Yields (HasAll names)
      (fun _ => True) Failure.FindsNames := by
  have keyed : (requireKey name : Session (Registry R T) R Unit).Yields
      (HasAll names) (fun _ => True) Failure.FindsNames := by
    unfold requireKey
    split
    · exact Session.yields_pure trivial
    · exact Session.yields_throw trivial
  refine keyed.bind fun _ _ => Session.yields_get_bind fun registry has => ?_
  obtain ⟨object, found⟩ := Option.isSome_iff_exists.1 (has name member)
  rw [found]
  exact Session.yields_pure trivial

end Registry

namespace Ensemble

variable [Limits]

/-- The names that a mapping is about are registered: those of instruments with the
band, and those of melodies with the album. -/
structure Registers (entries : Entries Float) (ensemble : Ensemble Float) : Prop where
  band : ensemble.band.HasAll (entries.map Prod.fst)
  album : ensemble.album.HasAll (entries.map Prod.snd)

variable {entries : Entries Float} {tracks : List (Instrument Float × Melody Float)}

theorem track_findsNames
    (times : Value Float)
    {entry : Value Float × Value Float}
    (member : entry ∈ entries) :
    (track times entry).Yields (Registers entries) (fun _ => True)
      Failure.FindsNames := by
  have ofInstrument := Registry.retrieve_findsNames (T := Instrument Float)
    (List.mem_map_of_mem member : entry.1 ∈ entries.map Prod.fst)
  have ofMelody := Registry.retrieve_findsNames (T := Melody Float)
    (List.mem_map_of_mem member : entry.2 ∈ entries.map Prod.snd)
  refine (ofInstrument.within (fun _ known => known.band)
    fun _ _ known band => ⟨band, known.album⟩).bind fun instrument _ => ?_
  refine (ofMelody.within (fun _ known => known.album)
    fun _ _ known album => ⟨known.band, album⟩).bind fun melody _ => ?_
  exact (Session.yields_logged (melody.refusedFor_loop times)).bind fun _ _ =>
    Session.yields_pure trivial

/-- Tracks that have begun are refused, if at all, for no name. -/
theorem beginTracks_findsNames :
    (beginTracks tracks).Yields (fun _ => True)
      (fun begun => ∀ track ∈ begun, track.2.RefusedFor Failure.FindsNames)
      Failure.FindsNames := by
  induction tracks with
  | nil => exact Session.yields_pure fun _ member => nomatch member
  | cons track rest hypothesis =>
      obtain ⟨instrument, melody⟩ := track
      refine ((instrument.beginPlaying_findsNames melody.composition).attempt
        Failure.FindsNames).bind fun outcome refused => ?_
      refine hypothesis.bind fun others allRefused => ?_
      exact Session.yields_pure (List.forall_mem_cons.2 ⟨refused, allRefused⟩)

omit [Limits] in
theorem destroyTracks_findsNames :
    (destroyTracks tracks).RefusedFor Failure.FindsNames :=
  Session.yields_forM fun track _ => track.1.destroy_findsNames

omit [Limits] in
theorem wake_findsNames (sleeper : Instrument Float × Float) :
    (wake sleeper).RefusedFor Failure.FindsNames :=
  (Session.yields_modify fun _ _ => trivial).bind fun _ _ =>
    sleeper.1.stop_findsNames

theorem playTracks_findsNames (interrupt : Bool) :
    (playTracks tracks interrupt).RefusedFor Failure.FindsNames := by
  refine beginTracks_findsNames.bind fun begun refused => ?_
  cases found : firstFailure? begun with
  | some failure =>
      refine destroyTracks_findsNames.bind fun _ _ => Session.yields_throw ?_
      obtain ⟨⟨instrument, outcome⟩, member, same⟩ :=
        List.exists_of_findSome?_eq_some found
      have own := refused _ member
      cases outcome with
      | ok wake => cases same
      | error cause =>
          obtain rfl := Option.some.inj same
          exact own
  | none =>
      refine Session.yields_get_bind fun stage _ => ?_
      simp only
      split
      · refine (Session.yields_forM fun sleeper _ =>
          wake_findsNames sleeper).bind fun _ _ => ?_
        refine (Session.yields_forM fun sleeper _ =>
          sleeper.1.stop_findsNames).bind fun _ _ => ?_
        exact destroyTracks_findsNames.bind fun _ _ => Session.yields_pure trivial
      · refine (Session.yields_forM fun sleeper _ =>
          wake_findsNames sleeper).bind fun _ _ => ?_
        refine destroyTracks_findsNames.bind fun _ _ => ?_
        exact Session.yields_report.bind fun _ _ => Session.yields_pure trivial

/-- A performance all of whose names are registered is not refused for a name. -/
theorem yields_play
    {mapping : Value Float}
    (named : mapping.toEntries = .ok entries)
    (times : Value Float)
    (interrupt : Bool) :
    (play mapping times interrupt).Yields (Registers entries)
      (fun _ => True) Failure.FindsNames := by
  have spelled : mapping.toEntries.Yields (· = entries) Failure.FindsNames := by
    rw [named]
    rfl
  refine (Session.yields_attempt spelled).bind ?_
  rintro _ rfl
  refine (Session.yields_mapM fun entry member =>
    track_findsNames times member).bind fun tracks _ => ?_
  refine Session.yields_report.bind fun _ _ => ?_
  exact (playTracks_findsNames interrupt).within (fun _ _ => trivial)
    fun _ _ known _ => ⟨known.band, known.album⟩

end Ensemble
end MelodyAutomation

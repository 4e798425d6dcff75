import MelodyAutomation.Proofs.Ensemble.Names
import MelodyAutomation.Proofs.Registry
import MelodyAutomation.Proofs.SessionContracts
import MelodyAutomation.Proofs.Value.Keys
import MelodyAutomation.Song

/-!
# Songs and their names

Loading a song registers an instrument under every key of one section and a melody under
every key of another one, just as they are spelled there. What it asks to play is asked
for by texts. So what a song asks to play is registered if the texts of all names to
play are among these keys, which they are where the names are texts themselves.

A name that is a number is not the same as its text. A song that spells a name as a
number in both places asks for a name that it does not register.
-/

namespace MelodyAutomation

variable {R : Type}

/-! ## Registries -/

namespace Registry

variable {T : Type} {name : String}

/-- A registry has an entry under a text. -/
def HasName (name : String) (registry : Registry R T) : Prop :=
  registry.entries.hasName name = true

/-- No entry under a text gets lost. -/
def KeepsNames (before after : Registry R T) : Prop :=
  ∀ name, before.HasName name → after.HasName name

instance : IsPreorder (Registry R T) KeepsNames where
  refl _ _ has := has
  trans _ _ _ first second name has := second name (first name has)

theorem keepsNames_make (made : Logged R T) : (make made).Keeps KeepsNames :=
  keeps_replace fun _ _ _ _ has => has

theorem keepsNames_change (changer : T → Logged R T) :
    (change changer).Keeps KeepsNames :=
  keeps_changeTo fun _ => keepsNames_make _

variable [Machine R] {key : Value R} {registry final : Registry R T}

theorem keepsNames_store (key : Value R) :
    (store key : Session (Registry R T) R Unit).Keeps KeepsNames := by
  have rules := Session.keeps_rules (R := R) (KeepsNames (R := R) (T := T))
  refine Session.keeps_get_bind fun _ => ?_
  refine rules.bind (keeps_requireCurrent _) fun object => ?_
  refine rules.bind (keeps_requireKey key) fun _ => ?_
  refine Session.keeps_modify fun registry name has => ?_
  change Keyed.hasName (registry.entries.insert key object) name = true
  rw [Keyed.hasName_insert, show Keyed.hasName registry.entries name = true from has]
  rfl

/-- What has been stored under a text has an entry there. -/
theorem hasName_of_store
    (stored : (store key).Reaches registry () final)
    (named : key.isText name) :
    final.HasName name := by
  simp only [store, Session.reaches_bind] at stored
  obtain ⟨_, _, -, object, _, -, _, before, -, changed⟩ := stored
  obtain rfl := Session.reaches_modify.1 changed
  change Keyed.hasName (before.entries.insert key object) name = true
  rw [Keyed.hasName_insert, named, Bool.or_true]

end Registry

namespace Song

section

variable [Machine R] {T : Type} {key : Value R} {registry final : Registry R T}

theorem keepsNames_saveAs (key : Value R) :
    (saveAs key : Session (Registry R T) R Unit).Keeps Registry.KeepsNames := by
  have rules := Session.keeps_rules (R := R)
    (Registry.KeepsNames (R := R) (T := T))
  have stores := Registry.keepsNames_store (T := T) key
  unfold saveAs
  split
  · exact rules.bind stores fun _ =>
      Session.keeps_get_bind fun _ => rules.report _
  · exact rules.bind stores fun _ => rules.throw _

theorem hasName_of_saveAs
    {name : String}
    (saved : (saveAs key).Reaches registry () final)
    (named : key.isText name) :
    final.HasName name := by
  unfold saveAs at saved
  split at saved
  · simp only [Registry.save, Session.reaches_bind] at saved
    obtain ⟨_, _, stored, _, _, got, reported⟩ := saved
    obtain ⟨rfl, rfl⟩ := Session.reaches_get.1 got
    obtain rfl := Session.reaches_report.1 reported
    exact Registry.hasName_of_store stored named
  · simp at saved

end

/-! ## Loading -/

/-- No instrument and no melody under a text gets lost. -/
def KeepsNames (before after : Ensemble R) : Prop :=
  before.band.KeepsNames after.band ∧ before.album.KeepsNames after.album

instance : IsPreorder (Ensemble R) KeepsNames where
  refl ensemble := ⟨refl ensemble.band, refl ensemble.album⟩
  trans _ _ _ first second :=
    ⟨fun name has => second.1 name (first.1 name has),
      fun name has => second.2 name (first.2 name has)⟩

variable {α : Type}

theorem keepsNames_onStage (session : Session (Stage R) R α) :
    (Ensemble.onStage session).Keeps KeepsNames :=
  fun _ => ⟨fun _ has => has, fun _ has => has⟩

theorem keepsNames_onBand
    {session : Session (Registry R (Instrument R)) R α}
    (keeps : session.Keeps Registry.KeepsNames) :
    (Ensemble.onBand session).Keeps KeepsNames :=
  Session.keeps_within keeps fun _ _ kept => ⟨kept, fun _ has => has⟩

theorem keepsNames_onAlbum
    {session : Session (Registry R (Melody R)) R α}
    (keeps : session.Keeps Registry.KeepsNames) :
    (Ensemble.onAlbum session).Keeps KeepsNames :=
  Session.keeps_within keeps fun _ _ kept => ⟨fun _ has => has, kept⟩

variable {ensemble final : Ensemble R}

/-- Every key of a section has an entry in the registry that the section fills. -/
theorem hasName_of_registerAll
    {register : Value R × Value R → Session (Ensemble R) R Unit}
    {has : String → Ensemble R → Prop}
    (keeps : ∀ entry name, (register entry).Keeps (Session.Maintains (has name)))
    (fills : ∀ entry before after name, (register entry).Reaches before () after →
      entry.1.isText name → has name after)
    {entries : Entries R}
    (registered : (entries.forM register).Reaches ensemble () final)
    {name : String}
    (named : Keyed.hasName entries name) :
    has name final := by
  obtain ⟨entry, member, spelled⟩ := List.any_eq_true.1 named
  have all := registered.forM
    (fun entry ensemble => ∀ name, entry.1.isText name → has name ensemble)
    (fun item other state held name spelled =>
      keeps item name state (held name spelled))
    (fun item before after reaches name => fills item before after name reaches)
  exact all entry member name spelled

variable [Machine R] {entry : Value R × Value R}

theorem keepsNames_registerInstrument (entry : Value R × Value R) :
    (registerInstrument entry).Keeps KeepsNames := by
  have rules := Session.keeps_rules (R := R) (KeepsNames (R := R))
  refine rules.attempt_bind fun settings _ => ?_
  refine rules.bind (rules.bind (keepsNames_onStage _) fun _ =>
    keepsNames_onBand (Registry.keepsNames_make _)) fun _ => ?_
  exact keepsNames_onBand (keepsNames_saveAs _)

theorem keepsNames_registerMelody (entry : Value R × Value R) :
    (registerMelody entry).Keeps KeepsNames := by
  have rules := Session.keeps_rules (R := R) (KeepsNames (R := R))
  refine rules.attempt_bind fun fields _ => ?_
  refine rules.bind (keepsNames_onAlbum (Registry.keepsNames_make _)) fun _ => ?_
  exact keepsNames_onAlbum ((Session.keeps_rules _).bind
    (Registry.keepsNames_change _) fun _ => keepsNames_saveAs _)

/-- An instrument is registered under its key. -/
theorem hasName_of_registerInstrument
    {name : String}
    (registered : (registerInstrument entry).Reaches ensemble () final)
    (named : entry.1.isText name) :
    final.band.HasName name := by
  simp only [registerInstrument, Session.reaches_bind] at registered
  obtain ⟨_, _, -, _, _, -, saved⟩ := registered
  obtain ⟨band, own, rfl⟩ := Session.reaches_within.1 saved
  exact hasName_of_saveAs own named

/-- A melody is registered under its key. -/
theorem hasName_of_registerMelody
    {name : String}
    (registered : (registerMelody entry).Reaches ensemble () final)
    (named : entry.1.isText name) :
    final.album.HasName name := by
  simp only [registerMelody, Session.reaches_bind] at registered
  obtain ⟨_, _, -, _, _, -, saved⟩ := registered
  obtain ⟨album, own, rfl⟩ := Session.reaches_within.1 saved
  obtain ⟨_, _, -, last⟩ := Session.reaches_bind.1 own
  exact hasName_of_saveAs last named

/-- The text of every name that a configuration asks to play is a key: those of
instruments in the section of instruments, those of melodies in that of melodies. -/
def IsSelfContained (configuration : Value R) : Prop :=
  ∀ fields instruments melodies play,
    configuration.toEntries = .ok fields →
    sectionEntries fields "instruments" = .ok instruments →
    sectionEntries fields "melodies" = .ok melodies →
    sectionEntries fields "play" = .ok play →
    ∀ entry ∈ play,
      (Keyed.lookup? instruments (.text entry.1.display)).isSome = true ∧
        (Keyed.lookup? melodies (.text entry.2.display)).isSome = true

/-- A configuration that contains what it asks to play registers that. -/
theorem registers_of_register
    [Limits]
    {configuration : Value Float}
    (contained : IsSelfContained configuration)
    {ensemble final : Ensemble Float}
    {song : Song Float}
    (registered : (register configuration).Reaches ensemble song final) :
    Ensemble.Registers song.play final := by
  simp only [register, Session.reaches_bind, Session.reaches_attempt,
    Session.reaches_pure] at registered
  obtain ⟨fields, _, ⟨mapped, rfl⟩, instruments, _, ⟨ofInstruments, rfl⟩, ⟨⟩, middle,
    made, melodies, _, ⟨ofMelodies, rfl⟩, ⟨⟩, later, composed, play, _,
    ⟨ofPlay, rfl⟩, ⟨⟩, _, ⟨-, rfl⟩, loop, _, ⟨-, rfl⟩, rfl, rfl⟩ := registered
  have melodiesKeep : (melodies.forM registerMelody).Keeps KeepsNames :=
    (Session.keeps_rules _).forM fun entry _ => keepsNames_registerMelody entry
  have inBand (name : String) (named : Keyed.hasName instruments name) :
      later.band.HasName name := by
    refine (melodiesKeep.of_reaches composed).1 name ?_
    exact hasName_of_registerAll
      (fun entry name state held => (keepsNames_registerInstrument entry state).1
        name held)
      (fun _ _ _ _ => hasName_of_registerInstrument) made named
  have inAlbum (name : String) (named : Keyed.hasName melodies name) :
      later.album.HasName name :=
    hasName_of_registerAll
      (fun entry name state held => (keepsNames_registerMelody entry state).2
        name held)
      (fun _ _ _ _ => hasName_of_registerMelody) composed named
  have each : ∀ entry ∈ playEntries play,
      (later.band.entries.lookup? entry.1).isSome = true ∧
        (later.album.entries.lookup? entry.2).isSome = true := by
    refine Keyed.forall_mem_ofList
      (fun key => (later.band.entries.lookup? key).isSome = true)
      (fun key => (later.album.entries.lookup? key).isSome = true)
      fun entry member => ?_
    obtain ⟨asked, inside, rfl⟩ := List.mem_map.1 member
    have keyed := contained fields instruments melodies play mapped ofInstruments
      ofMelodies ofPlay asked inside
    simp only [Keyed.isSome_lookup?_text] at keyed ⊢
    exact ⟨inBand _ keyed.1, inAlbum _ keyed.2⟩
  constructor
  · intro name member
    obtain ⟨entry, inside, rfl⟩ := List.mem_map.1 member
    exact (each entry inside).1
  · intro name member
    obtain ⟨entry, inside, rfl⟩ := List.mem_map.1 member
    exact (each entry inside).2

/-- What a song asks to play is found, if the configuration of the song contains it:
all names are registered once the song has been loaded, and to play the song is not
refused for a name, whatever else it may be refused for. -/
theorem names_resolve
    [Limits]
    {path : String}
    {file : SongFile Float}
    {configuration : Value Float}
    (read : (Song.configuration path file).outcome = .ok configuration)
    (contained : IsSelfContained configuration)
    {ensemble final : Ensemble Float}
    {song : Song Float}
    (loaded : (load path file).Reaches ensemble song final) :
    Ensemble.Registers song.play final ∧
      ∀ times interrupt,
        ((Ensemble.play (.map song.play) times interrupt).run
          final).1.outcome.RefusedFor Failure.FindsNames := by
  obtain ⟨found, _, opened, registered⟩ := Session.reaches_bind.1 loaded
  obtain ⟨outcome, rfl⟩ := Session.reaches_logged.1 opened
  obtain rfl := Except.ok.inj (read.symm.trans outcome)
  have registers := registers_of_register contained registered
  exact ⟨registers, fun times interrupt =>
    (Ensemble.yields_play (Value.toEntries_map _) times interrupt final
      registers).1⟩

/-- An ensemble on a tape, without instruments and melodies. -/
def emptyEnsemble : Ensemble Float :=
  Ensemble.onStageOf (Stage.openTape 0.0 .manual false)

/-- A melody of one note. -/
def noteEntry : Value Float :=
  .map [(.text "notes", .list [.map [(.text "note", .text "A")]])]

/-- A song that asks for one of its instruments by a number. -/
def spelledSong : Value Float :=
  .map
    [(.text "instruments", .map [(.text "lead", .map []), (.text "1", .map [])]),
      (.text "melodies", .map [(.text "riff", noteEntry)]),
      (.text "play", .map [(.text "lead", .text "riff"), (.int 1, .text "riff")])]

theorem names_resolve_of_spelled :
    ∃ song final,
      (Song.configuration "song" (.document spelledSong)).outcome =
        .ok spelledSong ∧
      IsSelfContained spelledSong ∧
      (load "song" (.document spelledSong)).Reaches emptyEnsemble song final ∧
      Ensemble.Registers song.play final ∧
      ∀ times interrupt,
        ((Ensemble.play (.map song.play) times interrupt).run
          final).1.outcome.RefusedFor Failure.FindsNames := by
  have contained : IsSelfContained spelledSong := by
    intro fields instruments melodies play mapped ofInstruments ofMelodies ofPlay
    obtain rfl := Except.ok.inj mapped
    obtain rfl := Except.ok.inj ofInstruments
    obtain rfl := Except.ok.inj ofMelodies
    obtain rfl := Except.ok.inj ofPlay
    decide +kernel
  have succeeds : ((load "song" (.document spelledSong)).run
      emptyEnsemble).1.outcome.isOk = true := by
    decide +kernel
  obtain ⟨song, outcome⟩ := Attempt.exists_of_isOk succeeds
  exact ⟨song, _, rfl, contained, ⟨outcome, rfl⟩,
    names_resolve rfl contained ⟨outcome, rfl⟩⟩

/-- An instrument under a number. -/
def numberedInstruments : Entries Float := [(.int 1, .map [])]

/-- A melody under a number. -/
def numberedMelodies : Entries Float := [(.int 2, noteEntry)]

/-- The numbers of both. -/
def numberedPlay : Entries Float := [(.int 1, .int 2)]

/-- A song whose names are numbers. -/
def numberedSong : Value Float :=
  .map
    [(.text "instruments", .map numberedInstruments),
      (.text "melodies", .map numberedMelodies),
      (.text "play", .map numberedPlay)]

/-- All that a song with numbers for names asks to play is a key, and yet it is missing
when it is to be played. -/
theorem numbered_names_are_missing :
    (∀ entry ∈ numberedPlay,
      (Keyed.lookup? numberedInstruments entry.1).isSome = true ∧
        (Keyed.lookup? numberedMelodies entry.2).isSome = true) ∧
    ∃ song final,
      (load "song" (.document numberedSong)).Reaches emptyEnsemble song final ∧
      ¬ ((Ensemble.play (.map song.play) (.int song.loop) false).run
        final).1.outcome.RefusedFor Failure.FindsNames := by
  refine ⟨by decide +kernel, ?_⟩
  have misses : ((load "song" (.document numberedSong)).run
      emptyEnsemble).1.outcome.toOption.any (fun song =>
        ((Ensemble.play (.map song.play) (.int song.loop) false).run
          ((load "song" (.document numberedSong)).run
            emptyEnsemble).2).1.outcome.missesName) = true := by
    decide +kernel
  generalize loaded : (load "song" (.document numberedSong)).run emptyEnsemble =
    reached at misses
  obtain ⟨song, outcome, missing⟩ := Attempt.exists_of_any misses
  refine ⟨song, reached.2, ?_, Attempt.not_findsNames missing⟩
  rw [Session.Reaches, loaded]
  exact ⟨outcome, rfl⟩

end Song
end MelodyAutomation

import MelodyAutomation.Proofs.Instrument.Assembly
import MelodyAutomation.Proofs.Instrument.Moves
import MelodyAutomation.Proofs.Instrument.Placement

/-!
# Instruments that were just built

A tape on which an instrument is built gets longer and is otherwise left as it was.
The nodes of the instrument are recorded behind all others, each in a place of its
own, and no command has been given yet that counts for any of them. Of an
instrument that was refused, all this is true of the nodes that are left of it.
-/

namespace MelodyAutomation

variable {R : Type}

/-- A node that was recorded before another one is created is left as it was. -/
theorem Tape.recording?_create
    (tape : Tape R)
    (blueprint : Blueprint R)
    {node : Node}
    (earlier : ∀ number ∈ node.slot?, number < tape.recordings.length) :
    (tape.create blueprint).2.recording? node = tape.recording? node := by
  cases node with
  | destination => rfl
  | created kind number =>
      exact List.getElem?_append_left (earlier number rfl)

namespace Stage

variable {stage : Stage R} {tape : Tape R}

theorem slots_create
    (onTape : stage.engine = .tape tape)
    (blueprint : Blueprint R) :
    slots { stage with engine := .tape (tape.create blueprint).2 } =
      stage.slots + 1 := by
  simp [slots, onTape, Tape.create]

theorem recording?_create_of_earlier
    (onTape : stage.engine = .tape tape)
    (blueprint : Blueprint R)
    {node : Node}
    (earlier : ∀ number ∈ node.slot?, number < stage.slots) :
    recording? { stage with engine := .tape (tape.create blueprint).2 } node =
      stage.recording? node := by
  rw [slots, onTape] at earlier
  rw [recording?, recording?, onTape]
  exact tape.recording?_create blueprint earlier

theorem recording?_create_self
    (stage : Stage R)
    (tape : Tape R)
    (blueprint : Blueprint R) :
    recording? { stage with engine := .tape (tape.create blueprint).2 }
        (tape.create blueprint).1.node =
      some (.ofBlueprint tape.recordings.length blueprint) := by
  simp [recording?, Tape.recording?, Tape.create, Recording.primitive,
    Recording.ofBlueprint, Recording.fresh]

end Stage

/-- Since a stage was opened, some primitives were assembled on it. -/
structure Assembled (opened : Stage R) (known : List Primitive)
    (stage : Stage R) : Prop where
  onTape : stage.OnTape
  slots_le : opened.slots ≤ stage.slots
  built_le : opened.built ≤ stage.built
  timebase_eq : stage.timebase = opened.timebase
  realtime_eq : stage.realtime = opened.realtime
  /-- What was built before plays on. -/
  playing_eq : ∀ number < opened.built,
    stage.playing number = opened.playing number
  /-- What was recorded before is left as it was. -/
  spared : ∀ node : Node, (∀ number ∈ node.slot?, number < opened.slots) →
    stage.recording? node = opened.recording? node
  between : ∀ primitive ∈ known, primitive.Between opened.slots stage.slots
  distinct : (known.map fun primitive => primitive.node.slot?).Nodup
  fresh : ∀ primitive ∈ known, stage.Holds primitive ∧
    stage.ledger? primitive.node = some (.fresh primitive.active)

namespace Assembled

variable {opened stage : Stage R} {known : List Primitive}

theorem start (onTape : opened.OnTape) : Assembled opened [] opened where
  onTape := onTape
  slots_le := Nat.le_refl _
  built_le := Nat.le_refl _
  timebase_eq := rfl
  realtime_eq := rfl
  playing_eq _ _ := rfl
  spared _ _ := rfl
  between := by simp
  distinct := by simp
  fresh := by simp

theorem perm
    {other : List Primitive}
    (assembled : Assembled opened known stage)
    (same : known.Perm other) :
    Assembled opened other stage :=
  { assembled with
    between := fun primitive member =>
      assembled.between primitive (same.mem_iff.2 member)
    distinct := (same.map _).nodup_iff.1 assembled.distinct
    fresh := fun primitive member =>
      assembled.fresh primitive (same.mem_iff.2 member) }

/-- A number is taken for an instrument beside all that were built before. -/
theorem takeNumber (assembled : Assembled opened known stage) :
    Assembled opened known ((Stage.takeNumber (R := R)).run stage).2 :=
  { assembled with
    built_le := Nat.le_succ_of_le assembled.built_le
    playing_eq := fun number earlier => by
      have other : number ≠ stage.built :=
        Nat.ne_of_lt (Nat.lt_of_lt_of_le earlier assembled.built_le)
      exact (if_neg other).trans (assembled.playing_eq number earlier) }

/-- The nodes that were assembled are recorded behind all earlier ones. -/
theorem slot_le
    (assembled : Assembled opened known stage)
    {primitive : Primitive}
    (member : primitive ∈ known) :
    ∃ number, primitive.node.slot? = some number ∧ opened.slots ≤ number ∧
      number < stage.slots := by
  obtain ⟨kind, number, node, least, greatest⟩ :=
    assembled.between primitive member
  exact ⟨number, by rw [node]; rfl, least, greatest⟩

/-- Commands for the nodes that were assembled which do not count for any. -/
theorem performed
    (assembled : Assembled opened known stage)
    {script : List (Command R)}
    (own : ∀ command ∈ script, ∃ primitive ∈ known,
      command.target = primitive.node)
    (uncounted : ∀ command ∈ script, ∀ ledger : Ledger,
      ledger.enter command = ledger) :
    Assembled opened known (stage.performed script) := by
  refine ⟨assembled.onTape.performed script, ?_, ?_, ?_, ?_, ?_, ?_, ?_,
    assembled.distinct, ?_⟩
  · simpa using assembled.slots_le
  · simpa using assembled.built_le
  · simpa using assembled.timebase_eq
  · simpa using assembled.realtime_eq
  · simpa using assembled.playing_eq
  · intro node earlier
    have elsewhere : script.filter (Command.concerns node) = [] := by
      rw [List.filter_eq_nil_iff]
      intro command inside
      obtain ⟨primitive, member, target⟩ := own command inside
      obtain ⟨number, place, least, -⟩ := assembled.slot_le member
      simp only [Command.concerns, target, place, decide_eq_true_eq]
      intro same
      have before := earlier number same.symm
      omega
    rw [Stage.recording?_performed, elsewhere, ← assembled.spared node earlier]
    simp
  · simpa using assembled.between
  · intro primitive member
    obtain ⟨holds, fresh⟩ := assembled.fresh primitive member
    refine ⟨holds.performed script, ?_⟩
    rw [Stage.ledger?_performed, fresh, Option.map_some, Option.some_inj]
    refine List.foldlRecOn (motive := (· = _)) _ _ rfl
      fun ledger same command inside => ?_
    exact (uncounted command (List.mem_filter.1 inside).1 ledger).trans same

variable [Machine R]

theorem connect
    (assembled : Assembled opened known stage)
    {primitive : Primitive}
    (member : primitive ∈ known)
    (inlet : Inlet) :
    Assembled opened known ((Stage.connect primitive inlet).run stage).2 := by
  rw [Stage.connect_eq, (Stage.reaches_performAll assembled.onTape _).2]
  refine assembled.performed (fun command inside => ?_)
    (fun command inside ledger => ?_) <;>
  · unfold Primitive.told at inside
    split at inside
    · obtain rfl := List.mem_singleton.1 inside
      first | exact ⟨primitive, member, rfl⟩ | rfl
    · cases inside

theorem create
    (assembled : Assembled opened known stage)
    (blueprint : Blueprint R)
    {primitive : Primitive}
    {final : Stage R}
    (created : (Stage.create blueprint).Reaches stage primitive final) :
    primitive.active = blueprint.isActive ∧
      Assembled opened (primitive :: known) final := by
  have between := Stage.between_of_create assembled.onTape created
  obtain ⟨tape, onTape⟩ := assembled.onTape
  obtain ⟨outcome, rfl⟩ := created
  rw [Stage.run_create onTape] at outcome between ⊢
  obtain rfl := Except.ok.inj outcome
  have longer : stage.slots ≤ Stage.slots { stage with
      engine := .tape (tape.create blueprint).2 } :=
    Stage.slots_create onTape blueprint ▸ Nat.le_succ _
  -- Earlier primitives have their places before the new one.
  have places (other : Primitive) (member : other ∈ known) (number : Nat)
      (place : number ∈ other.node.slot?) : number < stage.slots := by
    obtain ⟨own, ownPlace, -, greatest⟩ := assembled.slot_le member
    rw [ownPlace, Option.mem_some_iff] at place
    omega
  refine ⟨rfl, ⟨_, rfl⟩, Nat.le_trans assembled.slots_le longer, assembled.built_le,
    assembled.timebase_eq, assembled.realtime_eq, assembled.playing_eq, ?_, ?_, ?_,
    ?_⟩
  · intro node earlier
    rw [Stage.recording?_create_of_earlier onTape blueprint fun number place =>
      Nat.lt_of_lt_of_le (earlier number place) assembled.slots_le]
    exact assembled.spared node earlier
  · intro other member
    rcases List.mem_cons.1 member with rfl | earlier
    · exact between.mono assembled.slots_le (Nat.le_refl _)
    · exact (assembled.between other earlier).mono (Nat.le_refl _) longer
  · refine List.nodup_cons.2 ⟨?_, assembled.distinct⟩
    rintro same
    obtain ⟨other, member, same⟩ := List.mem_map.1 same
    have before := places other member tape.recordings.length (by rw [same]; rfl)
    rw [Stage.slots, onTape] at before
    exact Nat.lt_irrefl _ before
  · intro other member
    rcases List.mem_cons.1 member with rfl | earlier
    · have found := stage.recording?_create_self tape blueprint
      exact ⟨⟨_, found, rfl⟩, by rw [Stage.ledger?, found]; rfl⟩
    · have unchanged := Stage.recording?_create_of_earlier onTape blueprint
        (places other earlier)
      have fresh := assembled.fresh other earlier
      simpa only [Stage.Holds, Stage.ledger?, unchanged] using fresh

theorem rules (opened : Stage R) : BuildRules (Assembled opened) where
  perm same assembled := assembled.perm same
  create known blueprint stage assembled := by
    split
    next primitive outcome => exact assembled.create blueprint ⟨outcome, rfl⟩
    next failure outcome =>
      obtain ⟨tape, onTape⟩ := assembled.onTape
      rw [Stage.run_create onTape] at outcome
      cases outcome
  connect known primitive member inlet _ stage assembled :=
    assembled.connect member inlet

end Assembled

namespace Instrument

variable [Machine R] {opened stage : Stage R} {instrument : Instrument R}

omit [Machine R] in
/-- What a tape has of an instrument that was just built, since a stage was
opened. -/
structure Newborn (instrument : Instrument R) (opened stage : Stage R) : Prop
    extends Assembled opened instrument.primitives stage where
  voiced : instrument.IsVoiced
  least_number : opened.built ≤ instrument.number
  number_lt : instrument.number < stage.built
  resting : stage.playing instrument.number = false

theorem newborn_of_make
    {configuration : Value R}
    {options : Entries R}
    (onTape : opened.OnTape)
    (made : (make configuration options).Reaches opened instrument stage) :
    instrument.Newborn opened stage := by
  have ensures := (Assembled.rules opened).ensures_make
    (fun more stage (_ : Assembled opened (more ++ []) stage) => trivial)
    configuration options
  obtain ⟨voiced, last, assembled, numbered, rfl⟩ :=
    ensures.of_reaches (.start onTape) made
  rw [List.append_nil] at assembled
  have number : last.built = instrument.number := Except.ok.inj numbered
  exact { assembled.takeNumber with
    voiced := voiced
    least_number := number ▸ assembled.built_le
    number_lt := number ▸ Nat.lt_succ_self last.built
    resting := number ▸ if_pos rfl }

/-- What is left of an instrument whether or not it is refused. -/
theorem exists_assembled
    (onTape : opened.OnTape)
    (configuration : Value R)
    (options : Entries R) :
    ∃ left, Assembled opened left ((make configuration options).run opened).2 := by
  have ensures := (Assembled.rules opened).ensures_make
    (fun more stage (assembled : Assembled opened (more ++ []) stage) =>
      (⟨_, assembled⟩ : ∃ left, Assembled opened left stage))
    configuration options
  refine ensures.of_run ?_ (fun _ left => left) (.start onTape)
  rintro instrument stage ⟨-, last, assembled, -, rfl⟩
  exact ⟨_, assembled.takeNumber⟩

theorem grows_make (configuration : Value R) (options : Entries R) :
    (make configuration options).Keeps Stage.Grows := by
  intro stage onTape
  obtain ⟨left, assembled⟩ := exists_assembled onTape configuration options
  exact ⟨assembled.onTape, assembled.slots_le, assembled.built_le⟩

theorem placed_of_make
    {configuration : Value R}
    {options : Entries R}
    (onTape : opened.OnTape)
    (made : (make configuration options).Reaches opened instrument stage) :
    instrument.PlacedBetween opened stage := by
  have newborn := newborn_of_make onTape made
  exact ⟨newborn.least_number, newborn.number_lt, newborn.between⟩

end Instrument
end MelodyAutomation

import MelodyAutomation.Proofs.Instrument.Newborn
import MelodyAutomation.Proofs.Instrument.Steps

/-!
# The life of an instrument

Three counts and two flags tell everything that the ledgers of an instrument's nodes
say: how often it was started, stopped and destroyed, whether it plays, and whether
its modulating oscillators sound. An instrument may be started while it plays, and
then it is stopped once for both; so it is never stopped more often than started.
Moves keep the ledgers in step with these counts, and nothing that happens to other
instruments touches them.
-/

namespace MelodyAutomation

variable {R : Type}

/-! ## Lives -/

/-- What has become of an instrument so far. -/
structure Life where
  starts : Nat
  stops : Nat
  destroyed : Nat
  playing : Bool
  sounding : Bool

namespace Life

/-- The life of an instrument that was just built. -/
def born : Life := ⟨0, 0, 0, false, false⟩

/-- A life after one more move. -/
def next (life : Life) : Instrument.Move R → Life
  | .start =>
      { life with
        starts := life.starts + 1
        playing := true
        sounding := true }
  | .stop =>
      if life.playing then
        { life with stops := life.stops + 1, playing := false }
      else life
  | .silence =>
      { life with destroyed := life.destroyed + 1, sounding := false }
  | .write _ => life
  | .wait _ => life

/-- A life after some moves. -/
def after (life : Life) (moves : List (Instrument.Move R)) : Life :=
  moves.foldl next life

/-- The ledger of a source: an inactive one is never started. -/
def source (life : Life) (active : Bool) : Ledger :=
  if active then ⟨true, life.playing, life.starts, life.stops⟩ else .fresh false

/-- The ledger of a modulating oscillator. -/
def modulator (life : Life) : Ledger :=
  ⟨true, life.sounding, life.starts, life.destroyed⟩

/-- Every stop has a start, and so has playing on. -/
def IsBalanced (life : Life) : Prop :=
  life.stops + life.playing.toNat ≤ life.starts

theorem IsBalanced.next
    {life : Life}
    (balanced : life.IsBalanced)
    (move : Instrument.Move R) :
    (life.next move).IsBalanced := by
  obtain ⟨starts, stops, destroyed, playing, sounding⟩ := life
  cases move <;> cases playing <;> simp_all [IsBalanced, Life.next]
  omega

end Life

/-! ## Entries of a script -/

namespace Ledger

/-- Enter the commands of a script that concern a node. -/
def enterAll (node : Node) (script : List (Command R)) (ledger : Ledger) :
    Ledger :=
  (script.filter (Command.concerns node)).foldl enter ledger

variable {node : Node} {ledger : Ledger} {primitive : Primitive}
variable {command : Node → Command R}

@[simp] theorem enterAll_nil : enterAll node ([] : List (Command R)) ledger =
    ledger := rfl

theorem enterAll_append (first second : List (Command R)) :
    enterAll node (first ++ second) ledger =
      enterAll node second (enterAll node first ledger) := by
  simp [enterAll]

/-- Writes are not entered. -/
@[simp] theorem enterAll_writes (writes : List (Socket × Event R)) :
    enterAll node (writes.map .ofWrite) ledger = ledger := by
  refine List.foldlRecOn (motive := (· = ledger)) _ _ rfl
    fun entered same command inside => ?_
  obtain ⟨write, -, rfl⟩ := List.mem_map.1 (List.mem_filter.1 inside).1
  rw [Command.enter_ofWrite, same]

/-- What a primitive is told is entered for its own node. -/
theorem enterAll_told (own : ∀ node, (command node).target = node) :
    enterAll primitive.node (primitive.told command) ledger =
      if primitive.active then ledger.enter (command primitive.node)
      else ledger := by
  unfold Primitive.told
  split <;> simp [enterAll, Command.concerns, own]

/-- It is entered for no other one. -/
theorem enterAll_told_other
    (own : ∀ node, (command node).target = node)
    (other : primitive.node.slot? ≠ node.slot?) :
    enterAll node (primitive.told command) ledger = ledger := by
  unfold Primitive.told
  split <;> simp [enterAll, Command.concerns, own, other]

section

variable {entries : List (Target × Primitive)}

theorem enterAll_modulators_other
    (own : ∀ node, (command node).target = node)
    (others : ∀ entry ∈ entries, entry.2.node.slot? ≠ node.slot?) :
    enterAll node (entries.flatMap fun entry => entry.2.told command) ledger =
      ledger := by
  induction entries with
  | nil => rfl
  | cons entry rest hypothesis =>
      rw [List.flatMap_cons, enterAll_append,
        enterAll_told_other own (others entry List.mem_cons_self)]
      exact hypothesis fun later member =>
        others later (List.mem_cons_of_mem _ member)

/-- Of what modulating oscillators are told, each has its own entry. -/
theorem enterAll_modulators
    (own : ∀ node, (command node).target = node)
    (distinct : entries.Pairwise fun left right =>
      left.2.node.slot? ≠ right.2.node.slot?)
    {entry : Target × Primitive}
    (member : entry ∈ entries)
    (active : entry.2.active = true) :
    enterAll entry.2.node (entries.flatMap fun entry => entry.2.told command)
      ledger = ledger.enter (command entry.2.node) := by
  induction entries with
  | nil => cases member
  | cons first rest hypothesis =>
      rw [List.pairwise_cons] at distinct
      rw [List.flatMap_cons, enterAll_append]
      rcases List.mem_cons.1 member with rfl | later
      · rw [enterAll_told own, if_pos active, enterAll_modulators_other own]
        exact fun other inside => (distinct.1 other inside).symm
      · rw [enterAll_told_other own (distinct.1 entry later)]
        exact hypothesis distinct.2 later

end

end Ledger

namespace Instrument

/-- The nodes of an instrument are recorded in different places. -/
structure IsSpread (instrument : Instrument R) : Prop where
  oscillator_noise :
    instrument.oscillator.node.slot? ≠ instrument.noise.node.slot?
  oscillator_filter :
    instrument.oscillator.node.slot? ≠ instrument.filter.node.slot?
  noise_filter : instrument.noise.node.slot? ≠ instrument.filter.node.slot?
  modulator_oscillator : ∀ entry ∈ instrument.modulators,
    entry.2.node.slot? ≠ instrument.oscillator.node.slot?
  modulator_noise : ∀ entry ∈ instrument.modulators,
    entry.2.node.slot? ≠ instrument.noise.node.slot?
  modulator_filter : ∀ entry ∈ instrument.modulators,
    entry.2.node.slot? ≠ instrument.filter.node.slot?
  modulators : instrument.modulators.Pairwise fun left right =>
    left.2.node.slot? ≠ right.2.node.slot?

theorem isSpread_of_nodup
    {instrument : Instrument R}
    (distinct :
      (instrument.primitives.map fun primitive => primitive.node.slot?).Nodup) :
    instrument.IsSpread := by
  have modulator {entry : Target × Primitive}
      (member : entry ∈ instrument.modulators) :
      entry.2.node.slot? ∈ (instrument.modulators.map Prod.snd).map
        fun primitive => primitive.node.slot? := by
    rw [List.map_map]
    exact List.mem_map_of_mem member
  simp only [primitives, List.cons_append, List.nil_append, List.map_cons,
    List.nodup_cons, List.mem_cons, not_or] at distinct
  obtain ⟨⟨first, second, oscillator⟩, ⟨third, noise⟩, filter, rest⟩ := distinct
  refine ⟨first, second, third, ?_, ?_, ?_, ?_⟩
  · exact fun entry member same => oscillator (same ▸ modulator member)
  · exact fun entry member same => noise (same ▸ modulator member)
  · exact fun entry member same => filter (same ▸ modulator member)
  · rwa [List.map_map, List.Nodup, List.pairwise_map] at rest

/-- An instrument leads a life: the ledgers of its nodes say what it says. -/
structure Lives (instrument : Instrument R) (life : Life) (stage : Stage R) :
    Prop where
  onTape : stage.OnTape
  voiced : instrument.IsVoiced
  spread : instrument.IsSpread
  holds : ∀ primitive ∈ instrument.primitives, stage.Holds primitive
  playing : stage.playing instrument.number = life.playing
  oscillator : stage.ledger? instrument.oscillator.node =
    some (life.source instrument.oscillator.active)
  noise : stage.ledger? instrument.noise.node =
    some (life.source instrument.noise.active)
  filter : stage.ledger? instrument.filter.node =
    some (.fresh instrument.filter.active)
  modulators : ∀ entry ∈ instrument.modulators,
    stage.ledger? entry.2.node = some life.modulator
  balanced : life.IsBalanced

theorem Newborn.lives
    [Machine R]
    {instrument : Instrument R}
    {opened stage : Stage R}
    (newborn : instrument.Newborn opened stage) :
    instrument.Lives .born stage := by
  have source (active : Bool) : Life.born.source active = .fresh active := by
    cases active <;> rfl
  have fresh (primitive : Primitive)
      (member : primitive ∈ instrument.primitives) :=
    (newborn.fresh primitive member).2
  refine ⟨newborn.onTape, newborn.voiced, isSpread_of_nodup newborn.distinct,
    fun primitive member => (newborn.fresh primitive member).1, newborn.resting,
    ?_, ?_, ?_, ?_, Nat.le_refl 0⟩
  · rw [source]
    exact fresh _ (oscillator_mem instrument)
  · rw [source]
    exact fresh _ (noise_mem instrument)
  · exact fresh _ (filter_mem instrument)
  · intro entry member
    rw [fresh _ (modulator_mem member), newborn.voiced.modulators entry member]
    rfl

namespace Lives

variable {instrument : Instrument R} {life : Life} {stage : Stage R}

/-- A life is told by the records of an instrument's own nodes. -/
theorem alike
    (lives : instrument.Lives life stage)
    {after : Stage R}
    (alike : instrument.AlikeOn stage after) :
    instrument.Lives life after := by
  have ledger (primitive : Primitive)
      (member : primitive ∈ instrument.primitives) :
      after.ledger? primitive.node = stage.ledger? primitive.node := by
    rw [Stage.ledger?, Stage.ledger?, alike.recording_eq primitive member]
  refine ⟨alike.onTape_right, lives.voiced, lives.spread, ?_,
    alike.playing_eq.symm.trans lives.playing, ?_, ?_, ?_, ?_, lives.balanced⟩
  · intro primitive member
    rw [Stage.Holds, ← alike.recording_eq primitive member]
    exact lives.holds primitive member
  · exact (ledger _ (oscillator_mem instrument)).trans lives.oscillator
  · exact (ledger _ (noise_mem instrument)).trans lives.noise
  · exact (ledger _ (filter_mem instrument)).trans lives.filter
  · exact fun entry member =>
      (ledger _ (modulator_mem member)).trans (lives.modulators entry member)

variable [Machine R]

omit [Machine R] in
/-- Of what the modulating oscillators are told, nothing is entered for any other
node. -/
theorem enterAll_modulators_own
    (spread : instrument.IsSpread)
    {command : Node → Command R}
    (own : ∀ node, (command node).target = node)
    {primitive : Primitive}
    (member : primitive = instrument.oscillator ∨
      primitive = instrument.noise ∨ primitive = instrument.filter)
    (ledger : Ledger) :
    Ledger.enterAll primitive.node
      (instrument.modulators.flatMap fun entry => entry.2.told command) ledger =
        ledger := by
  refine Ledger.enterAll_modulators_other own ?_
  rcases member with rfl | rfl | rfl
  · exact spread.modulator_oscillator
  · exact spread.modulator_noise
  · exact spread.modulator_filter

/-- A move whose script makes the entries that a life foresees. -/
theorem result
    (lives : instrument.Lives life stage)
    {move : Move R}
    (playing : (move.result instrument stage).playing instrument.number =
      (life.next move).playing)
    (oscillator : Ledger.enterAll instrument.oscillator.node
      (move.script instrument stage) (life.source instrument.oscillator.active) =
        (life.next move).source instrument.oscillator.active)
    (noise : Ledger.enterAll instrument.noise.node
      (move.script instrument stage) (life.source instrument.noise.active) =
        (life.next move).source instrument.noise.active)
    (filter : Ledger.enterAll instrument.filter.node
      (move.script instrument stage) (.fresh instrument.filter.active) =
        .fresh instrument.filter.active)
    (modulators : ∀ entry ∈ instrument.modulators,
      Ledger.enterAll entry.2.node (move.script instrument stage)
        life.modulator = (life.next move).modulator) :
    instrument.Lives (life.next move) (move.result instrument stage) := by
  have ledger (node : Node) :
      (move.result instrument stage).ledger? node =
        (stage.ledger? node).map
          (Ledger.enterAll node (move.script instrument stage)) := by
    rw [Stage.ledger?, recording?_result]
    exact Stage.ledger?_performed _ _ _
  refine ⟨onTape_result _ _ lives.onTape, lives.voiced, lives.spread, ?_, playing,
    ?_, ?_, ?_, ?_, lives.balanced.next move⟩
  · intro primitive member
    rw [Stage.Holds, recording?_result]
    exact (lives.holds primitive member).performed _
  · rw [ledger, lives.oscillator, Option.map_some, oscillator]
  · rw [ledger, lives.noise, Option.map_some, noise]
  · rw [ledger, lives.filter, Option.map_some, filter]
  · intro entry member
    rw [ledger, lives.modulators entry member, Option.map_some,
      modulators entry member]

/-- Stopping an instrument that plays makes an entry for each of its sources. -/
theorem stop
    (lives : instrument.Lives life stage)
    (playing : life.playing = true) :
    instrument.Lives (life.next (R := R) .stop)
      (Move.stop.result instrument stage) := by
  have spread := lives.spread
  have script : Move.stop.script instrument stage =
      instrument.stopScript (.real stage.nowMs) := by
    simp only [Move.script, lives.playing, playing, if_true]
  have own (time : Option (Value R)) (node : Node) :
      (Command.stop node time).target = node := rfl
  have next : life.next (R := R) .stop =
      { life with stops := life.stops + 1, playing := false } := by
    simp only [Life.next, playing, if_true]
  have source (active : Bool) (node : Node) (time : Option (Value R)) :
      (if active then (life.source active).enter (.stop node time)
        else life.source active) = (life.next (R := R) .stop).source active := by
    rw [next]
    cases active <;> rfl
  refine lives.result (by rw [next]; exact if_pos rfl) ?_ ?_ ?_
    fun entry member => ?_
  all_goals
    simp only [script, stopScript, muteScript, Ledger.enterAll_append,
      Ledger.enterAll_writes]
  · rw [Ledger.enterAll_told (own _), source,
      Ledger.enterAll_told_other (own _) spread.oscillator_noise.symm]
  · rw [Ledger.enterAll_told_other (own _) spread.oscillator_noise,
      Ledger.enterAll_told (own _), source]
  · rw [Ledger.enterAll_told_other (own _) spread.oscillator_filter,
      Ledger.enterAll_told_other (own _) spread.noise_filter]
  · rw [Ledger.enterAll_told_other (own _)
        (spread.modulator_oscillator entry member).symm,
      Ledger.enterAll_told_other (own _)
        (spread.modulator_noise entry member).symm, next]
    rfl

/-- Starting an instrument makes an entry for each of its sources and modulating
oscillators. -/
theorem start (lives : instrument.Lives life stage) :
    instrument.Lives (life.next (R := R) .start)
      (Move.start.result instrument stage) := by
  have spread := lives.spread
  have own (node : Node) : (Command.start node : Command R).target = node := rfl
  refine lives.result (if_pos rfl) ?_ ?_ ?_ fun entry member => ?_
  all_goals simp only [Move.script, startScript, Ledger.enterAll_append]
  · simp only [Ledger.enterAll_told own,
      Ledger.enterAll_told_other own spread.oscillator_noise.symm,
      enterAll_modulators_own spread own (.inl rfl)]
    cases instrument.oscillator.active <;> rfl
  · simp only [Ledger.enterAll_told own,
      Ledger.enterAll_told_other own spread.oscillator_noise,
      enterAll_modulators_own spread own (.inr (.inl rfl))]
    cases instrument.noise.active <;> rfl
  · simp only [Ledger.enterAll_told_other own spread.oscillator_filter,
      Ledger.enterAll_told_other own spread.noise_filter,
      enterAll_modulators_own spread own (.inr (.inr rfl))]
  · simp only [
      Ledger.enterAll_told_other own
        (spread.modulator_oscillator entry member).symm,
      Ledger.enterAll_told_other own (spread.modulator_noise entry member).symm,
      Ledger.enterAll_modulators own spread.modulators member
        (lives.voiced.modulators entry member)]
    rfl

/-- Stopping an instrument that does not play makes no entry. -/
theorem stop_of_resting
    (lives : instrument.Lives life stage)
    (playing : life.playing = false) :
    instrument.Lives (life.next (R := R) .stop)
      (Move.stop.result instrument stage) := by
  have rests := lives.playing.trans playing
  have next : life.next (R := R) .stop = life := by
    simp [Life.next, playing]
  have script : Move.stop.script instrument stage = [] := by
    simp [Move.script, rests]
  refine lives.result ?_ ?_ ?_ ?_ fun entry member => ?_
  · rw [next, playing]
    exact if_pos rfl
  all_goals simp only [script, next, Ledger.enterAll_nil]

theorem move
    (lives : instrument.Lives life stage)
    (move : Move R) :
    instrument.Lives (life.next move) (move.result instrument stage) := by
  have spread := lives.spread
  have still {script : List (Command R)} :
      (stage.performed script).playing instrument.number = life.playing :=
    (congrFun (Stage.playing_performed stage script) _).trans lives.playing
  cases move with
  | start => exact lives.start
  | stop =>
      cases playing : life.playing with
      | true => exact lives.stop playing
      | false => exact lives.stop_of_resting playing
  | silence =>
      have own (node : Node) :
          (Command.stop node none : Command R).target = node := rfl
      refine lives.result still ?_ ?_ ?_ fun entry member => ?_
      · exact enterAll_modulators_own spread own (.inl rfl) _
      · exact enterAll_modulators_own spread own (.inr (.inl rfl)) _
      · exact enterAll_modulators_own spread own (.inr (.inr rfl)) _
      · exact Ledger.enterAll_modulators own spread.modulators member
          (lives.voiced.modulators entry member)
  | write schedule =>
      refine lives.result still ?_ ?_ ?_ fun entry member => ?_ <;>
        exact Ledger.enterAll_writes _
  | wait reading =>
      exact lives.result still rfl rfl rfl fun entry member => rfl

theorem moved
    (lives : instrument.Lives life stage)
    (moves : List (Move R)) :
    instrument.Lives (life.after moves) (instrument.moved moves stage) := by
  induction moves generalizing life stage with
  | nil => exact lives
  | cons move rest hypothesis => exact hypothesis (lives.move move)

end Lives

/-! ## Lives of any number of steps -/

namespace Step

/-- Whether a step destroys an instrument. -/
def isDestroy : Step R → Bool
  | act .destroy => true
  | _ => false

end Step

/-- What steps leave of a stage, each after the other and whether or not one is
refused. -/
def followed [Machine R] (instrument : Instrument R) (steps : List (Step R))
    (stage : Stage R) : Stage R :=
  steps.foldl (fun reached step => ((step.perform instrument).run reached).2)
    stage

/-- Whether a move silences the modulating oscillators. -/
def Move.isSilence : Move R → Bool
  | silence => true
  | _ => false

end Instrument

theorem Life.destroyed_after
    (life : Life)
    (moves : List (Instrument.Move R)) :
    (life.after moves).destroyed =
      life.destroyed + moves.countP Instrument.Move.isSilence := by
  induction moves generalizing life with
  | nil => rfl
  | cons move rest hypothesis =>
      have first : (life.next move).destroyed =
          life.destroyed + if move.isSilence then 1 else 0 := by
        cases move with
        | stop => cases playing : life.playing <;>
            simp [next, playing, Instrument.Move.isSilence]
        | _ => rfl
      rw [List.countP_cons, after, List.foldl_cons]
      refine (hypothesis (life.next move)).trans ?_
      omega

namespace Instrument

/-- Only a step that destroys the instrument silences its modulating
oscillators. -/
theorem Step.countP_isSilence
    [Machine R]
    (instrument : Instrument R)
    (step : Step R)
    (stage : Stage R) :
    (step.moves instrument stage).countP Move.isSilence =
      if step.isDestroy then 1 else 0 := by
  have beginning (composition : Value R) :
      (instrument.beginning composition stage).countP Move.isSilence = 0 := by
    unfold Instrument.beginning
    split
    · rfl
    · split <;> rfl
  cases step with
  | begin composition => exact beginning composition
  | resume reading => rfl
  | act own =>
      cases own with
      | play composition =>
          rw [moves, List.countP_append, beginning]
          split <;> rfl
      | applySchedule composition =>
          rw [moves]
          split <;> rfl
      | advance seconds =>
          rw [moves]
          split <;> rfl
      | _ => rfl

/-- An instrument is at rest: it does not play, and none of its nodes is started. -/
structure IsAtRest (instrument : Instrument R) (stage : Stage R) : Prop where
  playing : stage.playing instrument.number = false
  started : ∀ primitive ∈ instrument.primitives, ∃ recording,
    stage.recording? primitive.node = some recording ∧
      recording.started = false

/-- An instrument that neither plays nor sounds is at rest. -/
theorem Lives.isAtRest
    {instrument : Instrument R}
    {life : Life}
    {stage : Stage R}
    (lives : instrument.Lives life stage)
    (playing : life.playing = false)
    (sounding : life.sounding = false) :
    instrument.IsAtRest stage := by
  refine ⟨lives.playing.trans playing, ?_⟩
  have rests {node : Node} {ledger : Ledger}
      (found : stage.ledger? node = some ledger)
      (started : ledger.started = false) :
      ∃ recording, stage.recording? node = some recording ∧
        recording.started = false := by
    obtain ⟨recording, recorded, rfl⟩ := Option.map_eq_some_iff.1 found
    exact ⟨recording, recorded, started⟩
  have source (active : Bool) : (life.source active).started = false := by
    cases active
    · rfl
    · exact playing
  intro primitive member
  simp only [primitives, List.mem_append, List.mem_cons, List.not_mem_nil,
    or_false, List.mem_map] at member
  rcases member with (rfl | rfl | rfl) | ⟨entry, inside, rfl⟩
  · exact rests lives.oscillator (source _)
  · exact rests lives.noise (source _)
  · exact rests lives.filter rfl
  · exact rests (lives.modulators entry inside) sounding

/-! ## Lives on a tape in double precision -/

namespace Lives

variable {instrument : Instrument Float} {life : Life} {stage : Stage Float}

theorem step
    [Limits]
    (lives : instrument.Lives life stage)
    (step : Step Float) :
    instrument.Lives (life.after (step.moves instrument stage))
      ((step.perform instrument).run stage).2 := by
  rw [instrument.run_step step lives.onTape]
  exact lives.moved _

theorem followed
    [Limits]
    (lives : instrument.Lives life stage)
    (steps : List (Step Float)) :
    ∃ reached,
      reached.destroyed = life.destroyed + steps.countP Step.isDestroy ∧
      instrument.Lives reached (instrument.followed steps stage) := by
  induction steps generalizing life stage with
  | nil => exact ⟨life, rfl, lives⟩
  | cons step rest hypothesis =>
      obtain ⟨reached, destroyed, lived⟩ := hypothesis (lives.step step)
      refine ⟨reached, ?_, lived⟩
      rw [destroyed, Life.destroyed_after, Step.countP_isSilence,
        List.countP_cons]
      omega

/-- A destroyed instrument is at rest. -/
theorem isAtRest_of_destroy (lives : instrument.Lives life stage) :
    instrument.IsAtRest (instrument.destroy.run stage).2 := by
  have destroyed := lives.step (.act .destroy)
  refine destroyed.isAtRest ?_ rfl
  change ((life.next (R := Float) .stop).next (R := Float) .silence).playing =
    false
  cases playing : life.playing <;> simp [Life.next, playing]

end Lives

/-- Whatever is done with an instrument that was just built on a tape, in any order
and with any number of plays at once, it plays exactly while its oscillator is
started, and an active noise source is started and stopped with the oscillator. It is
never stopped more often than started, its modulating oscillators are started as
often as it is, and stopped as often as it is destroyed. Once it is destroyed, none
of its nodes is started. -/
theorem counts_agree_after_steps
    [Limits]
    {configuration : Value Float}
    {options : Entries Float}
    {instrument : Instrument Float}
    {opened born : Stage Float}
    (onTape : opened.OnTape)
    (made : (make configuration options).Reaches opened instrument born)
    (steps : List (Step Float)) :
    (∃ oscillator noise,
      (instrument.followed steps born).recording? instrument.oscillator.node =
        some oscillator ∧
      (instrument.followed steps born).recording? instrument.noise.node =
        some noise ∧
      (instrument.followed steps born).playing instrument.number =
        oscillator.started ∧
      noise.started =
        ((instrument.followed steps born).playing instrument.number &&
          noise.active) ∧
      (noise.active = true →
        noise.startCount = oscillator.startCount ∧
        noise.stopTimes.length = oscillator.stopTimes.length) ∧
      oscillator.stopTimes.length ≤ oscillator.startCount ∧
      ∀ entry ∈ instrument.modulators, ∃ modulator,
        (instrument.followed steps born).recording? entry.2.node =
          some modulator ∧
        modulator.startCount = oscillator.startCount ∧
        modulator.stopTimes.length = steps.countP Step.isDestroy) ∧
    instrument.IsAtRest
      (instrument.followed (steps ++ [.act .destroy]) born) := by
  -- All counts are read off one life, which the recordings keep to after any steps.
  have newborn := newborn_of_make onTape made
  obtain ⟨life, destroyed, lives⟩ := newborn.lives.followed steps
  constructor
  · obtain ⟨oscillator, foundOscillator, ledger⟩ :=
      Option.map_eq_some_iff.1 lives.oscillator
    obtain ⟨noise, foundNoise, noiseLedger⟩ :=
      Option.map_eq_some_iff.1 lives.noise
    rw [Life.source, lives.voiced.oscillator, if_pos rfl, Recording.ledger,
      Ledger.mk.injEq] at ledger
    obtain ⟨-, started, starts, stops⟩ := ledger
    have balanced := lives.balanced
    refine ⟨oscillator, noise, foundOscillator, foundNoise,
      lives.playing.trans started.symm, ?_, ?_, ?_, ?_⟩
    · rw [lives.playing]
      cases active : instrument.noise.active <;>
        simp_all [Life.source, Ledger.fresh, Recording.ledger]
    · intro active
      cases present : instrument.noise.active <;>
        simp_all [Life.source, Ledger.fresh, Recording.ledger]
    · unfold Life.IsBalanced at balanced
      omega
    · intro entry member
      obtain ⟨modulator, found, ledger⟩ :=
        Option.map_eq_some_iff.1 (lives.modulators entry member)
      rw [Life.modulator, Recording.ledger, Ledger.mk.injEq] at ledger
      refine ⟨modulator, found, ledger.2.2.1.trans starts.symm, ?_⟩
      rw [ledger.2.2.2, destroyed]
      exact Nat.zero_add _
  · have last := lives.isAtRest_of_destroy
    rwa [followed, List.foldl_append]

/-- A noisy voice of which both the gain and the pitch are modulated. -/
def wavering : Value Float :=
  .map
    [(.text "noise", .map [(.text "type", .text "white")]),
      (.text "lfos", .map
        [(.text "osc.gain", .map []),
          (.text "osc.freq", .map [(.text "n", .int 2)])])]

/-- Two plays that overlap, each resumed after the other has begun; in between the
voice is destroyed, and afterwards it is stopped while it is silent. -/
def overlapping : List (Step Float) :=
  [.begin (.list [.map [(.text "note", .text "A")]]),
    .act (.advance (.real 0.25)),
    .begin (.list [.map [(.text "note", .text "C"), (.text "duration", .int 2)]]),
    .resume 1.0,
    .act .destroy,
    .act .start,
    .resume 2.25,
    .act .stop]

theorem counts_agree_after_overlapping_plays :
    ∃ instrument born,
      (Stage.openTape (0.0 : Float) .manual true).OnTape ∧
      (make wavering []).Reaches (Stage.openTape 0.0 .manual true)
        instrument born ∧
      (∃ oscillator noise,
        (instrument.followed overlapping born).recording?
          instrument.oscillator.node = some oscillator ∧
        (instrument.followed overlapping born).recording?
          instrument.noise.node = some noise ∧
        (instrument.followed overlapping born).playing instrument.number =
          oscillator.started ∧
        noise.started =
          ((instrument.followed overlapping born).playing instrument.number &&
            noise.active) ∧
        (noise.active = true →
          noise.startCount = oscillator.startCount ∧
          noise.stopTimes.length = oscillator.stopTimes.length) ∧
        oscillator.stopTimes.length ≤ oscillator.startCount ∧
        ∀ entry ∈ instrument.modulators, ∃ modulator,
          (instrument.followed overlapping born).recording? entry.2.node =
            some modulator ∧
          modulator.startCount = oscillator.startCount ∧
          modulator.stopTimes.length = overlapping.countP Step.isDestroy) ∧
      instrument.IsAtRest
        (instrument.followed (overlapping ++ [.act .destroy]) born) := by
  have builds : ((make wavering []).run
      (Stage.openTape 0.0 .manual true)).1.outcome.isOk = true := by
    decide +kernel
  obtain ⟨instrument, outcome⟩ := Attempt.exists_of_isOk builds
  have onTape : (Stage.openTape (0.0 : Float) .manual true).OnTape :=
    ⟨Tape.blank, rfl⟩
  have made : (make wavering []).Reaches (Stage.openTape 0.0 .manual true)
      instrument _ := ⟨outcome, rfl⟩
  exact ⟨instrument, _, onTape, made,
    counts_agree_after_steps onTape made overlapping⟩

end Instrument
end MelodyAutomation

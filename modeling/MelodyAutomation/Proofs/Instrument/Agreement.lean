import MelodyAutomation.Proofs.Instrument.Rules
import MelodyAutomation.Proofs.Stage.Mirror
import MelodyAutomation.Scalar.Double

/-!
# Instruments on a tape and on a link

An instrument that can be built on a link can be built on a tape, and is the same.
From then on whatever it does has the same outcome on both, and what goes over the
link stays the image of what the tape records, as long as every value that a
schedule writes can be sent as a scalar. A value that cannot is recorded by the
tape but refused by the link.
-/

namespace MelodyAutomation
namespace Instrument

section

variable {R : Type} [Machine R] {base : String} {known : List Primitive}

/-- A value can be sent: it counts as a scalar. -/
def IsSendable (value : Value R) : Prop := value.toScalar.isOk = true

/-- Stages that mirror each other go on doing so whatever an instrument does whose
primitives they hold. -/
theorem mirrors_rules
    (timely : ∀ time : R, Stage.IsTimely (.real time))
    (instrument : Instrument R) :
    OwnRules instrument IsSendable fun _ session =>
      session.Respects (Stage.Mirrors base instrument.primitives) where
  toRules := Session.respects_rules _
  look alike continued := Session.respects_get_bind
    (fun left right mirrors => alike left right mirrors.nowMs_eq
      (funext mirrors.waitsUntil?_eq)) continued
  isPlaying := Stage.respects_isPlaying _
  setPlaying := Stage.respects_setPlaying _
  start _ member := Stage.respects_start member
  stop _ member time := by
    refine Stage.respects_stop member fun moment inside => ?_
    obtain ⟨scalar, -, rfl⟩ := Option.map_eq_some_iff.1 inside
    exact timely scalar
  set _ _ found _ time sendable :=
    Stage.respects_set (exists_of_socket? found) sendable (timely time)
  ramp _ _ found _ time sendable :=
    Stage.respects_ramp (exists_of_socket? found) sendable (timely time)
  least := rfl

/-! ## Construction -/

theorem simulates_createModulators (settings : Settings R) (entries : Entries R) :
    (createModulators settings entries).Simulates (Stage.Mirrors base known)
      fun modulators =>
        Stage.Mirrors base (modulators.map Prod.snd ++ known) := by
  induction entries generalizing known with
  | nil => exact Session.simulates_pure fun _ _ mirrors => mirrors
  | cons entry rest hypothesis =>
      obtain ⟨key, parameters⟩ := entry
      refine (Session.simulates_attempt _).bind fun target => ?_
      refine (Session.simulates_attempt _).bind fun blueprint => ?_
      refine (Stage.simulates_create blueprint).bind fun modulator => ?_
      refine hypothesis.bind fun others => ?_
      refine Session.simulates_pure fun _ _ mirrors =>
        mirrors.mono fun primitive member => ?_
      simp only [List.map_cons, List.cons_append, List.mem_cons,
        List.mem_append] at member ⊢
      tauto

theorem respects_connectModulator
    {instrument : Instrument R}
    {entry : Target × Primitive}
    (member : entry.2 ∈ known) :
    (instrument.connectModulator entry).Respects (Stage.Mirrors base known) := by
  unfold connectModulator
  cases instrument.socket? entry.1 with
  | none => exact (Session.respects_rules _).report _
  | some socket => exact Stage.respects_connect member _

theorem respects_connectNodes
    {instrument : Instrument R}
    (members : ∀ primitive ∈ instrument.primitives, primitive ∈ known) :
    instrument.connectNodes.Respects (Stage.Mirrors base known) := by
  have rules := Session.respects_rules (R := R)
    (Stage.Mirrors (R := R) base known)
  have oscillator := members _ (oscillator_mem instrument)
  have noise := members _ (noise_mem instrument)
  have filter := members _ (filter_mem instrument)
  unfold connectNodes
  split
  · exact rules.bind (Stage.respects_connect oscillator _) fun _ =>
      rules.bind (Stage.respects_connect filter _) fun _ =>
        Stage.respects_connect noise _
  · exact rules.bind (Stage.respects_connect oscillator _) fun _ =>
      Stage.respects_connect noise _

/-- An instrument that is built on a link is built on the tape that it mirrors, and
the tape holds its primitives. -/
theorem simulates_build (settings : Settings R) :
    (build settings).Simulates (Stage.Mirrors base known)
      fun instrument => Stage.Mirrors base instrument.primitives := by
  unfold build createOscillator createNoise createFilter
  refine (Session.simulates_attempt _).bind fun plan => ?_
  refine ((Session.simulates_attempt _).bind fun waveform =>
    Stage.simulates_create _).bind fun oscillator => ?_
  refine (Stage.simulates_create _).bind fun noise => ?_
  refine (Stage.simulates_create _).bind fun filter => ?_
  refine (Session.simulates_logged _).bind fun envelopes => ?_
  refine (Session.simulates_attempt _).bind fun modulation => ?_
  refine (simulates_createModulators settings modulation).bind
    fun modulators => ?_
  refine (Session.simulates_attempt _).bind fun scheduler => ?_
  refine Session.simulates_get_bind
    (fun _ _ mirrors => by simp only [mirrors.built_eq]) fun stage => ?_
  refine Session.Simulates.bind (Session.Respects.simulates ?_) fun _ => ?_
  · refine (Session.respects_rules _).forM fun entry member =>
      respects_connectModulator ?_
    exact List.mem_append_left _ (List.mem_map_of_mem member)
  have held : ∀ primitive,
      primitive ∈ [oscillator, noise, filter] ++ modulators.map Prod.snd →
        primitive ∈ modulators.map Prod.snd ++ filter :: noise ::
          oscillator :: known := by
    intro primitive member
    simp only [List.mem_append, List.mem_cons, List.not_mem_nil, or_false]
      at member ⊢
    tauto
  refine Session.Simulates.bind (Session.Respects.simulates ?_) fun _ => ?_
  · exact respects_connectNodes held
  refine Stage.respects_takeNumber.simulates.bind fun number => ?_
  exact Session.simulates_pure fun _ _ mirrors => mirrors.mono held

theorem simulates_make (configuration : Value R) (options : Entries R) :
    (make configuration options).Simulates (Stage.Mirrors base known)
      fun instrument => Stage.Mirrors base instrument.primitives :=
  (Session.simulates_attempt _).bind fun settings => simulates_build settings

/-! ## Acts -/

namespace Act

/-- An act writes only values that can be sent. -/
abbrev WritesSendable (instrument : Instrument R) (act : Act R) : Prop :=
  act.Accepts instrument IsSendable

instance (value : Value R) : Decidable (IsSendable value) :=
  inferInstanceAs (Decidable (_ = true))

instance (instrument : Instrument R) (schedule : Schedule R) :
    Decidable (instrument.Accepts IsSendable schedule) :=
  inferInstanceAs (Decidable (∀ entry ∈ schedule.blocks.entries, _ → _))

/-- Whether an act writes only values that can be sent can be computed. -/
def decideSchedule (instrument : Instrument R) (outcome : Attempt R (Schedule R)) :
    Decidable (∀ schedule, outcome = .ok schedule →
      instrument.Accepts IsSendable schedule) :=
  match outcome with
  | .error _ => .isTrue nofun
  | .ok schedule =>
      decidable_of_iff (instrument.Accepts IsSendable schedule)
        ⟨fun accepted _ same => Except.ok.inj same ▸ accepted,
          fun accepted => accepted schedule rfl⟩

instance (instrument : Instrument R) (act : Act R) :
    Decidable (act.WritesSendable instrument) :=
  match act with
  | play composition | applySchedule composition =>
      decideSchedule instrument
        (instrument.scheduler.schedule composition).outcome
  | start | stop | destroy | advance _ => .isTrue trivial

end Act

/-- Carry out acts one after another, whether or not one is refused, and collect
their outcomes. -/
def performAll (instrument : Instrument R) :
    List (Act R) → Session (Stage R) R (List (Attempt R Unit))
  | [] => pure []
  | act :: rest => do
      let outcome ← Session.attempt (act.perform instrument)
      let others ← performAll instrument rest
      pure (outcome :: others)

variable {base : String}

/-- One act keeps stages mirroring each other. -/
theorem respects_act
    (timely : ∀ time : R, Stage.IsTimely (.real time))
    {instrument : Instrument R}
    {act : Act R}
    (sendable : act.WritesSendable instrument) :
    (act.perform instrument).Respects
      (Stage.Mirrors base instrument.primitives) :=
  (mirrors_rules timely instrument).act Stage.respects_setClock
    Stage.respects_advance sendable

/-- So does any number of acts. -/
theorem respects_performAll
    (timely : ∀ time : R, Stage.IsTimely (.real time))
    {instrument : Instrument R}
    {acts : List (Act R)}
    (sendable : ∀ act ∈ acts, act.WritesSendable instrument) :
    (instrument.performAll acts).Respects
      (Stage.Mirrors base instrument.primitives) := by
  have rules := Session.respects_rules (R := R)
    (Stage.Mirrors (R := R) base instrument.primitives)
  induction acts with
  | nil => exact rules.pure _
  | cons act rest hypothesis =>
      refine rules.bind (rules.attempt (respects_act timely
        (sendable act (by simp)))) fun outcome => ?_
      refine rules.bind (hypothesis fun later member =>
        sendable later (by simp [member])) fun others => ?_
      exact rules.pure _

end

/-- Every time can be sent in seconds. -/
theorem timely_double (time : Float) : Stage.IsTimely (.real time) := by
  have divisor : (Scalar.ofInt? 1000 : Option Float).any
      (fun thousand => !Scalar.isZero thousand) = true := by
    decide +kernel
  cases converted : (Scalar.ofInt? 1000 : Option Float) with
  | none =>
      rw [converted] at divisor
      cases divisor
  | some thousand =>
      have nonzero : Scalar.isZero thousand = false := by
        simpa [converted] using divisor
      simp [Stage.IsTimely, Link.seconds, Value.div, Value.toNumber,
        Value.number?, Number.div, Number.toScalar, converted, nonzero,
        Except.isOk, Except.toBool]

/-- An instrument that is built over a link that delivers everything is built on a
tape too, and is the same. Whatever is then done with it on both, each act has the
same outcome, the stages agree on the clock and on what plays, and what was sent
over the link is the image of what the tape has recorded. -/
theorem link_run_is_image_of_tape_run
    [Limits]
    {clock : Float}
    {timebase : Timebase Float}
    {base : String}
    {host : Option String}
    {portNumber : Option Int}
    {configuration : Value Float}
    {options : Entries Float}
    {instrument : Instrument Float}
    {onLink : Stage Float}
    (made : (make configuration options).Reaches
      (Stage.openLink clock timebase true base host portNumber
        fun _ => none).2 instrument onLink)
    {acts : List (Act Float)}
    (sendable : ∀ act ∈ acts, act.WritesSendable instrument) :
    ∃ onTape,
      (make configuration options).Reaches
        (Stage.openTape clock timebase true) instrument onTape ∧
      ((instrument.performAll acts).run onTape).1 =
        ((instrument.performAll acts).run onLink).1 ∧
      Stage.Mirrors base instrument.primitives
        ((instrument.performAll acts).run onTape).2
        ((instrument.performAll acts).run onLink).2 := by
  obtain ⟨onTape, madeOnTape, mirrors⟩ :=
    simulates_make configuration options _ _
      (Stage.mirrors_open clock timebase true host portNumber) instrument
      onLink made
  obtain ⟨same, mirrored⟩ :=
    respects_performAll timely_double sendable onTape onLink mirrors
  exact ⟨onTape, madeOnTape, same, mirrored⟩

/-- A noisy, filtered voice whose gain is modulated; its level follows a pluck. -/
def pluckedVoice : Value Float :=
  .map
    [(.text "osc", .map [(.text "type", .text "sawtooth")]),
      (.text "noise", .map [(.text "type", .text "white")]),
      (.text "envelopes", .map
        [(.text "osc.gain", .list
          [.list [.int 0, .real 0.25], .list [.int 1, .int 0]])]),
      (.text "lfos", .map [(.text "osc.gain", .map [])])]

/-- A note that sounds for two beats, and a rest. -/
def noteAndRest : Value Float :=
  .list
    [.map [(.text "note", .text "A"), (.text "duration", .int 2)],
      .map [(.text "note", .text "0")]]

/-- Acts that start, play, wait, stop and play again. -/
def playedTwice : List (Act Float) :=
  [.start, .play noteAndRest, .advance (.real 0.5), .applySchedule noteAndRest,
    .stop, .play noteAndRest, .destroy]

/-- Where a voice is built over a link. -/
def voicesLink : Stage Float :=
  (Stage.openLink 2.0 .manual true "/voices" none none fun _ => none).2

theorem link_run_is_image_of_tape_run_of_plucked_voice :
    ∃ instrument onLink,
      (make pluckedVoice []).Reaches voicesLink instrument onLink ∧
      (∀ act ∈ playedTwice, act.WritesSendable instrument) ∧
      ∃ onTape,
        (make pluckedVoice []).Reaches (Stage.openTape 2.0 .manual true)
          instrument onTape ∧
        ((instrument.performAll playedTwice).run onTape).1 =
          ((instrument.performAll playedTwice).run onLink).1 ∧
        Stage.Mirrors "/voices" instrument.primitives
          ((instrument.performAll playedTwice).run onTape).2
          ((instrument.performAll playedTwice).run onLink).2 := by
  have built : ((make pluckedVoice []).run voicesLink).1.outcome.toOption.any
      (fun instrument =>
        decide (∀ act ∈ playedTwice, act.WritesSendable instrument)) = true := by
    decide +kernel
  obtain ⟨instrument, outcome, sendable⟩ := Attempt.exists_of_any built
  have made : (make pluckedVoice []).Reaches voicesLink instrument
      ((make pluckedVoice []).run voicesLink).2 := ⟨outcome, rfl⟩
  exact ⟨instrument, _, made, of_decide_eq_true sendable,
    link_run_is_image_of_tape_run made (of_decide_eq_true sendable)⟩

/-- A voice whose level is a whole number that no scalar is near to. -/
def deafeningVoice : Value Float :=
  .map
    [(.text "master_gain", .int 1),
      (.text "envelopes", .map
        [(.text "osc.gain", .record .explicit
          [.tuple [.tuple [.int 0, .int (Int.ofNat (Nat.pow 10 400))],
            .tuple [.int 1, .int 0]]])])]

/-- What a tape records, a link may refuse: a value that is no scalar. -/
theorem link_refuses_value_that_tape_records :
    ∃ instrument onLink onTape,
      (make deafeningVoice []).Reaches voicesLink instrument onLink ∧
      (make deafeningVoice []).Reaches (Stage.openTape 2.0 .manual true)
        instrument onTape ∧
      ((instrument.play noteAndRest).run onLink).1.outcome =
        .error .overflow ∧
      ((instrument.play noteAndRest).run onTape).1.outcome = .ok () := by
  let atLink := (make deafeningVoice []).run voicesLink
  let atTape :=
    (make deafeningVoice []).run (Stage.openTape 2.0 .manual true)
  have refused : atLink.1.outcome.toOption.any (fun instrument =>
      Attempt.overflows
        ((instrument.play noteAndRest).run atLink.2).1.outcome) = true := by
    decide +kernel
  have recorded : atTape.1.outcome.toOption.any (fun instrument =>
      ((instrument.play noteAndRest).run atTape.2).1.outcome.isOk) = true := by
    decide +kernel
  obtain ⟨instrument, outcome, refuses⟩ := Attempt.exists_of_any refused
  obtain ⟨other, otherOutcome, records⟩ := Attempt.exists_of_any recorded
  have same : other = instrument := by
    have opened : Stage.Mirrors "/voices" []
        (Stage.openTape 2.0 .manual true) voicesLink :=
      Stage.mirrors_open 2.0 .manual true none none
    obtain ⟨onTape, reaches, -⟩ := simulates_make deafeningVoice [] _ _ opened
      instrument atLink.2 ⟨outcome, rfl⟩
    exact (Session.Reaches.unique ⟨otherOutcome, rfl⟩ reaches).1
  subst same
  refine ⟨other, atLink.2, atTape.2, ⟨outcome, rfl⟩, ⟨otherOutcome, rfl⟩,
    Attempt.eq_of_overflows refuses, ?_⟩
  obtain ⟨⟨⟩, finished⟩ := Attempt.exists_of_isOk records
  exact finished

end Instrument
end MelodyAutomation

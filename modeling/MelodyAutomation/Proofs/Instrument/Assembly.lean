import MelodyAutomation.Proofs.Instrument.Rules
import MelodyAutomation.Proofs.SessionContracts

/-!
# How an instrument is assembled

An instrument is built by creating primitives, connecting those that are there, and
taking a number, and its building may be refused in between. Whatever can be said
of the primitives created so far and of the stage, and is kept up by these three
operations, can be said of the finished instrument, and of what is left of one that
was refused.
-/

namespace MelodyAutomation

variable {R : Type}

variable [Machine R]

/-- What must hold of a property of some primitives and a stage to be kept up while
an instrument is built. -/
structure BuildRules (has : List Primitive → Stage R → Prop) : Prop where
  perm : ∀ {known other : List Primitive} {stage : Stage R},
    known.Perm other → has known stage → has other stage
  create : ∀ (known : List Primitive) (blueprint : Blueprint R),
    (Stage.create blueprint).Ensures (has known)
      (fun primitive stage =>
        primitive.active = blueprint.isActive ∧ has (primitive :: known) stage)
      (has known)
  connect : ∀ (known : List Primitive), ∀ primitive ∈ known, ∀ inlet : Inlet,
    inlet.Within known →
      (Stage.connect primitive inlet).Keeps (Session.Maintains (has known))

namespace Instrument

/-- The oscillators of an instrument are active, as only noise sources and filters
may be left out. -/
structure IsVoiced (instrument : Instrument R) : Prop where
  oscillator : instrument.oscillator.active = true
  modulators : ∀ entry ∈ instrument.modulators, entry.2.active = true

theorem isActive_modulatorBlueprint
    {settings : Settings R}
    {parameters : Value R}
    {blueprint : Blueprint R}
    (described : modulatorBlueprint settings parameters = .ok blueprint) :
    blueprint.isActive = true := by
  simp only [modulatorBlueprint, Attempt.bind_eq_ok] at described
  obtain ⟨_, _, _, _, _, _, _, _, _, _, same⟩ := described
  rw [← Except.ok.inj same]
  rfl

end Instrument

namespace BuildRules

open Instrument

variable {has : List Primitive → Stage R → Prop}
variable {known : List Primitive} {refused : Stage R → Prop}

theorem ensures_create
    (rules : BuildRules has)
    (left : ∀ more stage, has (more ++ known) stage → refused stage)
    (blueprint : Blueprint R) :
    (Stage.create blueprint).Ensures (has known)
      (fun primitive stage =>
        primitive.active = blueprint.isActive ∧ has (primitive :: known) stage)
      refused :=
  (rules.create known blueprint).imp (fun _ _ holds => holds) (left [])

theorem ensures_createModulators
    (rules : BuildRules has)
    (left : ∀ more stage, has (more ++ known) stage → refused stage)
    (settings : Settings R)
    (entries : Entries R) :
    (createModulators settings entries).Ensures (has known)
      (fun modulators stage =>
        (∀ entry ∈ modulators, entry.2.active = true) ∧
          has (modulators.map Prod.snd ++ known) stage)
      refused := by
  induction entries generalizing known with
  | nil => exact Session.ensures_pure fun stage holds => ⟨by simp, holds⟩
  | cons entry rest hypothesis =>
      obtain ⟨key, parameters⟩ := entry
      refine Session.ensures_attempt_bind (left []) fun target _ => ?_
      refine Session.ensures_attempt_bind (left []) fun blueprint described => ?_
      refine (rules.ensures_create left blueprint).bind fun modulator => ?_
      have active := isActive_modulatorBlueprint described
      refine Session.ensures_of_fact fun created => ?_
      refine (hypothesis fun more stage holds => left (more ++ [modulator]) stage
        (by simpa using holds)).bind fun others => ?_
      refine Session.ensures_pure fun stage holds => ⟨?_, ?_⟩
      · simpa [created.trans active] using holds.1
      · refine rules.perm ?_ holds.2
        exact List.perm_middle

theorem keeps_connectModulator
    (rules : BuildRules has)
    {instrument : Instrument R}
    (members : ∀ primitive ∈ instrument.primitives, primitive ∈ known)
    {entry : Target × Primitive}
    (member : entry ∈ instrument.modulators) :
    (instrument.connectModulator entry).Keeps
      (Session.Maintains (has known)) := by
  unfold connectModulator
  cases found : instrument.socket? entry.1 with
  | none => exact (Session.keeps_rules _).report _
  | some socket =>
      obtain ⟨primitive, inside, active, present, node⟩ :=
        exists_of_socket? found
      exact rules.connect known entry.2 (members _ (modulator_mem member)) _
        ⟨primitive, members _ inside, active, present, node⟩

theorem keeps_connectNodes
    (rules : BuildRules has)
    {instrument : Instrument R}
    (members : ∀ primitive ∈ instrument.primitives, primitive ∈ known) :
    instrument.connectNodes.Keeps (Session.Maintains (has known)) := by
  have general := Session.keeps_rules (R := R) (Session.Maintains (has known))
  have oscillator := members _ (oscillator_mem instrument)
  have noise := rules.connect known _ (members _ (noise_mem instrument))
    (.node .destination) trivial
  have filter := members _ (filter_mem instrument)
  unfold connectNodes
  split
  next active =>
      refine general.bind (rules.connect known _ oscillator _ ?_) fun _ => ?_
      · cases node : instrument.filter.node with
        | destination => trivial
        | created kind number => exact ⟨_, filter, active, node.symm⟩
      · exact general.bind (rules.connect known _ filter _ trivial)
          fun _ => noise
  next =>
      exact general.bind (rules.connect known _ oscillator _ trivial)
        fun _ => noise

theorem ensures_createOscillator
    (rules : BuildRules has)
    (left : ∀ more stage, has (more ++ known) stage → refused stage)
    (settings : Entries R) :
    (createOscillator settings).Ensures (has known)
      (fun primitive stage =>
        primitive.active = true ∧ has (primitive :: known) stage)
      refused :=
  Session.ensures_attempt_bind (left []) fun _ _ => rules.ensures_create left _

/-- Once all its primitives are created, an instrument is connected and takes its
number, and nothing is refused any more. -/
theorem ensures_finish
    (rules : BuildRules has)
    (instrument : Instrument R)
    (voiced : instrument.IsVoiced)
    (members : ∀ primitive ∈ instrument.primitives, primitive ∈ known)
    (left : ∀ stage, has known stage → refused stage) :
    (instrument.modulators.forM instrument.connectModulator >>= fun _ =>
      instrument.connectNodes >>= fun _ =>
        Stage.takeNumber >>= fun number =>
          pure { instrument with number }).Ensures (has known)
      (fun finished stage =>
        finished.IsVoiced ∧ finished.primitives = instrument.primitives ∧
          ∃ last, has known last ∧
            Stage.takeNumber.Reaches last finished.number stage)
      refused := by
  have modulated : (instrument.modulators.forM
      instrument.connectModulator).Keeps (Session.Maintains (has known)) :=
    (Session.keeps_rules _).forM fun _ member =>
      rules.keeps_connectModulator members member
  refine (modulated.ensures left).bind fun _ => ?_
  refine ((rules.keeps_connectNodes members).ensures left).bind fun _ => ?_
  intro last holds
  exact ⟨⟨voiced.oscillator, voiced.modulators⟩, rfl, last, holds, rfl, rfl⟩

/-- A finished instrument has taken its number last. -/
theorem ensures_build
    (rules : BuildRules has)
    (left : ∀ more stage, has (more ++ known) stage → refused stage)
    (settings : Settings R) :
    (build settings).Ensures (has known)
      (fun instrument stage =>
        instrument.IsVoiced ∧ ∃ last,
          has (instrument.primitives ++ known) last ∧
          Stage.takeNumber.Reaches last instrument.number stage)
      refused := by
  have behind (more others : List Primitive) (stage : Stage R)
      (holds : has (others ++ (more ++ known)) stage) : refused stage :=
    left (others ++ more) stage (List.append_assoc .. ▸ holds)
  refine Session.ensures_attempt_bind (left []) fun plan _ => ?_
  refine (rules.ensures_createOscillator left _).bind fun oscillator => ?_
  refine Session.ensures_of_fact fun active => ?_
  refine (rules.ensures_create (behind [oscillator]) _).bind fun noise => ?_
  refine Session.ensures_of_fact fun _ => ?_
  refine (rules.ensures_create (behind [noise, oscillator]) _).bind
    fun filter => ?_
  refine Session.ensures_of_fact fun _ => ?_
  have three := left [filter, noise, oscillator]
  refine Session.ensures_logged_bind three fun envelopes _ => ?_
  refine Session.ensures_attempt_bind three fun modulation _ => ?_
  refine (rules.ensures_createModulators (behind [filter, noise, oscillator])
    settings modulation).bind fun modulators => ?_
  refine Session.ensures_of_fact fun actives => ?_
  have all := behind [filter, noise, oscillator] (modulators.map Prod.snd)
  have arranged : (modulators.map Prod.snd ++
      ([filter, noise, oscillator] ++ known)).Perm
        ([oscillator, noise, filter] ++ modulators.map Prod.snd ++ known) := by
    rw [← List.append_assoc]
    refine (List.perm_append_comm.trans ?_).append_right known
    exact (List.reverse_perm [oscillator, noise, filter]).append_right _
  refine Session.ensures_attempt_bind all fun scheduler _ => ?_
  refine Session.ensures_get_bind fun stage => ?_
  let connected : Instrument R :=
    { number := stage.built
      settings, oscillator, noise, filter, envelopes, modulators, scheduler }
  have members (primitive : Primitive)
      (member : primitive ∈ connected.primitives) :
      primitive ∈ modulators.map Prod.snd ++
        ([filter, noise, oscillator] ++ known) :=
    arranged.mem_iff.2 (List.mem_append_left _ member)
  refine (rules.ensures_finish connected ⟨active, actives⟩ members all).imp ?_
    fun _ => id
  rintro finished stage ⟨voiced, same, last, holds, numbered⟩
  exact ⟨voiced, last, same ▸ rules.perm arranged holds, numbered⟩

theorem ensures_make
    (rules : BuildRules has)
    (left : ∀ more stage, has (more ++ known) stage → refused stage)
    (configuration : Value R)
    (options : Entries R) :
    (make configuration options).Ensures (has known)
      (fun instrument stage =>
        instrument.IsVoiced ∧ ∃ last,
          has (instrument.primitives ++ known) last ∧
          Stage.takeNumber.Reaches last instrument.number stage)
      refused :=
  Session.ensures_attempt_bind (left [])
    fun settings _ => rules.ensures_build left settings

/-- What can be said of the stage alone is kept up while an instrument is built. -/
theorem keeps_make
    {kept : Stage R → Prop}
    (rules : BuildRules fun _ => kept)
    (numbered : Stage.takeNumber.Keeps (Session.Maintains kept))
    (configuration : Value R)
    (options : Entries R) :
    (make configuration options).Keeps (Session.Maintains kept) := by
  intro stage holds
  have ensures := @ensures_make R _ _ [] kept rules (fun _ _ left => left)
    configuration options
  refine ensures.of_run ?_ (fun _ left => left) holds
  rintro instrument final ⟨-, last, kept, reaches⟩
  exact numbered.of_reaches reaches kept

end BuildRules
end MelodyAutomation

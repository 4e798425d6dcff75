import MelodyAutomation.Melody.Transform
import MelodyAutomation.Proofs.Outcome
import MelodyAutomation.Proofs.Value.Obstacles
import MelodyAutomation.Scalar.Double
import Mathlib.Data.List.Forall2

/-!
# What the steps of a song file spell

A step spells a call: a name by itself, a sequence of a name and its arguments, or a map
from a name to its one argument, where null stands for none. A list of steps does what
the calls do one after another, and how a step spells its call makes no difference.

A step that spells nothing, or a call of something else than the nine operations, is
where the list ends: the steps in front of it are performed, and then it is refused. If
it cannot be shown, the refusal cannot be told.
-/

namespace MelodyAutomation

variable {R : Type}

namespace Operation

theorem ofName?_eq_some {content : String} {operation : Operation} :
    ofName? content = some operation ↔ content = operation.name := by
  constructor
  · intro found
    have named := List.find?_some found
    exact (beq_iff_eq.1 named).symm
  · rintro rfl
    exact ofName?_name operation

theorem mem_availableTransforms {content : String} :
    content ∈ availableTransforms ↔ ∃ operation : Operation, content = operation.name := by
  constructor
  · intro listed
    have named : ∀ content ∈ availableTransforms, (ofName? content).isSome = true := by
      decide
    obtain ⟨operation, found⟩ := Option.isSome_iff_exists.1 (named content listed)
    exact ⟨operation, ofName?_eq_some.1 found⟩
  · rintro ⟨operation, rfl⟩
    cases operation <;> decide

theorem ofName?_eq_none {content : String} :
    ofName? content = none ↔ content ∉ availableTransforms := by
  rw [Option.eq_none_iff_forall_ne_some, mem_availableTransforms, not_exists]
  simp only [ne_eq, ofName?_eq_some]

end Operation

/-- An operation with the arguments that it is given. -/
structure Invocation (R : Type) where
  operation : Operation
  arguments : List (Value R)

namespace Step

/-! ## Spelling -/

/-- How a name and its arguments can be spelled. -/
inductive Spells (step : Value R) : Value R → List (Value R) → Prop
  | name {content : String} (written : step.exposed = .text content) :
      Spells step (.text content) []
  | list {content : String} {arguments : List (Value R)}
      (written : step.exposed = .list (.text content :: arguments)) :
      Spells step (.text content) arguments
  | tuple {content : String} {arguments : List (Value R)}
      (written : step.exposed = .tuple (.text content :: arguments)) :
      Spells step (.text content) arguments
  | bare {name : Value R} (written : step.exposed = .map [(name, .null)]) :
      Spells step name []
  | entry {name argument : Value R} (written : step.exposed = .map [(name, argument)])
      (given : argument ≠ .null) :
      Spells step name [argument]

/-- A step that is neither a name, nor a sequence that starts with one, nor a map with
one entry. -/
structure IsMalformed (step : Value R) : Prop where
  noName : ∀ content, step.exposed ≠ .text content
  noList : ∀ content arguments, step.exposed ≠ .list (.text content :: arguments)
  noTuple : ∀ content arguments, step.exposed ≠ .tuple (.text content :: arguments)
  noEntry : ∀ entry, step.exposed ≠ .map [entry]

/-- A name that is not one of the names of the transforms. -/
def Unlisted (name : Value R) : Prop :=
  ∀ content ∈ availableTransforms, name ≠ .text content

/-- A step is a call of an operation. -/
def Means (step : Value R) (call : Invocation R) : Prop :=
  Spells step (.text call.operation.name) call.arguments

/-- What is wrong with a step that is no call. -/
inductive AtFault (step : Value R) : ConfigurationFault R → Prop
  | malformed (malformed : IsMalformed step) : AtFault step (.malformedStep step)
  | unlisted {name : Value R} {arguments : List (Value R)}
      (spells : Spells step name arguments) (unlisted : Unlisted name) :
      AtFault step (.unknownStep name)

/-- Two steps are the same, or they spell the same name and arguments. -/
def Respells (step other : Value R) : Prop :=
  step = other ∨ ∃ name arguments, Spells step name arguments ∧ Spells other name arguments

/-! ## Reading one step -/

theorem split_of_spells
    {step name : Value R}
    {arguments : List (Value R)}
    (spells : Spells step name arguments) :
    split step = .ok (name, arguments) := by
  cases spells with
  | name written | list written | tuple written | bare written => simp [split, written]
  | entry written given =>
      rename_i argument
      have notNull : argument.isNull = false := by
        cases argument <;> first | rfl | exact absurd rfl given
      simp [split, written, notNull]

theorem split_of_isMalformed
    {step : Value R}
    (malformed : IsMalformed step) :
    split step = .error (.configuration (.malformedStep step)) := by
  obtain ⟨noName, noList, noTuple, noEntry⟩ := malformed
  unfold split
  split
  · exact absurd ‹_› (noName _)
  · exact absurd ‹_› (noList _ _)
  · exact absurd ‹_› (noTuple _ _)
  · exact absurd ‹_› (noEntry _)
  · rfl

/-- A step spells something, or it is malformed. -/
theorem spells_or_isMalformed (step : Value R) :
    (∃ name arguments, Spells step name arguments) ∨ IsMalformed step := by
  rw [or_iff_not_imp_left]
  intro nothing
  have spellsNothing {name arguments} (spells : Spells step name arguments) : False :=
    nothing ⟨name, arguments, spells⟩
  refine ⟨fun content written => spellsNothing (.name written),
    fun content arguments written => spellsNothing (.list written),
    fun content arguments written => spellsNothing (.tuple written), ?_⟩
  rintro ⟨name, argument⟩ written
  by_cases silent : argument = .null
  · exact spellsNothing (.bare (silent ▸ written))
  · exact spellsNothing (.entry written silent)

theorem operation_name (chosen : Operation) :
    operation (.text chosen.name : Value R) = .ok chosen := by
  rw [operation, Operation.ofName?_name]

theorem operation_of_unlisted {name : Value R} (unlisted : Unlisted name) :
    operation name = .error (.configuration (.unknownStep name)) := by
  unfold operation
  split
  · rename_i content
    have unnamed : content ∉ availableTransforms := fun listed =>
      unlisted content listed rfl
    rw [Operation.ofName?_eq_none.2 unnamed]
  · rfl

/-- A step is a call, or there is something wrong with it. -/
theorem means_or_atFault (step : Value R) :
    (∃ call, Means step call) ∨ ∃ fault, AtFault step fault := by
  obtain ⟨name, arguments, spells⟩ | malformed := spells_or_isMalformed step
  · by_cases unlisted : Unlisted name
    · exact .inr ⟨_, .unlisted spells unlisted⟩
    · simp only [Unlisted, not_forall, ne_eq, not_not] at unlisted
      obtain ⟨content, listed, rfl⟩ := unlisted
      obtain ⟨chosen, rfl⟩ := Operation.mem_availableTransforms.1 listed
      exact .inl ⟨⟨chosen, arguments⟩, spells⟩
  · exact .inr ⟨_, .malformed malformed⟩

/-! ## Performing the steps of a list -/

section Performing

variable {α : Type} (perform : Operation → List (Value R) → α → Logged R α)

/-- Perform calls one after another. -/
def performCalls (calls : List (Invocation R)) (subject : α) : Logged R α :=
  calls.foldlM (fun current call => perform call.operation call.arguments current) subject

/-- What a step spells is performed before the steps that follow. -/
theorem performItems_cons_of_means
    {step : Value R}
    {call : Invocation R}
    (means : Means step call)
    (rest : List (Value R))
    (subject : α) :
    performItems perform (step :: rest) subject =
      perform call.operation call.arguments subject >>= performItems perform rest := by
  rw [performItems, split_of_spells means]
  simp only [operation_name, Logged.liftM_ok, pure_bind]

/-- Nothing is performed for a step that is no call, nor for the ones behind it. -/
theorem performItems_cons_of_atFault
    {step : Value R}
    {fault : ConfigurationFault R}
    (atFault : AtFault step fault)
    (rest : List (Value R))
    (subject : α) :
    performItems perform (step :: rest) subject = .refuse (.configuration fault) := by
  rw [performItems]
  cases atFault with
  | malformed malformed =>
      rw [split_of_isMalformed malformed]
      rfl
  | unlisted spells unlisted =>
      rw [split_of_spells spells]
      simp only [Logged.liftM_ok, pure_bind, operation_of_unlisted unlisted]
      rfl

/-- Steps that are calls are performed before the ones that follow. -/
theorem performItems_append_of_means
    {steps : List (Value R)}
    {calls : List (Invocation R)}
    (means : List.Forall₂ Means steps calls)
    (rest : List (Value R))
    (subject : α) :
    performItems perform (steps ++ rest) subject =
      performCalls perform calls subject >>= performItems perform rest := by
  induction means generalizing subject with
  | nil => rw [List.nil_append, performCalls, List.foldlM_nil, pure_bind]
  | cons means _ hypothesis =>
      rw [List.cons_append, performItems_cons_of_means perform means, performCalls,
        List.foldlM_cons, bind_assoc]
      exact bind_congr hypothesis

/-- Up to the first step that is no call, the steps of a list are calls. -/
theorem exists_calls (steps : List (Value R)) :
    (∃ calls, List.Forall₂ Means steps calls) ∨
      ∃ before step after calls fault, steps = before ++ step :: after ∧
        List.Forall₂ Means before calls ∧ AtFault step fault := by
  induction steps with
  | nil => exact .inl ⟨[], .nil⟩
  | cons step rest hypothesis =>
      obtain ⟨call, means⟩ | ⟨fault, atFault⟩ := means_or_atFault step
      · obtain ⟨calls, meansRest⟩ | ⟨before, next, after, calls, fault, split, found⟩ :=
          hypothesis
        · exact .inl ⟨call :: calls, .cons means meansRest⟩
        · exact .inr ⟨step :: before, next, after, call :: calls, fault,
            split ▸ rfl, .cons means found.1, found.2⟩
      · exact .inr ⟨[], step, rest, [], fault, rfl, .nil, atFault⟩

/-- How calls are spelled makes no difference. -/
theorem performItems_respelled
    {steps others : List (Value R)}
    (respells : List.Forall₂ Respells steps others)
    (subject : α) :
    performItems perform steps subject = performItems perform others subject := by
  induction respells generalizing subject with
  | nil => rfl
  | cons respells _ hypothesis =>
      have rest := funext hypothesis
      obtain rfl | ⟨name, arguments, spells, respells⟩ := respells
      · rw [performItems, performItems, rest]
      · rw [performItems, performItems, split_of_spells spells, split_of_spells respells,
          rest]

end Performing

/-! ## Steps on a melody -/

variable [Machine R]

/-- The arguments of a call fit its operation and make it a transform. -/
def Fits (call : Invocation R) (transform : Transform R) : Prop :=
  Transform.ofArguments call.operation call.arguments = .ok transform

omit [Machine R] in
theorem ofArguments_of_misfit
    {call : Invocation R}
    (misfit : ∀ transform, ¬ Fits call transform) :
    Transform.ofArguments call.operation call.arguments = .error .illTyped := by
  cases outcome : Transform.ofArguments call.operation call.arguments with
  | ok transform => exact absurd outcome (misfit transform)
  | error failure =>
      unfold Transform.ofArguments at outcome
      split at outcome <;> cases outcome
      rfl

theorem onMelody_of_fits
    {call : Invocation R}
    {transform : Transform R}
    (fits : Fits call transform)
    (melody : Melody R) :
    onMelody call.operation call.arguments melody = transform.apply melody := by
  rw [onMelody, fits, Logged.liftM_ok, pure_bind]

/-- Calls that fit are the chain of their transforms. -/
theorem performCalls_of_fits
    {calls : List (Invocation R)}
    {transforms : List (Transform R)}
    (fits : List.Forall₂ Fits calls transforms)
    (melody : Melody R) :
    performCalls onMelody calls melody =
      Call.performAll (transforms.map .transform) melody := by
  induction fits generalizing melody with
  | nil => rw [performCalls, List.foldlM_nil, List.map_nil, Call.performAll_nil]
  | cons fits _ hypothesis =>
      rw [performCalls, List.foldlM_cons, onMelody_of_fits fits, List.map_cons,
        Call.performAll_cons, Call.perform]
      exact bind_congr hypothesis

/-- A call that does not fit is refused when it is reached. -/
theorem performCalls_of_misfit
    {call : Invocation R}
    (misfit : ∀ transform, ¬ Fits call transform)
    (before after : List (Invocation R))
    (melody : Melody R) :
    performCalls onMelody (before ++ call :: after) melody =
      performCalls onMelody before melody >>= fun _ => .refuse .illTyped := by
  rw [performCalls, List.foldlM_append]
  refine bind_congr fun current => ?_
  rw [List.foldlM_cons, onMelody, ofArguments_of_misfit misfit]
  rfl

end Step

/-- What becomes of a melody by the steps of a list. -/
structure Melody.FollowsSteps [Machine R] (melody : Melody R) (steps : List (Value R)) :
    Prop where
  /-- Steps that are calls do what the calls do one after another. -/
  performed : ∀ calls, List.Forall₂ Step.Means steps calls →
    ∀ literal : Value R, literal.toItems = .ok steps →
      melody.applySteps literal = Step.performCalls Step.onMelody calls melody
  /-- Calls with fitting arguments are a chain of transforms. -/
  chained : ∀ calls transforms, List.Forall₂ Step.Means steps calls →
    List.Forall₂ Step.Fits calls transforms →
    ∀ literal : Value R, literal.toItems = .ok steps →
      melody.applySteps literal = Call.performAll (transforms.map .transform) melody
  /-- A call with other arguments is refused when it is reached. -/
  misfit : ∀ before call after, (∀ transform, ¬ Step.Fits call transform) →
    List.Forall₂ Step.Means steps (before ++ call :: after) →
    ∀ literal : Value R, literal.toItems = .ok steps →
      melody.applySteps literal =
        Step.performCalls Step.onMelody before melody >>= fun _ => .refuse .illTyped
  /-- If a step is no call, the calls in front of it are performed and then it is
  refused for what is wrong with it. -/
  refused : ∀ before step after calls fault, steps = before ++ step :: after →
    List.Forall₂ Step.Means before calls → Step.AtFault step fault →
    ∀ literal : Value R, literal.toItems = .ok steps →
      melody.applySteps literal =
        Step.performCalls Step.onMelody calls melody >>= fun _ =>
          .refuse (.configuration fault)
  /-- The refusal is met, unless the step or its name cannot be shown. -/
  told : ∀ fault : ConfigurationFault R,
    (Failure.configuration fault).ToldUnless fault.obstacle?
  /-- Nothing else can be the case. -/
  complete : (∃ calls, List.Forall₂ Step.Means steps calls) ∨
    ∃ before step after calls fault, steps = before ++ step :: after ∧
      List.Forall₂ Step.Means before calls ∧ Step.AtFault step fault
  /-- Every step can be spelled in another way. -/
  respelled : ∀ others, List.Forall₂ Step.Respells steps others →
    ∀ literal other : Value R, literal.toItems = .ok steps → other.toItems = .ok others →
      melody.applySteps literal = melody.applySteps other
  /-- A name can be listed by itself or stand before a null, and a name with an argument
  can stand before the argument. -/
  spellings : ∀ (content : String) (argument : Value R),
    Step.Respells (.text content : Value R) (.list [.text content]) ∧
    Step.Respells (.text content : Value R) (.map [(.text content, .null)]) ∧
    (argument ≠ .null →
      Step.Respells (.list [.text content, argument]) (.map [(.text content, argument)]))

/-- The steps of a song file spell the calls of operations, and nothing else. -/
theorem Melody.steps_spell_calls [Machine R] (melody : Melody R) (steps : List (Value R)) :
    melody.FollowsSteps steps := by
  have applied (literal : Value R) {items : List (Value R)}
      (given : literal.toItems = .ok items) :
      melody.applySteps literal = Step.performItems Step.onMelody items melody := by
    rw [applySteps, Step.performAll, given, Logged.liftM_ok, pure_bind]
  have performed {calls : List (Invocation R)} (means : List.Forall₂ Step.Means steps calls) :
      Step.performItems Step.onMelody steps melody =
        Step.performCalls Step.onMelody calls melody := by
    have runs := Step.performItems_append_of_means Step.onMelody means [] melody
    rw [List.append_nil] at runs
    exact runs.trans (bind_pure _)
  refine ⟨?_, ?_, ?_, ?_, fun fault => Failure.toldUnless rfl, Step.exists_calls steps,
    ?_, ?_⟩
  · intro calls means literal given
    rw [applied literal given, performed means]
  · intro calls transforms means fits literal given
    rw [applied literal given, performed means, Step.performCalls_of_fits fits]
  · intro before call after misfit means literal given
    rw [applied literal given, performed means, Step.performCalls_of_misfit misfit]
  · rintro before step after calls fault rfl means atFault literal given
    rw [applied literal given, Step.performItems_append_of_means Step.onMelody means]
    exact bind_congr fun current =>
      Step.performItems_cons_of_atFault Step.onMelody atFault after current
  · intro others respells literal other given otherGiven
    rw [applied literal given, applied other otherGiven,
      Step.performItems_respelled Step.onMelody respells]
  · intro content argument
    exact ⟨.inr ⟨_, _, .name rfl, .list rfl⟩, .inr ⟨_, _, .name rfl, .bare rfl⟩,
      fun given => .inr ⟨_, _, .list rfl, .entry rfl given⟩⟩

/-- A number is no step, and if it cannot be shown, that is what is met. -/
theorem Step.untold_of_number
    [Machine R]
    {number : Int}
    {obstacle : Value.Obstacle}
    (unshown : (Value.int number : Value R).obstacle? = some obstacle) :
    IsMalformed (.int number : Value R) ∧
      (Failure.configuration (.malformedStep (.int number : Value R))).told =
        obstacleFailure obstacle :=
  ⟨⟨nofun, nofun, nofun, nofun⟩,
    Failure.ToldUnless.untold (Failure.toldUnless rfl) obstacle unshown⟩

/-- A step of too many digits is malformed, but what is met is no refusal of the
configuration. -/
theorem Melody.overlong_step_is_not_told :
    ∃ failure : Failure Float,
      Melody.applySteps ⟨[], .bool false⟩ (.list [.int Value.overlong]) =
          .refuse failure ∧
        Step.IsMalformed (.int Value.overlong : Value Float) ∧
        failure.told = .malformed ∧ ∀ fault, failure.told ≠ .configuration fault := by
  have unshown : (Value.int Value.overlong : Value Float).obstacle? =
      some .tooManyDigits :=
    Value.obstacle?_overlong
  obtain ⟨malformed, told⟩ := Step.untold_of_number unshown
  refine ⟨_, ?_, malformed, told, ?_⟩
  · exact Step.performItems_cons_of_atFault Step.onMelody (.malformed malformed) []
      ⟨[], .bool false⟩
  · rw [told]
    nofun

end MelodyAutomation

import MelodyAutomation.Proofs.SessionRules
import MelodyAutomation.Registry

/-!
# Registries that hold only some objects

A registry holds the objects that it stores and the one that is being worked on.
No request brings in an object from elsewhere, except for one that was made or is
what a stored or current one was changed to. So if only objects of one kind are
made, a registry goes on holding no others.
-/

namespace MelodyAutomation
namespace Registry

variable {R T : Type}

/-- The objects that a registry holds: those it stores, and the current one. -/
def held (registry : Registry R T) : List T :=
  registry.entries.map Prod.snd ++ registry.current.toList

/-- If a registry held only objects of one kind, it still does. -/
def StillHolds (allowed : T → Prop) (before after : Registry R T) : Prop :=
  (∀ object ∈ before.held, allowed object) →
    ∀ object ∈ after.held, allowed object

instance (allowed : T → Prop) :
    IsPreorder (Registry R T) (StillHolds allowed) where
  refl _ holds := holds
  trans _ _ _ first second holds := second (first holds)

variable {allowed : T → Prop}

/-- Making what was returned the current object keeps what setting it keeps. -/
theorem keeps_replace
    {step : Registry R T → Registry R T → Prop}
    [IsPreorder (Registry R T) step]
    {returned : Logged R (Option T)}
    (sets : ∀ object?, returned.outcome = .ok object? → ∀ registry,
      step registry { registry with current := object? }) :
    (replace returned).Keeps step :=
  (Session.keeps_rules step).logged_bind fun object? outcome =>
    Session.keeps_modify (sets object? outcome)

theorem keeps_make
    {made : Logged R T}
    (allows : ∀ object, made.outcome = .ok object → allowed object) :
    (make made).Keeps (StillHolds allowed) := by
  refine keeps_replace fun object? outcome registry holds other member => ?_
  obtain ⟨object, ofMade, rfl⟩ := Logged.outcome_map_eq_ok.1 outcome
  rcases List.mem_append.1 member with stored | current
  · exact holds other (List.mem_append_left _ stored)
  · obtain rfl : other = object := by simpa using current
    exact allows other ofMade

theorem keeps_requireCurrent
    {step : Registry R T → Registry R T → Prop}
    [IsPreorder (Registry R T) step]
    (missing : MissingEntry R) :
    (requireCurrent missing).Keeps step := by
  refine Session.keeps_get_bind fun registry => ?_
  cases registry.current with
  | none => exact (Session.keeps_rules _).throw _
  | some object => exact (Session.keeps_rules _).pure _

theorem keeps_changeTo
    {step : Registry R T → Registry R T → Prop}
    [IsPreorder (Registry R T) step]
    {changer : T → Logged R (Option T)}
    (keeps : ∀ object, (replace (changer object)).Keeps step) :
    (changeTo changer).Keeps step :=
  Session.keeps_get_bind fun _ =>
    (Session.keeps_rules step).bind (keeps_requireCurrent _) keeps

theorem keeps_requireKey
    {step : Registry R T → Registry R T → Prop}
    [IsPreorder (Registry R T) step]
    (name : Value R) :
    (requireKey name : Session (Registry R T) R Unit).Keeps step := by
  unfold requireKey
  split
  · exact (Session.keeps_rules _).pure _
  · exact (Session.keeps_rules _).throw _

variable [Scalar R]

/-- What is stored under some key was stored before, or is what was added. -/
theorem mem_insert
    {entries : Keyed R T}
    {key : Value R}
    {added object : T}
    (member : object ∈ (entries.insert key added).map Prod.snd) :
    object = added ∨ object ∈ entries.map Prod.snd := by
  induction entries with
  | nil => simpa using member
  | cons entry rest hypothesis =>
      obtain ⟨own, old⟩ := entry
      unfold Keyed.insert at member
      split at member
      · rcases List.mem_cons.1 member with same | inRest
        · exact .inl same
        · exact .inr (List.mem_cons_of_mem _ inRest)
      · rcases List.mem_cons.1 member with same | inRest
        · exact .inr (same ▸ List.mem_cons_self)
        · exact (hypothesis inRest).imp_right (List.mem_cons_of_mem _)

/-- Storing adds the current object, which was held before. -/
theorem keeps_store (name : Value R) :
    (store name : Session (Registry R T) R Unit).Keeps
      (StillHolds allowed) := by
  intro registry holds other member
  rw [store, Session.run_get_bind] at member
  cases current : registry.current with
  | none =>
      have refused : (requireCurrent (.nothingToSave registry.name name)).run
          registry = (.refuse (.missing (.nothingToSave registry.name name)),
            registry) := by
        rw [requireCurrent, Session.run_get_bind, current]
        rfl
      rw [Session.run_bind_of_error refused] at member
      exact holds other member
  | some object =>
      have found : (requireCurrent (.nothingToSave registry.name name)).run
          registry = (.succeed object, registry) := by
        rw [requireCurrent, Session.run_get_bind, current]
        rfl
      rw [Session.run_bind_of_ok found] at member
      have allows : allowed object :=
        holds object (List.mem_append_right _ (by simp [current]))
      refine ((Session.keeps_rules (StillHolds allowed)).bind
        (keeps_requireKey name) fun _ => ?_) registry holds other member
      refine Session.keeps_modify fun registry holds other member => ?_
      rcases List.mem_append.1 member with stored | kept
      · rcases mem_insert stored with rfl | earlier
        · exact allows
        · exact holds other (List.mem_append_left _ earlier)
      · exact holds other (List.mem_append_right _ kept)

theorem keeps_save (name : Value R) :
    (save name : Session (Registry R T) R Unit).Keeps
      (StillHolds allowed) := by
  refine (Session.keeps_rules _).bind (keeps_store name) fun _ => ?_
  exact Session.keeps_get_bind fun _ => (Session.keeps_rules _).report _

/-- Looking something up changes nothing. -/
theorem keeps_retrieve
    {step : Registry R T → Registry R T → Prop}
    [IsPreorder (Registry R T) step]
    (name : Value R) :
    (retrieve name : Session (Registry R T) R T).Keeps step := by
  have rules := Session.keeps_rules (R := R) step
  refine rules.bind (keeps_requireKey name) fun _ =>
    Session.keeps_get_bind fun registry => ?_
  cases registry.entries.lookup? name with
  | none => exact rules.throw _
  | some object => exact rules.pure _

/-- What is retrieved is what is stored under the name. -/
theorem lookup?_of_retrieve
    {name : Value R}
    {registry final : Registry R T}
    {object : T}
    (retrieved : (retrieve name).Reaches registry object final) :
    registry.entries.lookup? name = some object := by
  obtain ⟨_, reached, keyed, looked⟩ := Session.reaches_bind.1 retrieved
  have unchanged : (requireKey name :
      Session (Registry R T) R Unit).Keeps Eq := keeps_requireKey name
  obtain rfl := unchanged.of_reaches keyed
  obtain ⟨_, _, got, answered⟩ := Session.reaches_bind.1 looked
  obtain ⟨rfl, rfl⟩ := Session.reaches_get.1 got
  cases found : registry.entries.lookup? name with
  | none => simp [found] at answered
  | some stored =>
      simp only [found, Session.reaches_pure] at answered
      rw [answered.1]

/-- What cannot be cloned is not made current. -/
theorem keeps_clone
    {cloning : Cloning R T}
    (refuses : ∀ object, cloning.clone? object = none)
    (name : Value R) :
    (clone cloning name).Keeps (StillHolds allowed) := by
  refine (Session.keeps_rules _).bind (keeps_retrieve name) fun object => ?_
  rw [refuses]
  exact Session.keeps_get_bind fun _ => (Session.keeps_rules _).throw _

end Registry
end MelodyAutomation

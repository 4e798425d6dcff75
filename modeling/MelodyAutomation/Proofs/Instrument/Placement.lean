import MelodyAutomation.Proofs.Instrument.Locality

/-!
# Where an instrument's nodes are placed

A tape only ever gets longer, and a node that is created is placed at its end. An
instrument that is built takes new places and a new number, so it is apart from
every instrument built earlier.
-/

namespace MelodyAutomation

variable {R : Type}

namespace Stage

/-- A run keeps a stage on its tape, and forgets neither nodes nor numbers. -/
def Grows (left right : Stage R) : Prop :=
  left.OnTape →
    right.OnTape ∧ left.slots ≤ right.slots ∧ left.built ≤ right.built

instance : IsPreorder (Stage R) Grows where
  refl _ onTape := ⟨onTape, Nat.le_refl _, Nat.le_refl _⟩
  trans _ _ _ first second onTape := by
    obtain ⟨middle, slots, built⟩ := first onTape
    obtain ⟨final, moreSlots, moreBuilt⟩ := second middle
    exact ⟨final, Nat.le_trans slots moreSlots, Nat.le_trans built moreBuilt⟩

theorem grows_setPlaying (number : Nat) (playing : Bool) :
    (setPlaying number playing : Session (Stage R) R Unit).Keeps Grows :=
  Session.keeps_modify fun _ onTape => ⟨onTape, Nat.le_refl _, Nat.le_refl _⟩

theorem grows_setClock (clock : R) :
    (setClock clock).Keeps Grows :=
  Session.keeps_modify fun _ onTape => ⟨onTape, Nat.le_refl _, Nat.le_refl _⟩

variable [Scalar R]

theorem grows_perform (command : Command R) :
    (perform command).Keeps Grows := by
  rintro stage ⟨tape, onTape⟩
  rw [run_perform onTape]
  refine ⟨⟨_, rfl⟩, ?_, Nat.le_refl _⟩
  simp [slots, onTape]

/-- Time that passes sets the clock, or is refused. -/
theorem keeps_advance
    {step : Stage R → Stage R → Prop}
    [IsPreorder (Stage R) step]
    (sets : ∀ clock, (setClock clock).Keeps step)
    (seconds : Value R) :
    (advance seconds).Keeps step := by
  refine Session.keeps_get_bind fun stage => ?_
  refine (Session.keeps_rules _).attempt_bind fun moved _ => ?_
  exact (Session.keeps_rules _).attempt_bind fun clock _ => sets clock

theorem grows_advance (seconds : Value R) : (advance seconds).Keeps Grows :=
  keeps_advance grows_setClock seconds

theorem run_create
    {stage : Stage R}
    {tape : Tape R}
    (onTape : stage.engine = .tape tape)
    (blueprint : Blueprint R) :
    (create blueprint).run stage =
      (.succeed (tape.create blueprint).1,
        { stage with engine := .tape (tape.create blueprint).2 }) := by
  simp [create, onEngine, Session.within, Engine.create, onTape]

end Stage

/-- The node of a primitive is placed from one number on and before another. -/
def Primitive.Between (low high : Nat) (primitive : Primitive) : Prop :=
  ∃ kind number, primitive.node = .created kind number ∧
    low ≤ number ∧ number < high

theorem Primitive.Between.mono
    {low high lower higher : Nat}
    {primitive : Primitive}
    (between : primitive.Between low high)
    (below : lower ≤ low)
    (above : high ≤ higher) :
    primitive.Between lower higher := by
  obtain ⟨kind, number, node, least, greatest⟩ := between
  exact ⟨kind, number, node, Nat.le_trans below least,
    Nat.lt_of_lt_of_le greatest above⟩

variable [Scalar R]

/-- A node that is created is placed at the end. -/
theorem Stage.between_of_create
    {stage final : Stage R}
    {blueprint : Blueprint R}
    {primitive : Primitive}
    (onTape : stage.OnTape)
    (created : (Stage.create blueprint).Reaches stage primitive final) :
    primitive.Between stage.slots final.slots := by
  obtain ⟨tape, onTape⟩ := onTape
  obtain ⟨outcome, rfl⟩ := created
  rw [Stage.run_create onTape] at outcome ⊢
  obtain rfl := Except.ok.inj outcome
  refine ⟨blueprint.kind, tape.recordings.length, rfl, ?_, ?_⟩
  · simp [slots, onTape]
  · simp [slots, Tape.create]

namespace Instrument

theorem grows_rules (instrument : Instrument R) :
    OwnRules instrument (fun _ => True) fun _ session =>
      session.Keeps Stage.Grows :=
  .ofPerform (Session.keeps_rules _)
    (fun _ continued => Session.keeps_get_bind continued)
    (Session.keeps_get_bind fun _ => (Session.keeps_rules _).pure _)
    (fun playing => Stage.grows_setPlaying _ playing)
    (fun command _ => Stage.grows_perform command)

/-- An instrument that is built takes a new number and new places only. -/
structure PlacedBetween (instrument : Instrument R) (before after : Stage R) :
    Prop where
  least_number : before.built ≤ instrument.number
  number_lt : instrument.number < after.built
  between : ∀ primitive ∈ instrument.primitives,
    primitive.Between before.slots after.slots

end Instrument
end MelodyAutomation

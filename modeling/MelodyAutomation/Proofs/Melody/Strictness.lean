import MelodyAutomation.Melody.Transform
import MelodyAutomation.Proofs.Outcome
import MelodyAutomation.Scalar.Double

/-!
# Strict and lenient melodies

A chain of operations is run twice on the same notes, once leniently and once
strictly. The strict run shadows the lenient one: both go on with the same notes
until the lenient run reports its first misuse, and there the strict run is
refused for that misuse.

The relation is preserved by sequencing, so that an operation only has to be
checked where it answers a misuse; chains follow by induction over the calls,
together with the chains that are mapped over the notes.
-/

namespace MelodyAutomation

variable {R α β : Type} [Machine R]

namespace Logged

/-- The warnings among the notices of an operation. -/
def warnings (logged : Logged R α) : List (Notice R) :=
  logged.notices.filter fun notice => notice.level = .warning

/-- How a strict operation can end beside a lenient one. -/
inductive Shadows (related : α → β → Prop) :
    Logged R α → Logged R β → Prop
  /-- Without a warning, both have related results. -/
  | agreeing {lenient : α} {strict : β} (results : related lenient strict) :
      Shadows related ⟨.ok lenient, []⟩ ⟨.ok strict, []⟩
  /-- Without a warning, both are refused for the same cause. -/
  | refused (failure : Failure R) :
      Shadows related ⟨.error failure, []⟩ ⟨.error failure, []⟩
  /-- The strict operation is refused for the first misuse that the lenient one
  reports. -/
  | warned (fault : Misuse R) (shown : fault.isShown = true)
      (outcome : Attempt R α) (later : List (Notice R)) :
      Shadows related ⟨outcome, .misused fault :: later⟩
        ⟨.error (.misuse fault), []⟩

namespace Shadows

/-- Shadowing is preserved by sequencing. -/
theorem bind {γ δ : Type}
    {related : α → β → Prop}
    {further : γ → δ → Prop}
    {lenient : Logged R α}
    {strict : Logged R β}
    (shadows : Shadows related lenient strict)
    {lenientNext : α → Logged R γ}
    {strictNext : β → Logged R δ}
    (next : ∀ left right, related left right →
      Shadows further (lenientNext left) (strictNext right)) :
    Shadows further (lenient >>= lenientNext) (strict >>= strictNext) := by
  cases shadows with
  | agreeing results => simpa using next _ _ results
  | refused failure => exact .refused failure
  | warned fault shown outcome later =>
      cases outcome with
      | ok result =>
          rw [bind_ok, after_eq]
          exact .warned fault shown _ _
      | error failure => exact .warned fault shown _ _

/-- An attempt has the same result in both runs. -/
theorem ofAttempt (attempt : Attempt R α) :
    Shadows (· = ·) (liftM attempt : Logged R α) (liftM attempt) := by
  cases attempt with
  | ok result => exact .agreeing rfl
  | error failure => exact .refused failure

/-- Lists of operations shadow each other item by item. -/
theorem mapM {γ δ : Type}
    {related : α → β → Prop}
    {further : γ → δ → Prop}
    {lefts : List α}
    {rights : List β}
    (items : List.Forall₂ related lefts rights)
    {lenient : α → Logged R γ}
    {strict : β → Logged R δ}
    (each : ∀ left right, related left right →
      Shadows further (lenient left) (strict right)) :
    Shadows (List.Forall₂ further) (lefts.mapM lenient)
      (rights.mapM strict) := by
  induction items with
  | nil => exact .agreeing .nil
  | @cons left right lefts rights first rest hypothesis =>
      rw [List.mapM_cons, List.mapM_cons]
      refine (each left right first).bind ?_
      intro result strictResult resultRelated
      refine hypothesis.bind ?_
      intro results strictResults resultsRelated
      exact .agreeing (.cons resultRelated resultsRelated)

end Shadows
end Logged

namespace Melody

open Logged

/-- A lenient and a strict melody of the same notes. -/
structure Twins (lenient strict : Melody R) : Prop where
  notes : lenient.notes = strict.notes
  lenient : lenient.isStrict = false
  strict : strict.isStrict = true

namespace Twins

variable {lenient strict : Melody R}

theorem length (twins : Twins lenient strict) :
    lenient.length = strict.length := by
  simp [Melody.length, twins.notes]

/-- Melodies derived from twins are twins. -/
theorem withNotes
    (twins : Twins lenient strict)
    (notes : List (Note R)) :
    Twins (lenient.withNotes notes) (strict.withNotes notes) :=
  ⟨rfl, twins.lenient, twins.strict⟩

/-- The one place where strictness is looked at. A misuse whose wording cannot be
written is refused by both. -/
theorem reject
    (twins : Twins lenient strict)
    (fault : Misuse R) :
    Shadows Twins (lenient.reject fault) (strict.reject fault) := by
  unfold Melody.reject
  rw [twins.lenient, twins.strict]
  cases shown : fault.isShown with
  | true => exact .warned fault shown _ _
  | false => exact .refused _

end Twins

/-- Deriving other notes from twins by an attempt keeps them twins. -/
theorem Twins.derive
    {lenient strict : Melody R}
    (twins : Twins lenient strict)
    (attempt : Attempt R (List (Note R))) :
    Shadows Twins
      ((liftM attempt : Logged R (List (Note R))) >>= fun notes =>
        pure (lenient.withNotes notes))
      ((liftM attempt : Logged R (List (Note R))) >>= fun notes =>
        pure (strict.withNotes notes)) := by
  refine (Shadows.ofAttempt attempt).bind ?_
  rintro notes _ rfl
  exact .agreeing (twins.withNotes notes)

/-! ## The operations -/

section

variable {lenient strict : Melody R}

theorem shadows_repeatBy
    (twins : Twins lenient strict)
    (shape fit : Value R) :
    Shadows Twins (lenient.repeatBy shape fit) (strict.repeatBy shape fit) := by
  unfold repeatBy
  rw [← twins.length, ← twins.notes]
  cases RepeatShape.ofValue shape lenient.length with
  | error fault => exact twins.reject fault
  | ok decoded => exact twins.derive _

theorem shadows_transform
    (twins : Twins lenient strict)
    (shape : Value R)
    (function : Note R → Value R → Attempt R (Value R))
    (label : String) :
    Shadows Twins (lenient.transform shape function label)
      (strict.transform shape function label) := by
  unfold transform
  rw [← twins.length, ← twins.notes]
  cases TransformShape.ofValue shape lenient.length label with
  | error fault => exact twins.reject fault
  | ok decoded => exact twins.derive _

theorem shadows_arpeggioOf
    (twins : Twins lenient strict)
    (offsets : List (Value R)) :
    Shadows Twins (lenient.arpeggioOf offsets) (strict.arpeggioOf offsets) := by
  refine (shadows_repeatBy twins _ _).bind ?_
  intro looped strictLooped loopedTwins
  exact shadows_transform loopedTwins _ _ _

theorem shadows_chord
    (twins : Twins lenient strict)
    (name : Value R) :
    Shadows Twins (lenient.chord name) (strict.chord name) := by
  unfold chord
  split
  · cases tuning? name with
    | some offsets => exact shadows_arpeggioOf twins _
    | none => exact twins.reject _
  · exact .refused _

theorem shadows_prolongLast
    (twins : Twins lenient strict)
    (duration : Value R) :
    Shadows Twins (lenient.prolongLast duration)
      (strict.prolongLast duration) := by
  unfold prolongLast
  rw [← twins.length]
  dsimp only
  by_cases empty : lenient.length = 0
  · simpa [empty] using twins.reject (.prolongation duration 0)
  · rw [if_neg empty, if_neg empty]
    refine (Shadows.ofAttempt (exceeds duration lenient.length)).bind ?_
    rintro tooLong _ rfl
    cases tooLong with
    | true => exact twins.reject _
    | false =>
        by_cases single : lenient.length = 1
        · simp only [single, if_true, Bool.false_eq_true, if_false]
          exact shadows_transform twins _ _ _
        · simp only [single, if_false, Bool.false_eq_true]
          refine (Shadows.ofAttempt _).bind ?_
          rintro rest _ rfl
          refine (Shadows.ofAttempt _).bind ?_
          rintro factor _ rfl
          exact shadows_transform twins _ _ _

/-- Mapping operations that shadow each other over the notes of twins. -/
theorem shadows_map
    (twins : Twins lenient strict)
    {mapper strictMapper : Melody R → Logged R (Melody R)}
    (each : ∀ left right, Twins left right →
      Shadows Twins (mapper left) (strictMapper right)) :
    Shadows Twins (lenient.map mapper) (strict.map strictMapper) := by
  have parts : List.Forall₂ Twins lenient.parts strict.parts := by
    unfold Melody.parts
    rw [← twins.notes, List.forall₂_map_left_iff, List.forall₂_map_right_iff,
      List.forall₂_same]
    intro note _
    exact twins.withNotes [note]
  refine (Shadows.mapM parts each).bind ?_
  intro results strictResults related
  have joined : results.flatMap Melody.notes =
      strictResults.flatMap Melody.notes := by
    induction related with
    | nil => rfl
    | cons first _ hypothesis => simp [first.notes, hypothesis]
  rw [joined]
  exact .agreeing (twins.withNotes _)

theorem shadows_apply
    (twins : Twins lenient strict)
    (operation : Transform R) :
    Shadows Twins (operation.apply lenient) (operation.apply strict) := by
  cases operation with
  | repeatBy shape fit => exact shadows_repeatBy twins shape fit
  | loop times => exact shadows_repeatBy twins times _
  | transpose shape => exact shadows_transform twins shape _ _
  | stretch shape => exact shadows_transform twins shape _ _
  | arpeggio offsets =>
      refine (Shadows.ofAttempt offsets.toItems).bind ?_
      rintro items _ rfl
      exact shadows_arpeggioOf twins items
  | chord tuning => exact shadows_chord twins tuning
  | prolongLast duration => exact shadows_prolongLast twins duration
  | blueMondayBass => exact shadows_arpeggioOf twins _
  | funkyBass => exact shadows_arpeggioOf twins _

end
end Melody

namespace Call

open Logged

mutual

/-- A call on a strict melody shadows the call on its lenient twin. -/
theorem shadows_perform
    {lenient strict : Melody R}
    (twins : Melody.Twins lenient strict) :
    (call : Call R) →
      Shadows Melody.Twins (call.perform lenient) (call.perform strict)
  | transform operation => by
      simpa only [perform] using Melody.shadows_apply twins operation
  | map chain => by
      simpa only [perform] using Melody.shadows_map twins
        fun _ _ partTwins => shadows_performAll partTwins chain

/-- A chain on a strict melody shadows the chain on its lenient twin. -/
theorem shadows_performAll
    {lenient strict : Melody R}
    (twins : Melody.Twins lenient strict) :
    (chain : List (Call R)) →
      Shadows Melody.Twins (performAll chain lenient) (performAll chain strict)
  | [] => by
      rw [performAll_nil, performAll_nil]
      exact .agreeing twins
  | call :: rest => by
      rw [performAll_cons, performAll_cons]
      exact (shadows_perform twins call).bind fun _ _ nextTwins =>
        shadows_performAll nextTwins rest

end

/-- Make a melody of note literals, strict or not, and perform a chain on it. -/
def performOn (notes : Value R) (strict : Bool) (chain : List (Call R)) :
    Logged R (Melody R) := do
  let melody ← Melody.ofValue notes (.bool strict)
  performAll chain melody

omit [Machine R] in
/-- Two runs end the same way: with equal notes, or refused for the same cause. -/
def EndsLike : Attempt R (Melody R) → Attempt R (Melody R) → Prop
  | .ok left, .ok right => left.notes = right.notes
  | .error left, .error right => left = right
  | _, _ => False

/-- The strict run of a chain shadows the lenient one, from the literals on. -/
theorem shadows_performOn (notes : Value R) (chain : List (Call R)) :
    Shadows Melody.Twins (performOn notes false chain)
      (performOn notes true chain) := by
  unfold performOn Melody.ofValue
  cases Note.listOfValue notes with
  | error failure => exact .refused failure
  | ok made =>
      have twins : Melody.Twins ⟨made, .bool false⟩
          (⟨made, .bool true⟩ : Melody R) :=
        ⟨rfl, rfl, rfl⟩
      simpa using shadows_performAll twins chain

/-- Where the lenient run of a chain logs no warning, the strict run ends like it.
Where it logs one, the strict run is refused for a misuse whose message is that of
the first warning. -/
theorem strict_run_of_lenient_run (notes : Value R) (chain : List (Call R)) :
    match (performOn notes false chain).warnings with
    | [] =>
        EndsLike (performOn notes false chain).outcome
          (performOn notes true chain).outcome
    | first :: _ =>
        ∃ fault : Misuse R,
          (performOn notes true chain).outcome = .error (.misuse fault) ∧
          (Failure.misuse fault).told = .misuse fault ∧
          (Failure.misuse fault).message? = some first.message := by
  have shadows := shadows_performOn notes chain
  revert shadows
  generalize performOn notes false chain = lenient
  generalize performOn notes true chain = strict
  intro shadows
  cases shadows with
  | agreeing twins => exact twins.notes
  | refused failure => exact rfl
  | warned fault shown outcome later =>
      have clear : (Failure.misuse fault).obstacle? = none := by
        simpa [Failure.obstacle?, Misuse.isShown] using shown
      exact ⟨fault, rfl, Failure.told_of_no_obstacle clear, rfl⟩

end Call
end MelodyAutomation

import MelodyAutomation.Melody.Transform
import MelodyAutomation.Proofs.Yields
import MelodyAutomation.Scalar.Double

/-!
# Mapping over the notes of melodies

A melody is a list of notes, and to map over it is what binding is for lists: every
note is replaced by the notes of a melody. The laws of binding hold for mapping chains
of calls. What the notes become is not all that matters, since the parts that a chain
is mapped over are as strict as the melody that they come from, and the result of a
mapping is taken apart again by the next one. So every call must pass strictness on.
-/

namespace MelodyAutomation

variable {R : Type}

namespace Melody

/-- Whatever an operation makes is as strict as a melody. -/
abbrev KeepsStrictness (melody : Melody R) (made : Logged R (Melody R)) : Prop :=
  made.outcome.Yields (fun result => result.strict = melody.strict) fun _ => True

theorem KeepsStrictness.bind
    {melody : Melody R}
    {made : Logged R (Melody R)}
    (keeps : melody.KeepsStrictness made)
    {next : Melody R → Logged R (Melody R)}
    (continued : ∀ result : Melody R, result.KeepsStrictness (next result)) :
    melody.KeepsStrictness (made >>= next) :=
  Logged.yields_bind keeps fun result same =>
    (continued result).imp (fun _ kept => kept.trans same) fun _ => id

/-- What is not a melody has no strictness to pass on. -/
theorem keepsStrictness_bind
    {α : Type}
    {melody : Melody R}
    {first : Logged R α}
    {next : α → Logged R (Melody R)}
    (continued : ∀ value, melody.KeepsStrictness (next value)) :
    melody.KeepsStrictness (first >>= next) := by
  obtain ⟨outcome, notices⟩ := first
  cases outcome with
  | ok value => simpa [KeepsStrictness] using continued value
  | error failure => trivial

/-- What is derived from a melody is as strict as it. -/
theorem keepsStrictness_derive
    (melody : Melody R)
    (notes : Logged R (List (Note R))) :
    melody.KeepsStrictness (notes >>= fun made => pure (melody.withNotes made)) :=
  keepsStrictness_bind fun _ => rfl

theorem keepsStrictness_map
    (melody : Melody R)
    (mapper : Melody R → Logged R (Melody R)) :
    melody.KeepsStrictness (melody.map mapper) :=
  keepsStrictness_bind fun _ => rfl

variable [Machine R] (melody : Melody R)

/-! ## Strictness is passed on -/

theorem keepsStrictness_reject (fault : Misuse R) :
    melody.KeepsStrictness (melody.reject fault) := by
  unfold reject
  split
  · trivial
  · exact rfl

theorem keepsStrictness_repeatBy (shape fit : Value R) :
    melody.KeepsStrictness (melody.repeatBy shape fit) := by
  unfold repeatBy
  split
  · exact melody.keepsStrictness_reject _
  · exact melody.keepsStrictness_derive _

theorem keepsStrictness_transform
    (shape : Value R)
    (function : Note R → Value R → Attempt R (Value R))
    (label : String) :
    melody.KeepsStrictness (melody.transform shape function label) := by
  unfold transform
  split
  · exact melody.keepsStrictness_reject _
  · exact melody.keepsStrictness_derive _

theorem keepsStrictness_arpeggioOf (offsets : List (Value R)) :
    melody.KeepsStrictness (melody.arpeggioOf offsets) :=
  (melody.keepsStrictness_repeatBy _ _).bind fun looped =>
    looped.keepsStrictness_transform _ _ _

theorem keepsStrictness_chord (name : Value R) :
    melody.KeepsStrictness (melody.chord name) := by
  unfold chord
  split
  · split
    · exact melody.keepsStrictness_arpeggioOf _
    · exact melody.keepsStrictness_reject _
  · trivial

theorem keepsStrictness_prolongLast (duration : Value R) :
    melody.KeepsStrictness (melody.prolongLast duration) := by
  unfold prolongLast
  dsimp only
  -- Both ways to decide whether the duration is too long go on alike.
  split
  all_goals
    refine keepsStrictness_bind fun tooLong => ?_
    split
    · exact melody.keepsStrictness_reject _
    · split
      · exact melody.keepsStrictness_transform _ _ _
      · exact keepsStrictness_bind fun rest => keepsStrictness_bind fun factor =>
          melody.keepsStrictness_transform _ _ _

theorem keepsStrictness_apply (operation : Transform R) :
    melody.KeepsStrictness (operation.apply melody) := by
  cases operation with
  | repeatBy shape fit => exact melody.keepsStrictness_repeatBy shape fit
  | loop times => exact melody.keepsStrictness_repeatBy times _
  | transpose shape => exact melody.keepsStrictness_transform shape _ _
  | stretch shape => exact melody.keepsStrictness_transform shape _ _
  | arpeggio offsets =>
      exact keepsStrictness_bind fun items =>
        melody.keepsStrictness_arpeggioOf items
  | chord tuning => exact melody.keepsStrictness_chord tuning
  | prolongLast duration => exact melody.keepsStrictness_prolongLast duration
  | blueMondayBass => exact melody.keepsStrictness_arpeggioOf _
  | funkyBass => exact melody.keepsStrictness_arpeggioOf _

end Melody

namespace Call

variable [Machine R]

theorem keepsStrictness_perform (melody : Melody R) (call : Call R) :
    melody.KeepsStrictness (call.perform melody) := by
  cases call with
  | transform operation =>
      simpa only [perform] using melody.keepsStrictness_apply operation
  | map chain => simpa only [perform] using melody.keepsStrictness_map _

/-- A chain passes the strictness of a melody on. -/
theorem keepsStrictness_performAll (melody : Melody R) (chain : List (Call R)) :
    melody.KeepsStrictness (performAll chain melody) := by
  induction chain generalizing melody with
  | nil =>
      rw [performAll_nil]
      exact rfl
  | cons call rest hypothesis =>
      rw [performAll_cons]
      exact (keepsStrictness_perform melody call).bind hypothesis

end Call

/-! ## The laws of mapping -/

namespace Melody

variable (mapper : Melody R → Logged R (Melody R))

/-- To put every note in its own place changes nothing. -/
theorem map_pure (melody : Melody R) : melody.map pure = pure melody := by
  have parts : melody.parts.mapM (fun part => (pure (id part) : Logged R _)) =
      pure (melody.parts.map id) := List.mapM_pure
  have joined : melody.parts.flatMap notes = melody.notes := by
    simp [Melody.parts, List.flatMap_map]
  rw [List.map_id] at parts
  change (melody.parts.mapM (fun part => (pure (id part) : Logged R _)) >>=
    fun made => pure (melody.withNotes (made.flatMap notes))) = pure melody
  rw [parts, pure_bind, joined]
  rfl

/-- Mapping over the notes has a result exactly when the mapper has one for each of
them. -/
theorem outcome_map_eq_ok {melody made : Melody R} :
    (melody.map mapper).outcome = .ok made ↔
      ∃ results : List (Melody R),
        List.Forall₂ (fun note result =>
          (mapper (melody.withNotes [note])).outcome = .ok result)
          melody.notes results ∧
        made = melody.withNotes (results.flatMap notes) := by
  simp only [map, each, parts, Logged.outcome_bind_eq_ok,
    Logged.outcome_mapM_eq_ok, List.forall₂_map_left_iff, Logged.pure_def,
    Except.ok.injEq]
  exact exists_congr fun results => and_congr_right fun _ => eq_comm

/-- Mapping over some notes and over others after them. -/
theorem map_append (earlier later : List (Note R)) (strict : Value R) :
    map ⟨earlier ++ later, strict⟩ mapper =
      (do
        let first ← map ⟨earlier, strict⟩ mapper
        let second ← map ⟨later, strict⟩ mapper
        pure ⟨first.notes ++ second.notes, strict⟩) := by
  simp only [map, each, parts, List.map_append, List.mapM_append, bind_assoc,
    pure_bind, List.flatMap_append]
  rfl

/-- Mapping over the first note and over the other ones. -/
theorem map_cons (note : Note R) (rest : List (Note R)) (strict : Value R) :
    map ⟨note :: rest, strict⟩ mapper =
      (do
        let first ← mapper ⟨[note], strict⟩
        let second ← map ⟨rest, strict⟩ mapper
        pure ⟨first.notes ++ second.notes, strict⟩) := by
  simp only [map, each, parts, List.map_cons, List.mapM_cons, bind_assoc,
    pure_bind, List.flatMap_cons]
  rfl

/-- Mapping over a single note is doing what the mapper does. -/
theorem map_singleton
    {note : Note R}
    {strict : Value R}
    (keeps : KeepsStrictness ⟨[note], strict⟩ (mapper ⟨[note], strict⟩)) :
    map ⟨[note], strict⟩ mapper = mapper ⟨[note], strict⟩ := by
  have single : map ⟨[note], strict⟩ mapper = (do
      let made ← mapper ⟨[note], strict⟩
      pure ⟨made.notes, strict⟩) := by
    simp [map, each, parts, withNotes]
  rw [single]
  revert keeps
  rcases mapper ⟨[note], strict⟩ with ⟨outcome, notices⟩
  intro keeps
  cases outcome with
  | ok made =>
      obtain ⟨notes, own⟩ := made
      obtain rfl : own = strict := keeps
      simp [Logged.after_eq]
  | error failure => rfl

/-- What is mapped over some notes and over others is joined. -/
theorem outcome_map_append
    {earlier later : List (Note R)}
    {strict : Value R}
    {first second : Melody R}
    (ofEarlier : (map ⟨earlier, strict⟩ mapper).outcome = .ok first)
    (ofLater : (map ⟨later, strict⟩ mapper).outcome = .ok second) :
    (map ⟨earlier ++ later, strict⟩ mapper).outcome =
      .ok ⟨first.notes ++ second.notes, strict⟩ := by
  rw [map_append, Logged.outcome_bind_eq_ok]
  refine ⟨first, ofEarlier, ?_⟩
  rw [Logged.outcome_bind_eq_ok]
  exact ⟨second, ofLater, rfl⟩

/-- What is mapped over a note is in front of what is mapped over the other ones. -/
theorem outcome_map_cons
    {note : Note R}
    {rest : List (Note R)}
    {strict : Value R}
    {first second : Melody R}
    (keeps : KeepsStrictness ⟨[note], strict⟩ (mapper ⟨[note], strict⟩))
    (ofNote : (mapper ⟨[note], strict⟩).outcome = .ok first)
    (ofRest : (map ⟨rest, strict⟩ mapper).outcome = .ok second) :
    (map ⟨note :: rest, strict⟩ mapper).outcome =
      .ok ⟨first.notes ++ second.notes, strict⟩ :=
  outcome_map_append mapper ((map_singleton mapper keeps).symm ▸ ofNote) ofRest

/-- A mapper raises nothing on the one-note melodies that a melody consists of. -/
def Accepts (melody : Melody R) : Prop :=
  ∀ part ∈ melody.parts, ∃ made, (mapper part).outcome = .ok made

variable {mapper}

theorem accepts_of_all
    {melody : Melody R}
    (succeeds : melody.parts.all (fun part => (mapper part).outcome.isOk) = true) :
    Accepts mapper melody :=
  fun part member => Attempt.exists_of_isOk (List.all_eq_true.1 succeeds part member)

theorem Accepts.cons
    {note : Note R}
    {rest : List (Note R)}
    {strict : Value R}
    (accepts : Accepts mapper ⟨note :: rest, strict⟩) :
    (∃ made, (mapper ⟨[note], strict⟩).outcome = .ok made) ∧
      Accepts mapper ⟨rest, strict⟩ :=
  List.forall_mem_cons.1 accepts

/-- A mapper that raises nothing on the parts of a melody is mapped over it. -/
theorem Accepts.exists_map
    (keeps : ∀ melody : Melody R, melody.KeepsStrictness (mapper melody))
    {melody : Melody R}
    (accepts : Accepts mapper melody) :
    ∃ made, (melody.map mapper).outcome = .ok made := by
  obtain ⟨notes, strict⟩ := melody
  induction notes with
  | nil => exact ⟨⟨[], strict⟩, rfl⟩
  | cons note rest hypothesis =>
      obtain ⟨⟨first, ofNote⟩, others⟩ := accepts.cons
      obtain ⟨second, ofRest⟩ := hypothesis others
      exact ⟨_, outcome_map_cons mapper (keeps _) ofNote ofRest⟩

/-- What keeps the strictness of a melody only gives it other notes. -/
theorem KeepsStrictness.eq_withNotes
    {melody made : Melody R}
    {logged : Logged R (Melody R)}
    (keeps : melody.KeepsStrictness logged)
    (outcome : logged.outcome = .ok made) :
    made = melody.withNotes made.notes := by
  rw [KeepsStrictness, outcome] at keeps
  obtain ⟨notes, strict⟩ := made
  obtain rfl : strict = melody.strict := keeps
  rfl

/-- To map over what was mapped is to map over what is made of each note. -/
theorem map_map
    {other : Melody R → Logged R (Melody R)}
    (keeps : ∀ melody : Melody R, melody.KeepsStrictness (mapper melody))
    (keepsOther : ∀ melody : Melody R, melody.KeepsStrictness (other melody))
    {melody : Melody R}
    (accepts : Accepts mapper melody)
    (acceptsOther : ∀ part ∈ melody.parts, ∀ inner,
      (mapper part).outcome = .ok inner → Accepts other inner) :
    ∃ mapped result nested,
      (melody.map mapper).outcome = .ok mapped ∧
      (mapped.map other).outcome = .ok result ∧
      (melody.map fun part => mapper part >>= fun inner =>
        inner.map other).outcome = .ok nested ∧
      nested.notes = result.notes := by
  obtain ⟨notes, strict⟩ := melody
  induction notes with
  | nil => exact ⟨⟨[], strict⟩, ⟨[], strict⟩, ⟨[], strict⟩, rfl, rfl, rfl, rfl⟩
  | cons note rest hypothesis =>
      obtain ⟨⟨inner, ofNote⟩, others⟩ := accepts.cons
      obtain ⟨acceptsInner, acceptsLater⟩ := List.forall_mem_cons.1 acceptsOther
      obtain ⟨mapped, result, nested, ofRest, again, within, same⟩ :=
        hypothesis others acceptsLater
      obtain ⟨made, ofInner⟩ := (acceptsInner inner ofNote).exists_map keepsOther
      have nests : (map ⟨note :: rest, strict⟩ fun part => mapper part >>= fun own =>
          own.map other).outcome = .ok ⟨made.notes ++ nested.notes, strict⟩ := by
        refine outcome_map_cons _ ((keeps _).bind fun own =>
          own.keepsStrictness_map other) ?_ within
        rw [Logged.outcome_bind_eq_ok]
        exact ⟨inner, ofNote, ofInner⟩
      -- Both parts of what was mapped are as strict as the whole of it, so they are
      -- mapped again as they would be on their own.
      rw [(keeps _).eq_withNotes ofNote] at ofInner
      rw [(keepsStrictness_map _ _).eq_withNotes ofRest] at again
      exact ⟨_, _, _, outcome_map_cons mapper (keeps _) ofNote ofRest,
        outcome_map_append other ofInner again, nests, by rw [same]⟩

variable [Machine R]

/-- A melody that is made of a literal is as strict as asked for. -/
theorem eq_of_ofValue
    {literal strict : Value R}
    {made : Melody R}
    (ofLiteral : ofValue literal strict = .ok made) :
    made = ⟨made.notes, strict⟩ := by
  obtain ⟨notes, -, same⟩ := Attempt.bind_eq_ok.1 ofLiteral
  obtain rfl := Except.ok.inj same
  rfl

/-- The notes of two lists of literals are those of the first one and then those of the
second one. -/
theorem ofValue_append
    {literals more : List (Value R)}
    {strict : Value R}
    {first second : Melody R}
    (ofFirst : ofValue (.list literals) strict = .ok first)
    (ofSecond : ofValue (.list more) strict = .ok second) :
    ofValue (.list (literals ++ more)) strict =
      .ok ⟨first.notes ++ second.notes, strict⟩ := by
  simp only [ofValue, Note.listOfValue, Value.toItems_list, Attempt.ok_bind,
    Attempt.bind_eq_ok, Except.ok.injEq] at ofFirst ofSecond ⊢
  obtain ⟨notes, made, rfl⟩ := ofFirst
  obtain ⟨others, makes, rfl⟩ := ofSecond
  refine ⟨notes ++ others, ?_, rfl⟩
  rw [List.mapM_append, made, makes]
  rfl

end Melody

namespace Call

variable [Machine R]

/-- The laws that mapping chains of calls over the notes of melodies obeys, as binding
does for lists. -/
structure MapLaws (melody : Melody R) (chain next : List (Call R)) : Prop where
  /-- The chain without calls leaves every note in its place. -/
  identity : melody.map (performAll []) = pure melody
  /-- Over a single note a chain is mapped by performing it. -/
  single : ∀ (note : Note R) (strict : Value R),
    Melody.map ⟨[note], strict⟩ (performAll chain) =
      performAll chain ⟨[note], strict⟩
  /-- Two chains are mapped one after the other by mapping the second one over what the
  first one makes of each note. -/
  nested : ∃ mapped result inside,
    (melody.map (performAll chain)).outcome = .ok mapped ∧
    (mapped.map (performAll next)).outcome = .ok result ∧
    (melody.map fun part => performAll chain part >>= fun made =>
      made.map (performAll next)).outcome = .ok inside ∧
    inside.notes = result.notes
  /-- A chain is mapped over a melody of two lists of literals by mapping it over the
  melodies of each of them. -/
  joined : ∀ (literals more : List (Value R)) (strict : Value R)
    (first second : Melody R),
    Melody.ofValue (.list literals) strict = .ok first →
    Melody.ofValue (.list more) strict = .ok second →
    Melody.Accepts (performAll chain) first →
    Melody.Accepts (performAll chain) second →
    ∃ both made others all,
      Melody.ofValue (.list (literals ++ more)) strict = .ok both ∧
      (first.map (performAll chain)).outcome = .ok made ∧
      (second.map (performAll chain)).outcome = .ok others ∧
      (both.map (performAll chain)).outcome = .ok all ∧
      all.notes = made.notes ++ others.notes

/-- Chains of calls obey the laws of mapping over every melody on whose notes they raise
nothing, the second one on what the first one makes of them. -/
theorem map_laws
    {melody : Melody R}
    {chain next : List (Call R)}
    (accepts : Melody.Accepts (performAll chain) melody)
    (acceptsNext : ∀ part ∈ melody.parts, ∀ made,
      (performAll chain part).outcome = .ok made →
        Melody.Accepts (performAll next) made) :
    MapLaws melody chain next where
  identity := by
    have silent : performAll ([] : List (Call R)) = pure :=
      funext performAll_nil
    rw [silent, Melody.map_pure]
  single note strict :=
    Melody.map_singleton _ (keepsStrictness_performAll _ chain)
  nested := Melody.map_map (keepsStrictness_performAll · chain)
    (keepsStrictness_performAll · next) accepts acceptsNext
  joined literals more strict first second ofFirst ofSecond acceptsFirst
      acceptsSecond := by
    have keeps (melody : Melody R) := keepsStrictness_performAll melody chain
    obtain ⟨made, ofMade⟩ := acceptsFirst.exists_map keeps
    obtain ⟨others, ofOthers⟩ := acceptsSecond.exists_map keeps
    refine ⟨_, made, others, _, Melody.ofValue_append ofFirst ofSecond, ofMade,
      ofOthers, Melody.outcome_map_append _ ?_ ?_, rfl⟩
    · rwa [← Melody.eq_of_ofValue ofFirst]
    · rwa [← Melody.eq_of_ofValue ofSecond]

/-- A strict tune with a rest in it. -/
def tune : Melody Float :=
  ⟨[⟨.text "A", .int 0, .int 4, .int 2⟩, ⟨.text "0", .int 0, .int 4, .int 1⟩,
    ⟨.text "E", .int 3, .int 4, .real 0.5⟩], .bool true⟩

/-- Split every note in three, and each of these in two. -/
def splitting : List (Call Float) :=
  [.transform (.arpeggio (.list [.int 0, .int 7, .int 12])),
    .map [.transform (.repeatBy (.int 2) (.bool true))]]

/-- Play every note twice, the second time longer and higher. -/
def echoing : List (Call Float) :=
  [.transform (.loop (.int 2)), .transform (.prolongLast (.real 1.5)),
    .transform (.transpose (.list [.int 0, .int 12]))]

theorem map_laws_of_tune :
    Melody.Accepts (performAll splitting) tune ∧
      (∀ part ∈ tune.parts, ∀ made,
        (performAll splitting part).outcome = .ok made →
          Melody.Accepts (performAll echoing) made) ∧
      MapLaws tune splitting echoing := by
  have accepts : Melody.Accepts (performAll splitting) tune :=
    Melody.accepts_of_all (by decide +kernel)
  have succeeds : tune.parts.all (fun part =>
      (performAll splitting part).outcome.toOption.all fun made =>
        made.parts.all fun own => (performAll echoing own).outcome.isOk) = true := by
    decide +kernel
  have acceptsNext : ∀ part ∈ tune.parts, ∀ made,
      (performAll splitting part).outcome = .ok made →
        Melody.Accepts (performAll echoing) made := by
    intro part member made outcome
    have each := List.all_eq_true.1 succeeds part member
    rw [outcome] at each
    exact Melody.accepts_of_all each
  exact ⟨accepts, acceptsNext, map_laws accepts acceptsNext⟩

end Call
end MelodyAutomation

import Mathlib.Data.List.Induction
import MelodyAutomation.Proofs.Registry
import MelodyAutomation.Proofs.SessionContracts
import MelodyAutomation.Proofs.Value.Sameness
import MelodyAutomation.Scalar.Double

/-!
# Registries as ordered maps

What a registry stores is what was saved in it: under every name the object that was
saved last, and the names in the order in which they were saved first. So the answers of
a registry depend on nothing but the savings that succeeded. They are read off the run
of the requests that were handled, each of which may be refused; one that is refused
leaves the registry as it was.
-/

namespace MelodyAutomation

/-- A list without repetitions that gets one more item gets it at its end, unless it has
it. -/
theorem eraseDups_concat
    {α : Type}
    [BEq α]
    (items : List α)
    (item : α) :
    (items ++ [item]).eraseDups =
      if items.eraseDups.any (item == ·) then items.eraseDups
      else items.eraseDups ++ [item] := by
  induction length : items.length using Nat.strongRecOn generalizing items with
  | ind count hypothesis =>
      subst length
      cases items with
      | nil => rfl
      | cons first rest =>
          rw [List.cons_append, List.eraseDups_cons, List.eraseDups_cons,
            List.filter_append]
          by_cases same : item == first
          · simp [same]
          · have shorter : (rest.filter fun other => !other == first).length <
                (first :: rest).length :=
              Nat.lt_succ_of_le (List.length_filter_le _ rest)
            simp [same, hypothesis _ shorter _ rfl, apply_ite]

variable {R T : Type} [Machine R]

/-! ## Keys and names -/

namespace Keyed

/-- A key that is there keeps its place, and a new one goes to the end. -/
theorem keys_insert
    (entries : Keyed R T)
    (key : Value R)
    (object : T) :
    (insert entries key object).map Prod.fst =
      if (entries.map Prod.fst).any key.same then entries.map Prod.fst
      else entries.map Prod.fst ++ [key] := by
  induction entries with
  | nil => rfl
  | cons entry rest hypothesis =>
      obtain ⟨own, old⟩ := entry
      unfold insert
      by_cases there : key.same own
      · simp [there]
      · rw [if_neg there, List.map_cons, hypothesis]
        simp only [List.map_cons, List.any_cons, there, Bool.false_or]
        split <;> rfl

theorem lookup?_cons
    (own : Value R)
    (object : T)
    (rest : Keyed R T)
    (key : Value R) :
    lookup? ((own, object) :: rest) key =
      if key.same own then some object else rest.lookup? key := by
  rw [lookup?, List.find?_cons]
  cases key.same own <;> rfl

/-- Storing something under a name changes what is found under that name only, however
it is spelled. -/
theorem lookup?_insert
    {entries : Keyed R T}
    (named : ∀ entry ∈ entries, ∃ own : Name R, own.value = entry.1)
    (key : Name R)
    (object : T)
    (name : Name R) :
    (insert entries key.value object).lookup? name.value =
      if name == key then some object else entries.lookup? name.value := by
  induction entries with
  | nil => rw [insert_nil, lookup?_cons, Name.same_value]
  | cons entry rest hypothesis =>
      obtain ⟨⟨own, same⟩, others⟩ := List.forall_mem_cons.1 named
      obtain ⟨_, old⟩ := entry
      obtain rfl := same
      rw [insert, Name.same_value]
      by_cases there : key == own
      · rw [if_pos there, lookup?_cons, lookup?_cons, Name.same_value,
          BEq.congr_right there]
        split <;> rfl
      · rw [if_neg there, lookup?_cons, lookup?_cons, Name.same_value,
          hypothesis others]
        by_cases first : name == own
        · have apart : ¬ (name == key) := fun same =>
            there (BEq.trans (BEq.symm same) first)
          rw [if_pos first, if_neg apart, if_pos first]
        · rw [if_neg first, if_neg first]

end Keyed

namespace Registry

/-! ## Savings -/

/-- What was saved, one thing after another: under which name, and which object. -/
abbrev Savings (R T : Type) [Machine R] := List (Name R × T)

namespace Savings

/-- The object that was saved last under a name. -/
def latest? (savings : Savings R T) (name : Name R) : Option T :=
  (savings.findRev? fun saving => name == saving.1).map Prod.snd

/-- The names, each as it was spelled when something was first saved under it. -/
def names (savings : Savings R T) : List (Name R) :=
  (savings.map Prod.fst).eraseDups

/-- Savings as entries, one for each of them. -/
def toKeyed (savings : Savings R T) : Keyed R T :=
  savings.map fun saving => (saving.1.value, saving.2)

/-- The entries that savings leave. -/
def stored (savings : Savings R T) : Keyed R T := Keyed.ofList savings.toKeyed

theorem latest?_eq_none
    {savings : Savings R T}
    {name : Name R} :
    savings.latest? name = none ↔
      ∀ saving ∈ savings, (name == saving.1) = false := by
  simp [latest?, List.findRev?_eq_find?_reverse]

theorem latest?_concat
    (savings : Savings R T)
    (saving : Name R × T)
    (name : Name R) :
    latest? (savings ++ [saving]) name =
      if name == saving.1 then some saving.2 else savings.latest? name := by
  rw [latest?, List.findRev?_eq_find?_reverse, List.reverse_concat,
    List.find?_cons, latest?, List.findRev?_eq_find?_reverse]
  cases name == saving.1 <;> rfl

theorem names_concat
    (savings : Savings R T)
    (saving : Name R × T) :
    names (savings ++ [saving]) =
      if savings.names.any (saving.1 == ·) then savings.names
      else savings.names ++ [saving.1] := by
  rw [names, List.map_append]
  exact eraseDups_concat _ _

theorem merge_append
    (entries : Keyed R T)
    (savings more : Savings R T) :
    entries.merge (toKeyed (savings ++ more)) =
      (entries.merge savings.toKeyed).merge more.toKeyed := by
  simp [toKeyed, Keyed.merge]

/-- Under the names that were saved, in the order of their first saving, there are
entries, and under no others. -/
theorem keys_stored (savings : Savings R T) :
    savings.stored.map Prod.fst = savings.names.map Name.value := by
  induction savings using List.reverseRecOn with
  | nil => rfl
  | append_singleton earlier saving hypothesis =>
      have known : ((names earlier).map Name.value).any saving.1.value.same =
          (names earlier).any (saving.1 == ·) := List.any_map
      rw [stored, Keyed.ofList, merge_append, names_concat]
      change (Keyed.insert (stored earlier) saving.1.value saving.2).map Prod.fst = _
      rw [Keyed.keys_insert, hypothesis, known]
      split
      · rfl
      · simp

/-- What is found under a name is what was saved there last. -/
theorem lookup?_stored
    (savings : Savings R T)
    (name : Name R) :
    savings.stored.lookup? name.value = savings.latest? name := by
  induction savings using List.reverseRecOn with
  | nil => rfl
  | append_singleton earlier saving hypothesis =>
      have named : ∀ entry ∈ stored earlier,
          ∃ own : Name R, own.value = entry.1 := by
        intro entry member
        have key : entry.1 ∈ (stored earlier).map Prod.fst :=
          List.mem_map_of_mem member
        rw [keys_stored] at key
        obtain ⟨own, -, same⟩ := List.mem_map.1 key
        exact ⟨own, same⟩
      rw [stored, Keyed.ofList, merge_append, latest?_concat, ← hypothesis]
      exact Keyed.lookup?_insert named saving.1 saving.2 name

end Savings

/-! ## Requests -/

/-- What can be asked of a registry. What makes or changes an object is part of the
request: it may be refused, and it may return no object. -/
inductive Request (R T : Type) [Machine R]
  | make (returned : Logged R (Option T))
  | change (changer : T → Logged R (Option T))
  | clone (name : Name R)
  | save (name : Name R)
  | get (name : Name R)

/-- Handle a request. -/
def Request.handle (cloning : Cloning R T) :
    Request R T → Session (Registry R T) R Unit
  | make returned => replace returned
  | change changer => changeTo changer
  | clone name => Registry.clone cloning name.value
  | save name => Registry.save name.value
  | get name => do
      let _ ← retrieve name.value
      pure ()

/-- Handle requests one after another, whether or not one is refused. -/
def handleAll (cloning : Cloning R T) (requests : List (Request R T)) :
    Session (Registry R T) R Unit :=
  requests.forM fun request => do
    let _ ← Session.attempt (request.handle cloning)
    pure ()

/-- What a request saves, if it is one to save and is not refused: the current object,
under the name in the request. -/
def Request.saves (cloning : Cloning R T) (request : Request R T)
    (registry : Registry R T) : Savings R T :=
  match request, ((request.handle cloning).run registry).1.outcome,
    registry.current with
  | save name, .ok (), some object => [(name, object)]
  | _, _, _ => []

/-- What is saved by requests that are handled one after another. -/
def savings (cloning : Cloning R T) :
    List (Request R T) → Registry R T → Savings R T
  | [], _ => []
  | request :: rest, registry =>
      request.saves cloning registry ++
        savings cloning rest ((request.handle cloning).run registry).2

/-! ## What a request does -/

section

variable (registry : Registry R T) (name : Name R)

omit [Machine R] in
/-- What was returned becomes current; a refusal to return anything passes through. -/
theorem run_replace (returned : Logged R (Option T)) :
    (replace returned).run registry =
      (⟨returned.outcome.map fun _ => (), returned.notices⟩,
        match returned.outcome with
        | .ok object? => { registry with current := object? }
        | .error _ => registry) := by
  obtain ⟨outcome, notices⟩ := returned
  cases outcome <;> rfl

omit [Machine R] in
theorem run_changeTo (changer : T → Logged R (Option T)) :
    (changeTo changer).run registry =
      match registry.current with
      | none => (.refuse (.missing (.nothingToChange registry.name)), registry)
      | some object => (replace (changer object)).run registry := by
  rw [changeTo, Session.run_get_bind]
  cases current : registry.current with
  | none =>
      have refused : (requireCurrent (.nothingToChange registry.name)).run
          registry = (.refuse (.missing (.nothingToChange registry.name)),
            registry) := by
        rw [requireCurrent, Session.run_get_bind, current]
        rfl
      exact Session.run_bind_of_error refused _
  | some object =>
      have found : (requireCurrent (.nothingToChange registry.name)).run
          registry = (.succeed object, registry) := by
        rw [requireCurrent, Session.run_get_bind, current]
        rfl
      rw [Session.run_bind_of_ok found, Logged.after_nil]

/-- Every name can be a key. -/
theorem requireKey_value :
    (requireKey name.value : Session (Registry R T) R Unit) = pure () :=
  if_pos name.hashable

theorem run_save :
    (save name.value).run registry =
      match registry.current with
      | none =>
          (.refuse (.missing (.nothingToSave registry.name name.value)), registry)
      | some object =>
          (⟨.ok (), [.saved registry.name name.value]⟩,
            { registry with
              entries := registry.entries.insert name.value object }) := by
  obtain ⟨_, _, current⟩ := registry
  rw [save, store, requireKey_value]
  cases current <;> rfl

theorem run_retrieve :
    (retrieve name.value).run registry =
      match registry.entries.lookup? name.value with
      | some object => (.succeed object, registry)
      | none =>
          (.refuse (.missing (.notDefined registry.name name.value)), registry) := by
  rw [retrieve, requireKey_value, pure_bind, Session.run_get_bind]
  cases registry.entries.lookup? name.value <;> rfl

theorem run_clone (cloning : Cloning R T) :
    (clone cloning name.value).run registry =
      match registry.entries.lookup? name.value with
      | none =>
          (.refuse (.missing (.notDefined registry.name name.value)), registry)
      | some stored =>
          match cloning.clone? stored with
          | none =>
              (.refuse (.notClonable registry.name name.value
                (cloning.kindName stored)), registry)
          | some returned => (replace returned).run registry := by
  have retrieved := run_retrieve registry name
  cases found : registry.entries.lookup? name.value with
  | none =>
      rw [found] at retrieved
      exact Session.run_bind_of_error retrieved _
  | some stored =>
      rw [found] at retrieved
      rw [clone, Session.run_bind_of_ok retrieved, Logged.after_nil]
      dsimp only
      cases cloning.clone? stored <;> rfl

end

/-- What becomes of a registry when a request is handled. A refusal leaves it as it was;
otherwise there may be another current object, or the current one is stored. -/
inductive Effect (cloning : Cloning R T) (request : Request R T)
    (registry : Registry R T) : Prop
  | refused {failure : Failure R} :
      ((request.handle cloning).run registry).1.outcome = .error failure →
        ((request.handle cloning).run registry).2 = registry →
        Effect cloning request registry
  | replaced (object? : Option T) :
      ((request.handle cloning).run registry).1.outcome = .ok () →
        ((request.handle cloning).run registry).2 =
          { registry with current := object? } →
        request.saves cloning registry = [] →
        Effect cloning request registry
  | stored {name : Name R} {object : T} :
      ((request.handle cloning).run registry).1.outcome = .ok () →
        ((request.handle cloning).run registry).2 =
          { registry with
            entries := registry.entries.insert name.value object } →
        request.saves cloning registry = [(name, object)] →
        Effect cloning request registry

theorem Effect.ofRefusal
    {cloning : Cloning R T}
    {request : Request R T}
    {registry : Registry R T}
    {failure : Failure R}
    (run : (request.handle cloning).run registry = (.refuse failure, registry)) :
    Effect cloning request registry :=
  .refused (congrArg (·.1.outcome) run) (congrArg Prod.snd run)

/-- A request that makes current what was returned, and saves nothing. -/
theorem Effect.ofReplace
    {cloning : Cloning R T}
    {request : Request R T}
    {registry : Registry R T}
    {returned : Logged R (Option T)}
    (run : (request.handle cloning).run registry =
      (replace returned).run registry)
    (silent : request.saves cloning registry = []) :
    Effect cloning request registry := by
  rw [run_replace] at run
  cases outcome : returned.outcome with
  | ok object? =>
      rw [outcome] at run
      exact .replaced object? (by rw [run]; rfl) (by rw [run]) silent
  | error failure =>
      rw [outcome] at run
      exact .refused (by rw [run]; rfl) (by rw [run])

theorem effect_handle
    (cloning : Cloning R T)
    (request : Request R T)
    (registry : Registry R T) :
    Effect cloning request registry := by
  cases request with
  | make returned => exact .ofReplace rfl rfl
  | change changer =>
      have run := run_changeTo registry changer
      cases current : registry.current with
      | none =>
          rw [current] at run
          exact .ofRefusal run
      | some object =>
          rw [current] at run
          exact .ofReplace run rfl
  | clone name =>
      have run := run_clone registry name cloning
      cases found : registry.entries.lookup? name.value with
      | none =>
          rw [found] at run
          exact .ofRefusal run
      | some stored =>
          cases cloned : cloning.clone? stored with
          | none =>
              simp only [found, cloned] at run
              exact .ofRefusal run
          | some returned =>
              simp only [found, cloned] at run
              exact .ofReplace run rfl
  | save name =>
      have run := run_save registry name
      cases current : registry.current with
      | none =>
          rw [current] at run
          exact .ofRefusal run
      | some object =>
          rw [current] at run
          refine .stored (congrArg (·.1.outcome) run) ?_
            (?_ : _ = [(name, object)])
          · rw [current]
            exact congrArg Prod.snd run
          · simp only [Request.saves, Request.handle, run, current]
  | get name =>
      have run := run_retrieve registry name
      cases found : registry.entries.lookup? name.value with
      | none =>
          rw [found] at run
          exact .ofRefusal (Session.run_bind_of_error run _)
      | some object =>
          rw [found] at run
          have answered := Session.run_bind_of_ok run fun _ => pure ()
          exact .replaced registry.current (congrArg (·.1.outcome) answered)
            (congrArg Prod.snd answered) rfl

/-- A request that is refused leaves the registry as it was. -/
theorem handle_eq_of_error
    {cloning : Cloning R T}
    {request : Request R T}
    {registry : Registry R T}
    {failure : Failure R}
    (refused : ((request.handle cloning).run registry).1.outcome =
      .error failure) :
    ((request.handle cloning).run registry).2 = registry := by
  cases effect_handle cloning request registry with
  | refused _ unchanged => exact unchanged
  | replaced _ outcome _ _ => simp [outcome] at refused
  | stored outcome _ _ => simp [outcome] at refused

/-- A request adds to the entries what it saves, and nothing else. -/
theorem entries_handle
    (cloning : Cloning R T)
    (request : Request R T)
    (registry : Registry R T) :
    ((request.handle cloning).run registry).2.entries =
      registry.entries.merge (request.saves cloning registry).toKeyed := by
  cases effect_handle cloning request registry with
  | refused outcome unchanged =>
      have nothing : request.saves cloning registry = [] := by
        cases request <;> simp [Request.saves, outcome]
      rw [unchanged, nothing]
      rfl
  | replaced object? _ final nothing =>
      rw [final, nothing]
      rfl
  | stored _ final saved =>
      rw [final, saved]
      rfl

theorem name_handle
    (cloning : Cloning R T)
    (request : Request R T)
    (registry : Registry R T) :
    ((request.handle cloning).run registry).2.name = registry.name := by
  cases effect_handle cloning request registry with
  | refused _ unchanged => rw [unchanged]
  | replaced _ _ final _ => rw [final]
  | stored _ final _ => rw [final]

/-! ## What a run does -/

theorem run_handleAll_cons
    (cloning : Cloning R T)
    (request : Request R T)
    (rest : List (Request R T))
    (registry : Registry R T) :
    ((handleAll cloning (request :: rest)).run registry).2 =
      ((handleAll cloning rest).run
        ((request.handle cloning).run registry).2).2 := by
  have attempted : (do
      let _ ← Session.attempt (request.handle cloning)
      pure ()).Reaches registry ()
        ((request.handle cloning).run registry).2 := by
    rw [Session.reaches_bind]
    exact ⟨_, _, ⟨rfl, rfl⟩, Session.reaches_pure.2 ⟨rfl, rfl⟩⟩
  exact (attempted.run_bind _).2

/-- A run adds to the entries what is saved in it, and keeps the name of the
registry. -/
theorem run_handleAll
    (cloning : Cloning R T)
    (requests : List (Request R T))
    (registry : Registry R T) :
    ((handleAll cloning requests).run registry).2.name = registry.name ∧
    ((handleAll cloning requests).run registry).2.entries =
      registry.entries.merge (savings cloning requests registry).toKeyed := by
  induction requests generalizing registry with
  | nil => exact ⟨rfl, rfl⟩
  | cons request rest hypothesis =>
      obtain ⟨name, entries⟩ :=
        hypothesis ((request.handle cloning).run registry).2
      rw [run_handleAll_cons, savings, Savings.merge_append, ← entries_handle]
      exact ⟨name.trans (name_handle cloning request registry), entries⟩

/-! ## Ordered maps -/

/-- A request is refused, the registry is what it was, and nothing keeps the cause from
being told. -/
def Refuses {α : Type} (registry : Registry R T)
    (request : Session (Registry R T) R α) (failure : Failure R) : Prop :=
  request.run registry = (.refuse failure, registry) ∧ failure.told = failure

/-- A registry answers as an ordered map of what was saved in it, beside a current
object. -/
structure Answers (cloning : Cloning R T) (name : String)
    (savings : Savings R T) (registry : Registry R T) : Prop where
  names_eq : registry.names = savings.names.map Name.value
  get : ∀ own : Name R,
    match savings.latest? own with
    | some object =>
        (retrieve own.value).run registry = (.succeed object, registry)
    | none =>
        registry.Refuses (retrieve own.value)
          (.missing (.notDefined name own.value))
  missing : ∀ own : Name R,
    ((retrieve own.value).run registry).1.outcome =
        .error (.missing (.notDefined name own.value)) ↔
      ∀ saving ∈ savings, (own == saving.1) = false
  make : ∀ returned : Logged R (Option T),
    (replace returned).run registry =
      (⟨returned.outcome.map fun _ => (), returned.notices⟩,
        match returned.outcome with
        | .ok object? => { registry with current := object? }
        | .error _ => registry)
  clone : ∀ own : Name R,
    match savings.latest? own with
    | none =>
        registry.Refuses (Registry.clone cloning own.value)
          (.missing (.notDefined name own.value))
    | some object =>
        match cloning.clone? object with
        | none =>
            registry.Refuses (Registry.clone cloning own.value)
              (.notClonable name own.value (cloning.kindName object))
        | some returned =>
            (Registry.clone cloning own.value).run registry =
              (replace returned).run registry
  save : ∀ own : Name R,
    match registry.current with
    | none =>
        registry.Refuses (Registry.save own.value)
          (.missing (.nothingToSave name own.value))
    | some object =>
        (Registry.save own.value).run registry =
          (⟨.ok (), [.saved name own.value]⟩,
            { registry with
              entries := Savings.stored (savings ++ [(own, object)]) })
  change : ∀ changer : T → Logged R (Option T),
    match registry.current with
    | none =>
        registry.Refuses (changeTo changer) (.missing (.nothingToChange name))
    | some object =>
        (changeTo changer).run registry =
          (replace (changer object)).run registry
  refused : ∀ (request : Request R T) (failure : Failure R),
    ((request.handle cloning).run registry).1.outcome = .error failure →
      ((request.handle cloning).run registry).2 = registry

/-- What a name is told with can be shown. -/
theorem told_of_name
    {failure : Failure R}
    {own : Name R}
    (about : failure.obstacle? = own.value.obstacle?) :
    failure.told = failure :=
  Failure.told_of_no_obstacle (about.trans own.shown)

/-- A registry with the entries of some savings answers as an ordered map of these. -/
theorem answers_of_entries
    (cloning : Cloning R T)
    {savings : Savings R T}
    {registry : Registry R T}
    (stores : registry.entries = savings.stored) :
    Answers cloning registry.name savings registry where
  names_eq := by rw [names, stores, savings.keys_stored]
  get own := by
    have run := run_retrieve registry own
    rw [stores, savings.lookup?_stored] at run
    cases latest : savings.latest? own with
    | some object => rw [latest] at run; exact run
    | none => rw [latest] at run; exact ⟨run, told_of_name rfl⟩
  missing own := by
    rw [run_retrieve, stores, savings.lookup?_stored, ← Savings.latest?_eq_none]
    cases savings.latest? own with
    | some object => simp [Logged.succeed]
    | none => simp [Logged.refuse]
  make := run_replace registry
  clone own := by
    have run := run_clone registry own cloning
    rw [stores, savings.lookup?_stored] at run
    cases latest : savings.latest? own with
    | none => rw [latest] at run; exact ⟨run, told_of_name rfl⟩
    | some object =>
        simp only [latest] at run ⊢
        cases returns : cloning.clone? object with
        | none => rw [returns] at run; exact ⟨run, told_of_name rfl⟩
        | some returned => rw [returns] at run; exact run
  save own := by
    have run := run_save registry own
    cases current : registry.current with
    | none => rw [current] at run; exact ⟨run, told_of_name rfl⟩
    | some object =>
        have grown : Savings.stored (savings ++ [(own, object)]) =
            registry.entries.insert own.value object := by
          rw [stores, Savings.stored, Keyed.ofList, Savings.merge_append]
          rfl
        rw [current] at run
        simpa only [grown] using run
  change changer := by
    have run := run_changeTo registry changer
    cases current : registry.current with
    | none => rw [current] at run; exact ⟨run, Failure.told_of_no_obstacle rfl⟩
    | some object => rw [current] at run; exact run
  refused _ _ := handle_eq_of_error

/-- Whatever is asked of a new registry, and however much of it is refused, the registry
answers as an ordered map of the savings that were not. -/
theorem answers_as_ordered_map
    (name : String)
    (cloning : Cloning R T)
    (requests : List (Request R T)) :
    Answers cloning name (savings cloning requests (empty name))
      ((handleAll cloning requests).run (empty name)).2 := by
  obtain ⟨sameName, entries⟩ := run_handleAll cloning requests (empty name)
  have answers := answers_of_entries cloning entries
  rwa [sameName] at answers

/-- A name keeps its place, and a changer that returns nothing leaves nothing to save. -/
example :
    let final := ((handleAll ⟨fun _ => "number", fun _ => none⟩
      [.make (pure (some 1)), .save (.ofText "low"), .make (pure (some 2)),
        .save (.ofText "high"), .change fun _ => pure none,
        .save (.ofText "none"), .clone (.ofText "high"),
        .make (pure (some 3)), .save (.ofText "low")]).run
      (empty "numbers" : Registry Float Nat)).2
    (final.entries.map Prod.snd, final.current) = ([3, 2], some 3) := by
  decide +kernel

end Registry
end MelodyAutomation

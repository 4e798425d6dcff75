import MelodyAutomation.Note
import Mathlib.Data.List.Basic

/-!
# Keys of maps

What the keys of a map are after something has been stored in it. A text is the same as
no other key, so under texts a map can be observed without regard to what it holds
under other keys. When keys are distinct, looking one up finds what is held there. When
all keys are texts, storing the entries of one map in another one has a closed form: names
that are there keep their places, and new ones follow.
-/

namespace MelodyAutomation

variable {R α : Type}

/-- Whether a text is one of the keys. -/
def Keyed.hasName (entries : Keyed R α) (name : String) : Bool :=
  entries.any fun entry => entry.1.isText name

theorem Value.isText_iff
    {value : Value R}
    {content : String} :
    value.isText content ↔ value = .text content := by
  cases value <;> simp [Value.isText]

theorem Entries.isSome_get?
    (entries : Entries R)
    (name : String) :
    (entries.get? name).isSome = Keyed.hasName entries name := by
  rw [Bool.eq_iff_iff]
  simp [Entries.get?, Keyed.hasName]

variable [Scalar R]

/-- A text is the same as no other key. -/
theorem Value.same_text
    (content : String)
    (other : Value R) :
    (Value.text content).same other = other.isText content := by
  cases other with
  | text own => simp [Value.same, Bool.beq_comm]
  | _ => simp [Value.same, Value.sameNumber, Value.reading?, Value.isText]

/-- No other key is the same as a text. -/
theorem Value.same_text_right
    (value : Value R)
    (content : String) :
    value.same (.text content) = value.isText content := by
  cases value with
  | text own => simp [Value.same]
  | _ => simp [Value.same, Value.sameNumber, Value.reading?, Value.isText]

namespace Keyed

/-- What is stored under a key is found under it, and nothing else is found under
another key than before. -/
theorem get?_insert
    (entries : Entries R)
    (key value : Value R)
    (name : String) :
    Entries.get? (insert entries key value) name =
      if key.isText name then some value else entries.get? name := by
  induction entries with
  | nil => by_cases isName : key.isText name <;> simp [Entries.get?, isName]
  | cons entry rest hypothesis =>
      obtain ⟨own, old⟩ := entry
      rw [insert]
      by_cases isName : key.isText name
      · obtain rfl := Value.isText_iff.1 isName
        rw [Value.same_text]
        cases there : own.isText name with
        | true => simp [Entries.get?, there]
        | false => simpa [Entries.get?, there] using hypothesis
      · by_cases ownName : own.isText name
        · obtain rfl := Value.isText_iff.1 ownName
          simp [Value.same_text_right, isName, Entries.get?]
        · have later : Entries.get? (insert rest key value) name = Entries.get? rest name := by
            rw [hypothesis, if_neg isName]
          rw [if_neg isName]
          split
          · simp [Entries.get?, ownName]
          · simpa [Entries.get?, ownName] using later

theorem get?_merge
    (entries additions : Entries R)
    (name : String) :
    Entries.get? (merge entries additions) name =
      (Entries.get? additions.reverse name).or (entries.get? name) := by
  unfold merge
  induction additions generalizing entries with
  | nil => simp [Entries.get?]
  | cons addition rest hypothesis =>
      rw [List.foldl_cons, hypothesis, get?_insert]
      by_cases isName : addition.1.isText name <;>
        simp [Entries.get?, List.find?_append, isName]

/-- Of the entries under a text, the last one is kept. -/
theorem get?_ofList
    (entries : Entries R)
    (name : String) :
    Entries.get? (ofList entries) name = Entries.get? entries.reverse name := by
  rw [ofList, get?_merge]
  simp [Entries.get?]

/-- Storing something under a key adds no other key, and takes none away. -/
theorem hasName_insert
    (entries : Keyed R α)
    (key : Value R)
    (value : α)
    (name : String) :
    hasName (insert entries key value) name =
      (hasName entries name || key.isText name) := by
  induction entries with
  | nil => simp [hasName]
  | cons entry rest hypothesis =>
      obtain ⟨own, old⟩ := entry
      unfold insert
      by_cases there : key.same own
      · rw [if_pos there]
        by_cases isName : key.isText name
        · obtain rfl := Value.isText_iff.mp isName
          rw [Value.same_text] at there
          simp [hasName, there]
        · simp [hasName, isName]
      · rw [if_neg there]
        simp only [hasName, List.any_cons] at hypothesis ⊢
        rw [hypothesis, Bool.or_assoc]

theorem hasName_merge
    (entries additions : Keyed R α)
    (name : String) :
    hasName (merge entries additions) name =
      (hasName entries name || hasName additions name) := by
  unfold merge
  induction additions generalizing entries with
  | nil => simp [hasName]
  | cons addition rest hypothesis =>
      rw [List.foldl_cons, hypothesis, hasName_insert]
      simp [hasName, Bool.or_assoc]

theorem hasName_ofList
    (entries : Keyed R α)
    (name : String) :
    hasName (ofList entries) name = hasName entries name := by
  rw [ofList, hasName_merge]
  simp [hasName]

/-- Under a text, something is found exactly when it is one of the keys. -/
theorem isSome_lookup?_text
    (entries : Keyed R α)
    (name : String) :
    (entries.lookup? (.text name)).isSome = hasName entries name := by
  rw [Bool.eq_iff_iff]
  simp [lookup?, hasName, Value.same_text]

section

variable {ofKeys : Value R → Prop} {ofValues : α → Prop}

/-- What holds of all keys and of all that is held under them holds of what is
stored, a key and what is held under it each for itself. -/
theorem forall_mem_insert
    {entries : Keyed R α}
    (holds : ∀ entry ∈ entries, ofKeys entry.1 ∧ ofValues entry.2)
    {key : Value R}
    (ofKey : ofKeys key)
    {value : α}
    (ofValue : ofValues value) :
    ∀ entry ∈ insert entries key value, ofKeys entry.1 ∧ ofValues entry.2 := by
  induction entries with
  | nil => exact List.forall_mem_singleton.2 ⟨ofKey, ofValue⟩
  | cons first rest hypothesis =>
      obtain ⟨own, old⟩ := first
      obtain ⟨ofFirst, ofRest⟩ := List.forall_mem_cons.1 holds
      unfold insert
      split
      · exact List.forall_mem_cons.2 ⟨⟨ofFirst.1, ofValue⟩, ofRest⟩
      · exact List.forall_mem_cons.2 ⟨ofFirst, hypothesis ofRest⟩

theorem forall_mem_merge
    {entries additions : Keyed R α}
    (before : ∀ entry ∈ entries, ofKeys entry.1 ∧ ofValues entry.2)
    (added : ∀ entry ∈ additions, ofKeys entry.1 ∧ ofValues entry.2) :
    ∀ entry ∈ merge entries additions, ofKeys entry.1 ∧ ofValues entry.2 := by
  unfold merge
  induction additions generalizing entries with
  | nil => exact before
  | cons addition rest hypothesis =>
      obtain ⟨ofFirst, ofRest⟩ := List.forall_mem_cons.1 added
      exact hypothesis (forall_mem_insert before ofFirst.1 ofFirst.2) ofRest

theorem forall_mem_ofList
    (ofKeys : Value R → Prop)
    (ofValues : α → Prop)
    {additions : List (Value R × α)}
    (added : ∀ entry ∈ additions, ofKeys entry.1 ∧ ofValues entry.2) :
    ∀ entry ∈ ofList additions, ofKeys entry.1 ∧ ofValues entry.2 :=
  forall_mem_merge (List.forall_mem_nil _) added

end

end Keyed

/-! ## Lookups -/

section

variable {κ : Type} [BEq κ] [LawfulBEq κ] {entries : List (κ × α)} {key : κ}

theorem lookup_cons_eq
    [DecidableEq κ]
    (entry : κ × α)
    (rest : List (κ × α))
    (key : κ) :
    List.lookup key (entry :: rest) =
      if key = entry.1 then some entry.2 else rest.lookup key := by
  obtain ⟨own, value⟩ := entry
  by_cases same : key = own
  · simp [same]
  · simp [List.lookup_cons, beq_eq_false_iff_ne.mpr same, same]

/-- Nothing is found exactly under what is no key. -/
theorem lookup_eq_none_iff_not_mem :
    entries.lookup key = none ↔ key ∉ entries.map Prod.fst := by
  rw [List.lookup_eq_none_iff]
  constructor
  · intro different present
    obtain ⟨entry, member, rfl⟩ := List.mem_map.mp present
    simpa using different entry member
  · intro absent entry member
    rw [bne_iff_ne]
    rintro rfl
    exact absent (List.mem_map_of_mem member)

theorem mem_of_lookup
    {value : α}
    (found : entries.lookup key = some value) :
    (key, value) ∈ entries := by
  obtain ⟨before, after, rfl, _⟩ := List.lookup_eq_some_iff.mp found
  simp

/-- Under distinct keys, every entry is found. -/
theorem lookup_of_mem
    (distinct : (entries.map Prod.fst).Nodup)
    {entry : κ × α}
    (member : entry ∈ entries) :
    entries.lookup entry.1 = some entry.2 := by
  classical
  induction entries with
  | nil => cases member
  | cons first rest hypothesis =>
      simp only [List.map_cons, List.nodup_cons] at distinct
      rw [lookup_cons_eq]
      rcases List.mem_cons.mp member with rfl | later
      · rw [if_pos rfl]
      · have different : entry.1 ≠ first.1 := by
          intro same
          exact distinct.1 (same ▸ List.mem_map_of_mem later)
        rw [if_neg different]
        exact hypothesis distinct.2 later

/-- Changing what is held under keys changes what is found under them. -/
theorem lookup_map_snd
    {β : Type}
    (entries : List (κ × α))
    (function : κ → α → β)
    (key : κ) :
    (entries.map fun entry => (entry.1, function entry.1 entry.2)).lookup key =
      (entries.lookup key).map (function key) := by
  classical
  induction entries with
  | nil => rfl
  | cons entry rest hypothesis =>
      rw [List.map_cons, lookup_cons_eq, lookup_cons_eq, hypothesis]
      by_cases same : key = entry.1
      · subst same
        simp
      · simp [same]

end

/-! ## Names -/

/-- Things stored under names, in order. -/
abbrev Named (α : Type) := List (String × α)

namespace Named

section

variable {pairs additions : Named α} {name : String}

/-- The names under which things are stored. -/
abbrev names (pairs : Named α) : List String := pairs.map Prod.fst

/-- Things stored under texts. -/
def toKeyed (pairs : Named α) : Keyed R α :=
  pairs.map fun pair => (.text pair.1, pair.2)

/-- Store something under a name. -/
def put (pairs : Named α) (name : String) (value : α) : Named α :=
  if name ∈ pairs.names then
    pairs.map fun pair => if pair.1 = name then (name, value) else pair
  else pairs ++ [(name, value)]

/-- What is not stored under some names. -/
def without (pairs : Named α) (taken : List String) : Named α :=
  pairs.filter fun pair => pair.1 ∉ taken

/-- The pairs of one list with those of another one stored over them: a name that is
there keeps its place, and a new one follows. -/
def overlay (pairs additions : Named α) : Named α :=
  pairs.map (fun pair => (pair.1, (additions.lookup pair.1).getD pair.2)) ++
    additions.without pairs.names

/-- A pair of a list is under no name that is not there. -/
theorem ne_of_mem
    (absent : name ∉ pairs.names)
    {pair : String × α}
    (member : pair ∈ pairs) :
    pair.1 ≠ name := by
  rintro rfl
  exact absent (List.mem_map_of_mem member)

theorem without_cons_of_mem
    {taken : List String}
    {pair : String × α}
    (member : pair.1 ∈ taken)
    (rest : Named α) :
    without (pair :: rest) taken = rest.without taken :=
  List.filter_cons_of_neg (by simpa using member)

theorem without_cons_of_not_mem
    {taken : List String}
    {pair : String × α}
    (free : pair.1 ∉ taken)
    (rest : Named α) :
    without (pair :: rest) taken = pair :: rest.without taken :=
  List.filter_cons_of_pos (by simpa using free)

/-- Other names hold what they held. -/
theorem lookup_without
    {taken : List String}
    (free : name ∉ taken) :
    (pairs.without taken).lookup name = pairs.lookup name := by
  induction pairs with
  | nil => rfl
  | cons pair rest hypothesis =>
      rw [lookup_cons_eq]
      by_cases member : pair.1 ∈ taken
      · have different : name ≠ pair.1 := by
          rintro rfl
          exact free member
        rw [without_cons_of_mem member, hypothesis, if_neg different]
      · rw [without_cons_of_not_mem member, lookup_cons_eq, hypothesis]

/-- Nothing is left under the names. -/
theorem not_mem_names_without
    {taken : List String}
    (member : name ∈ taken) :
    name ∉ (pairs.without taken).names := by
  intro present
  obtain ⟨pair, kept, rfl⟩ := List.mem_map.mp present
  have free := (List.mem_filter.mp kept).2
  simp [member] at free

theorem nodup_without
    (distinct : pairs.names.Nodup)
    (taken : List String) :
    (pairs.without taken).names.Nodup :=
  (List.filter_sublist.map Prod.fst).nodup distinct

/-- Where a name is not there, nothing is replaced. -/
theorem map_replace_of_not_mem
    (absent : name ∉ pairs.names)
    (value : α) :
    pairs.map (fun pair => if pair.1 = name then (name, value) else pair) =
      pairs := by
  conv_rhs => rw [← List.map_id pairs]
  apply List.map_congr_left
  intro pair member
  rw [if_neg (ne_of_mem absent member)]
  rfl

/-- A name that is there keeps its place. -/
theorem names_put_of_mem
    (there : name ∈ pairs.names)
    (value : α) :
    (pairs.put name value).names = pairs.names := by
  rw [put, if_pos there, names, List.map_map]
  apply List.map_congr_left
  intro pair member
  by_cases same : pair.1 = name <;> simp [same]

/-- Distinct names stay distinct. -/
theorem nodup_put
    (distinct : pairs.names.Nodup)
    (name : String)
    (value : α) :
    (pairs.put name value).names.Nodup := by
  by_cases there : name ∈ pairs.names
  · rw [names_put_of_mem there]
    exact distinct
  · rw [put, if_neg there, names, List.map_append, List.nodup_append]
    refine ⟨distinct, by simp, ?_⟩
    intro own member added present
    obtain rfl := List.mem_singleton.mp present
    rintro rfl
    exact there member

theorem overlay_nil (pairs : Named α) : pairs.overlay [] = pairs := by
  simp [overlay, without]

/-- The first addition can be stored before the others. -/
theorem overlay_cons
    (fresh : name ∉ additions.names)
    (value : α) :
    pairs.overlay ((name, value) :: additions) =
      (pairs.put name value).overlay additions := by
  have last := lookup_eq_none_iff_not_mem.mpr fresh
  -- A name that is there is replaced where it stands; a new one goes to the end, in
  -- front of the other additions.
  by_cases there : name ∈ pairs.names
  · rw [overlay, overlay, names_put_of_mem there, without_cons_of_mem there, put,
      if_pos there, List.map_map]
    congr 1
    apply List.map_congr_left
    intro pair member
    by_cases same : pair.1 = name
    · simp [same, last]
    · simp [lookup_cons_eq, same]
  · have others : additions.without (names (pairs ++ [(name, value)])) =
        additions.without pairs.names := by
      apply List.filter_congr
      intro addition member
      simp [ne_of_mem fresh member]
    have untouched : pairs.map (fun pair =>
        (pair.1, (List.lookup pair.1 ((name, value) :: additions)).getD
          pair.2)) =
          pairs.map fun pair =>
            (pair.1, (additions.lookup pair.1).getD pair.2) := by
      apply List.map_congr_left
      intro pair member
      simp [lookup_cons_eq, ne_of_mem there member]
    rw [overlay, overlay, put, if_neg there, others, untouched,
      without_cons_of_not_mem there]
    simp [last]

end

/-- Storing something under a text is storing it under the name. -/
theorem insert_toKeyed
    {pairs : Named α}
    (distinct : pairs.names.Nodup)
    (name : String)
    (value : α) :
    Keyed.insert (pairs.toKeyed : Keyed R α) (.text name) value =
      (pairs.put name value).toKeyed := by
  induction pairs with
  | nil => rfl
  | cons pair rest hypothesis =>
      obtain ⟨own, old⟩ := pair
      simp only [names, List.map_cons, List.nodup_cons] at distinct
      have others := hypothesis distinct.2
      simp only [toKeyed, List.map_cons] at others ⊢
      rw [Keyed.insert, Value.same_text, Value.isText_text]
      by_cases same : own = name
      · subst same
        simp [put, map_replace_of_not_mem distinct.1]
      · have different : (own == name) = false := by simpa using same
        rw [different, others]
        by_cases there : name ∈ names rest
        · simp [put, same, there]
        · simp [put, there, Ne.symm same]

/-- Storing named things over others is laying one list over the other. -/
theorem merge_toKeyed
    {pairs additions : Named α}
    (distinct : pairs.names.Nodup)
    (apart : additions.names.Nodup) :
    Keyed.merge (pairs.toKeyed : Keyed R α) additions.toKeyed =
      (pairs.overlay additions).toKeyed := by
  induction additions generalizing pairs with
  | nil =>
      rw [overlay_nil]
      rfl
  | cons addition rest hypothesis =>
      obtain ⟨name, value⟩ := addition
      simp only [names, List.map_cons, List.nodup_cons] at apart
      rw [overlay_cons apart.1,
        ← hypothesis (nodup_put distinct name value) apart.2,
        ← insert_toKeyed distinct]
      rfl

end Named
end MelodyAutomation

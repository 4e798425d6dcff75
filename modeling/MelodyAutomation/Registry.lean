import MelodyAutomation.Session
import MelodyAutomation.Value.Equality

/-!
# Registries

A registry stores objects by name around a current object that is being worked
on: it is made, changed and saved, and a stored object can be cloned to become
current. What makes, changes or clones an object may return none, and then there
is no current object. Names are kept in the order in which they were first saved.
A request that is refused changes nothing.
-/

namespace MelodyAutomation

/-- How the objects of a registry are called in messages, and how they are
cloned, if they can be. A cloning method may return no object. -/
structure Cloning (R T : Type) where
  kindName : T → String
  clone? : T → Option (Logged R (Option T))

/-- Objects stored by name, and the one that is being worked on. -/
structure Registry (R T : Type) where
  name : String
  entries : Keyed R T
  current : Option T

namespace Registry

section

variable {R T : Type}

/-- A registry without objects. -/
def empty (name : String) : Registry R T := ⟨name, [], none⟩

/-- The names of the stored objects, in the order of their first saving. -/
def names (registry : Registry R T) : List (Value R) :=
  registry.entries.map Prod.fst

/-- Make what was returned the current object, if it is one; a refusal to return
anything keeps the old one. -/
def replace (returned : Logged R (Option T)) : Session (Registry R T) R Unit := do
  let object? ← returned
  modify fun registry => { registry with current := object? }

/-- Make an object the current one; a refusal to make it keeps the old one. -/
def make (made : Logged R T) : Session (Registry R T) R Unit :=
  replace (some <$> made)

/-- The current object, or a refusal. -/
def requireCurrent (missing : MissingEntry R) :
    Session (Registry R T) R T := do
  match (← get).current with
  | some object => pure object
  | none => throw (.missing missing)

/-- Replace the current object by what a changer returns for it. -/
def changeTo (changer : T → Logged R (Option T)) :
    Session (Registry R T) R Unit := do
  let object ← requireCurrent (.nothingToChange (← get).name)
  replace (changer object)

/-- Replace the current object by a changed one. -/
def change (changer : T → Logged R T) : Session (Registry R T) R Unit :=
  changeTo fun object => some <$> changer object

end

variable {R T : Type} [Scalar R]

omit [Scalar R] in
/-- Refuse a name that cannot be a key. -/
def requireKey (name : Value R) : Session (Registry R T) R Unit :=
  if name.isHashable then pure () else throw .illTyped

/-- Whether an object is stored under a name. -/
def contains (name : Value R) : Session (Registry R T) R Bool := do
  requireKey name
  pure ((← get).entries.lookup? name).isSome

/-- Store the current object under a name, without a report. -/
def store (name : Value R) : Session (Registry R T) R Unit := do
  let registry ← get
  let object ← requireCurrent (.nothingToSave registry.name name)
  requireKey name
  modify fun registry =>
    { registry with entries := registry.entries.insert name object }

/-- Store the current object under a name. -/
def save (name : Value R) : Session (Registry R T) R Unit := do
  store name
  Session.report (.saved (← get).name name)

/-- The object stored under a name, or a refusal. -/
def retrieve (name : Value R) : Session (Registry R T) R T := do
  requireKey name
  let registry ← get
  match registry.entries.lookup? name with
  | some object => pure object
  | none => throw (.missing (.notDefined registry.name name))

/-- Make a clone of a stored object the current one. -/
def clone (cloning : Cloning R T) (name : Value R) :
    Session (Registry R T) R Unit := do
  let stored ← retrieve name
  match cloning.clone? stored with
  | some cloned => replace cloned
  | none =>
      throw (.notClonable (← get).name name (cloning.kindName stored))

end Registry
end MelodyAutomation

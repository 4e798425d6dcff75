import MelodyAutomation.Document.Node

/-!
# Merging mappings

A mapping may take over the entries of other mappings. The entries that merge are
taken out of it, and the entries of their sources, themselves merged first, are
put in front of its own. Of several sources in a list the last one comes first.
The mark of a default value among the keys is an ordinary text.

A mapping may be merged into itself; since every merging entry is taken out before
its source is looked at, this comes to an end.
-/

namespace MelodyAutomation
namespace Document

/-- An entry of a mapping: the numbers of its key and its value. -/
abbrev NodeEntry := Nat × Nat

/-- A step that changes the nodes of a document. -/
abbrev Merging (α : Type) := StateT (Array Node) (Except Fault) α

namespace Merging

/-- The node of a number. -/
def nodeAt (number : Nat) : Merging Node := do
  pure ((← get)[number]?.getD default)

/-- The entries of a mapping. -/
def entriesAt (number : Nat) : Merging (List NodeEntry) := do
  match ← nodeAt number with
  | .mapping _ entries => pure entries
  | _ => pure []

/-- Give a mapping other entries. -/
def putEntries (number : Nat) (entries : List NodeEntry) : Merging Unit :=
  modify fun nodes =>
    nodes.modify number fun node => .mapping node.tag entries

/-- The source of the first entry that merges, and the other entries. -/
def takeMerge? (nodes : Array Node) :
    List NodeEntry → Option (Nat × List NodeEntry)
  | [] => none
  | entry :: rest =>
      if (nodes[entry.1]?.getD default).tag = .merge then some (entry.2, rest)
      else
        (takeMerge? nodes rest).map fun (source, others) =>
          (source, entry :: others)

/-- Turn the marks of a default value among some keys into texts. -/
def nameDefaults (entries : List NodeEntry) : Merging Unit :=
  modify fun nodes =>
    entries.foldl
      (fun changed entry =>
        changed.modify entry.1 fun key =>
          if key.tag = .value then key.withTag .text else key)
      nodes

mutual

/-- Carry out the merges of a mapping. -/
def merge : Nat → Nat → Merging Unit
  | 0, _ => pure ()
  | fuel + 1, number => do
      let sources ← takeSources fuel number
      let own ← entriesAt number
      nameDefaults own
      putEntries number (sources ++ own)

/-- Take the merging entries out of a mapping and return what they merge. -/
def takeSources : Nat → Nat → Merging (List NodeEntry)
  | 0, _ => pure []
  | fuel + 1, number => do
      match takeMerge? (← get) (← entriesAt number) with
      | none => pure []
      | some (source, others) => do
          putEntries number others
          let first ← entriesFrom fuel source
          let rest ← takeSources fuel number
          pure (first ++ rest)

/-- The entries that a node contributes when it is merged: those of a mapping, or
those of a list of mappings. -/
def entriesFrom : Nat → Nat → Merging (List NodeEntry)
  | 0, _ => pure []
  | fuel + 1, source => do
      match ← nodeAt source with
      | .mapping _ _ => do
          merge fuel source
          entriesAt source
      | .sequence _ items => do
          let lists ← items.mapM fun item => do
            match ← nodeAt item with
            | .mapping _ _ => do
                merge fuel item
                entriesAt item
            | _ => throw .nothingToMerge
          pure lists.reverse.flatten
      | .scalar _ _ => throw .nothingToMerge

end

/-- The number of entries of all mappings. -/
def countEntries (nodes : Array Node) : Nat :=
  nodes.foldl
    (fun total node =>
      match node with
      | .mapping _ entries => total + entries.length
      | _ => total)
    0

end Merging
end Document
end MelodyAutomation

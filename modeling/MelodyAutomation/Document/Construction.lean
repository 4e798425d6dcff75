import MelodyAutomation.Document.Merge
import MelodyAutomation.Document.Scalar
import MelodyAutomation.Value.Listing

/-!
# Constructing documents

The literal that the nodes of a document stand for. A scalar is read as soon as it
is met. A collection is put off: first all collections that were put off before
it are filled, in the order in which they were met. This order decides which of
several faults is found, and it makes it possible for a collection to contain
itself.

Filling a collection says what its items are, as numbers of nodes. When nothing is
left to be filled, the literal is read off these shapes.
-/

namespace MelodyAutomation
namespace Document

/-- A literal that can be a key. Of two keys that are no numbers it matters where
they come from. -/
structure Key (R : Type) where
  value : Value R
  /-- The node of the key, unless all nodes with its text give the same key. -/
  origin : Option Nat

/-- Whether two keys of a mapping are the same: they stand for the same thing, or
they are the same scalar that is no number. -/
def Key.same {R : Type} [Scalar R] (left right : Key R) : Bool :=
  left.value.same right.value ||
    (left.value.reading? == some .undefined &&
      right.value.reading? == some .undefined && left.origin == right.origin)

/-- What is stored under the keys of a mapping, as numbers of nodes. -/
abbrev Stored (R : Type) := List (Key R × Nat)

/-- Store a number under a key. A key that is there keeps its place. -/
def Stored.insert {R : Type} [Scalar R] (key : Key R) (number : Nat) :
    Stored R → Stored R
  | [] => [(key, number)]
  | (own, old) :: rest =>
      if key.same own then (own, number) :: rest
      else (own, old) :: Stored.insert key number rest

/-- What a node was found to be. -/
inductive Shape (R : Type)
  | scalar (key : Key R)
  | list (items : List Nat)
  | pairs (entries : List NodeEntry)
  | set (members : List (Value R))
  | map (entries : Stored R)

namespace Shape

variable {R : Type}

/-- The numbers of the nodes inside a shape. -/
def children : Shape R → List Nat
  | scalar _ => []
  | list items => items
  | pairs entries => entries.flatMap fun entry => [entry.1, entry.2]
  | set _ => []
  | map entries => entries.map Prod.snd

end Shape

/-- The nodes of a document, and the shapes of those that were met. -/
structure Progress (R : Type) where
  nodes : Array Node
  shapes : Array (Option (Shape R))
  /-- A bound for the number of steps that merging takes. -/
  fuel : Nat

/-- A step of constructing a document. -/
abbrev Constructing (R α : Type) := StateT (Progress R) (Except (Failure R)) α

namespace Constructing

section

variable {R : Type}

/-- Fail by the fault of a document. -/
def fail {α : Type} (fault : Fault) : Constructing R α := throw fault.failure

/-- The node of a number. -/
def nodeAt (number : Nat) : Constructing R Node := do
  pure ((← get).nodes[number]?.getD default)

/-- The shape of a node that was met. -/
def shapeAt (number : Nat) : Constructing R (Option (Shape R)) := do
  pure ((← get).shapes[number]?.join)

/-- Say what a node is. -/
def put (number : Nat) (shape : Shape R) : Constructing R Unit :=
  modify fun progress =>
    { progress with
      shapes := progress.shapes.setIfInBounds number (some shape) }

/-- Say what a collection is, and put its filling off. -/
def putOff (number : Nat) (shape : Shape R) : Constructing R (List Nat) := do
  put number shape
  pure [number]

/-- The text of a scalar; a mapping has the text of its default value. -/
def textAt : Nat → Nat → Constructing R String
  | 0, _ => fail .endlessDefault
  | fuel + 1, number => do
      match ← nodeAt number with
      | .scalar _ content => pure content
      | .sequence _ _ => fail .wrongKindOfNode
      | .mapping _ entries => do
          let nodes := (← get).nodes
          match entries.find? fun entry =>
              (nodes[entry.1]?.getD default).tag = .value with
          | some entry => textAt fuel entry.2
          | none => fail .wrongKindOfNode

/-- Carry out the merges of a mapping. -/
def carryOutMerges (number : Nat) : Constructing R Unit := do
  let fuel := (← get).fuel
  let nodes ← modifyGet fun progress =>
    (progress.nodes, { progress with nodes := #[] })
  match (Merging.merge fuel number).run nodes with
  | .error fault => fail fault
  | .ok ((), nodes) => modify fun progress => { progress with nodes }

/-- The entries of a mapping after its merges. -/
def mergedEntries (number : Nat) : Constructing R (List NodeEntry) := do
  carryOutMerges number
  match ← nodeAt number with
  | .mapping _ entries => pure entries
  | _ => fail .wrongKindOfNode

end

variable {R : Type} [Scalar R]

/-- Read a scalar of a node whose tag a text can have. -/
def readScalar (number : Nat) (node : Node) : Constructing R (List Nat) := do
  let content ← textAt ((← get).nodes.size + 1) number
  match node.tag, node with
  | .date, .mapping _ _ => fail .collectionAsDate
  | tag, _ => do
      let value ← (contentValue tag content : Attempt R (Value R))
      let shared := tag = .float && isUndefinedMark content
      put number (.scalar ⟨value, if shared then none else some number⟩)
      pure []

/-- Meet a node: read it, or put it off. The result are the numbers of the nodes
that were put off. -/
def meet (number : Nat) : Constructing R (List Nat) := do
  match ← shapeAt number with
  | some _ => pure []
  | none => do
      let node ← nodeAt number
      match node.tag with
      | .sequence => putOff number (.list [])
      | .orderedMap => putOff number (.pairs [])
      | .pairs => putOff number (.pairs [])
      | .set => putOff number (.set [])
      | .mapping => putOff number (.map [])
      | .merge => fail .unknownTag
      | .value => fail .unknownTag
      | .unknown => fail .unknownTag
      | _ => readScalar number node

/-- Meet all nodes of a list. -/
def meetAll (numbers : List Nat) : Constructing R (List Nat) := do
  let pending ← numbers.mapM meet
  pure pending.flatten

/-- Meet the entries of a mapping from left to right. A collection cannot be a
key. -/
def meetEntries : List NodeEntry → Stored R →
    Constructing R (Stored R × List Nat)
  | [], stored => pure (stored, [])
  | (key, value) :: rest, stored => do
      let _ ← meet key
      match ← shapeAt key with
      | some (.scalar name) => do
          let pending ← meet value
          let (all, others) ← meetEntries rest (stored.insert name value)
          pure (all, pending ++ others)
      | _ => fail .collectionAsKey

/-- The only entry of a node that must be a mapping of one entry. -/
def onlyEntry (number : Nat) : Constructing R NodeEntry := do
  match ← nodeAt number with
  | .mapping _ [entry] => pure entry
  | _ => fail .wrongKindOfNode

/-- Meet the pairs of a sequence of mappings of one entry. -/
def meetPairs : List Nat → Constructing R (List NodeEntry × List Nat)
  | [] => pure ([], [])
  | number :: rest => do
      let (key, value) ← onlyEntry number
      let pending ← meetAll [key, value]
      let (entries, others) ← meetPairs rest
      pure ((key, value) :: entries, pending ++ others)

/-- Fill a collection that was put off. -/
def fill (number : Nat) : Constructing R (List Nat) := do
  match ← nodeAt number with
  | .scalar _ _ => fail .wrongKindOfNode
  | .sequence tag items => do
      match tag with
      | .sequence => do
          let pending ← meetAll items
          put number (.list items)
          pure pending
      | .orderedMap | .pairs => do
          let (entries, pending) ← meetPairs items
          put number (.pairs entries)
          pure pending
      | _ => fail .wrongKindOfNode
  | .mapping tag _ => do
      match tag with
      | .mapping => do
          let (stored, pending) ← meetEntries (← mergedEntries number) []
          put number (.map stored)
          pure pending
      | .set => do
          let (stored, pending) ← meetEntries (← mergedEntries number) []
          put number (.set (Value.listed (stored.map fun entry => entry.1.value)))
          pure pending
      | _ => fail .wrongKindOfNode

/-- Fill collections round by round; what a round puts off is the next round. -/
def fillAll : Nat → List Nat → Constructing R Unit
  | 0, _ => pure ()
  | _ + 1, [] => pure ()
  | fuel + 1, pending => do
      let next ← pending.mapM fill
      fillAll fuel next.flatten

/-- Construct everything that a root contains. -/
def all (root : Nat) : Constructing R Unit := do
  let pending ← meet root
  fillAll ((← get).nodes.size + 1) pending

end Constructing

/-! ## Reading the literal off -/

section

variable {R : Type}

/-- The numbers of the nodes inside a node. -/
def childrenAt (shapes : Array (Option (Shape R))) (number : Nat) : List Nat :=
  ((shapes[number]?.join).map Shape.children).getD []

/-- The numbers that can be reached from some numbers, as flags. -/
def reach (shapes : Array (Option (Shape R))) :
    Nat → List Nat → Array Bool → Array Bool
  | 0, _, reached => reached
  | _ + 1, [], reached => reached
  | fuel + 1, number :: rest, reached =>
      if reached[number]?.getD true then reach shapes fuel rest reached
      else
        reach shapes fuel (childrenAt shapes number ++ rest)
          (reached.setIfInBounds number true)

/-- The number of edges between nodes. -/
def countEdges (shapes : Array (Option (Shape R))) : Nat :=
  (List.range shapes.size).foldl
    (fun total number => total + (childrenAt shapes number).length) 0

/-- Whether a walk through the nodes comes upon a node that it is still inside. The
walk is given by the numbers of the nodes to enter and to leave again, and by what
is known of every node: whether it was left. -/
def meetsItself (shapes : Array (Option (Shape R))) :
    Nat → List (Nat × Bool) → Array (Option Bool) → Bool
  | 0, _, _ => false
  | _ + 1, [], _ => false
  | fuel + 1, (number, true) :: rest, known =>
      meetsItself shapes fuel rest (known.setIfInBounds number (some true))
  | fuel + 1, (number, false) :: rest, known =>
      match known[number]?.join with
      | some true => meetsItself shapes fuel rest known
      | some false => true
      | none =>
          let inside := (childrenAt shapes number).map fun child => (child, false)
          meetsItself shapes fuel (inside ++ (number, true) :: rest)
            (known.setIfInBounds number (some false))

/-- Whether any node contains itself. -/
def hasCycle (shapes : Array (Option (Shape R))) : Bool :=
  let fuel := countEdges shapes + 2 * shapes.size + 1
  meetsItself shapes fuel
    ((List.range shapes.size).map fun number => (number, false))
    (Array.replicate shapes.size none)

/-- The numbers of the nodes that contain themselves. -/
def cycles (shapes : Array (Option (Shape R))) : List Nat :=
  if hasCycle shapes then
    let fuel := countEdges shapes + shapes.size + 1
    (List.range shapes.size).filter fun number =>
      (reach shapes fuel (childrenAt shapes number)
        (Array.replicate shapes.size false))[number]?.getD false
  else []

/-- A step of building literals, with those that were built so far. A literal is
built once, however often its node is used. -/
abbrev Building (R α : Type) := StateM (Array (Option (Value R))) α

/-- What building starts from when nothing is built yet. -/
def unbuilt (shapes : Array (Option (Shape R))) : Array (Option (Value R)) :=
  Array.replicate shapes.size none

mutual

/-- The literal of a node. A collection on a cycle is not built before it is looked
into; then it is unrolled once. -/
def valueAt (shapes : Array (Option (Shape R))) (circular : List Nat) :
    Nat → Nat → Building R (Value R)
  | 0, _ => pure .null
  | fuel + 1, number => do
      if circular.contains number then
        pure (.circular number fun _ =>
          (StateT.run (contentAt shapes circular fuel number)
            (unbuilt shapes)).1)
      else
        match (← get)[number]?.join with
        | some value => pure value
        | none => do
            let value ← contentAt shapes circular fuel number
            modify fun built => built.setIfInBounds number (some value)
            pure value

/-- The literal of a node, built from those of the nodes inside it. -/
def contentAt (shapes : Array (Option (Shape R))) (circular : List Nat) :
    Nat → Nat → Building R (Value R)
  | 0, _ => pure .null
  | fuel + 1, number => do
      let inner (child : Nat) : Building R (Value R) :=
        valueAt shapes circular fuel child
      match shapes[number]?.join with
      | none => pure .null
      | some (.scalar key) => pure key.value
      | some (.list items) => return .list (← items.mapM inner)
      | some (.pairs entries) =>
          let pairs ← entries.mapM fun entry => do
            let key ← inner entry.1
            let value ← inner entry.2
            pure (Value.tuple [key, value])
          pure (.list pairs)
      | some (.set members) => pure (.set members)
      | some (.map entries) =>
          let filled ← entries.mapM fun entry => do
            let value ← inner entry.2
            pure (entry.1.value, value)
          pure (.map filled)

end

/-- How often a collection that contains itself can be unrolled. -/
def unrollings : Nat := 100

variable [Scalar R]

/-- The literal that the nodes of a document stand for. -/
def construct (nodes : Array Node) (root : Nat) : Attempt R (Value R) := do
  let start : Progress R :=
    { nodes
      shapes := Array.replicate nodes.size none
      fuel := 4 * (Merging.countEntries nodes + 2) }
  let ((), final) ← (Constructing.all root).run start
  let fuel := 2 * unrollings * (nodes.size + 1)
  let (value, _) := StateT.run
    (valueAt final.shapes (cycles final.shapes) fuel root)
    (unbuilt final.shapes)
  .ok value

end

end Document
end MelodyAutomation

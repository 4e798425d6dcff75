import MelodyAutomation.Document.Token
import MelodyAutomation.Document.Tag

/-!
# Nodes

The nodes of a document: scalars, sequences and mappings with their tags. Nodes
are numbered in the order in which they begin, and refer to each other by their
numbers, so that a node that carries an anchor can be used again under its name,
even inside itself. A tag may be shortened by a handle that a directive declares.
A text holds at most one document.
-/

namespace MelodyAutomation
namespace Document

/-- A node of a document; the nodes inside it are given by their numbers. -/
inductive Node
  | scalar (tag : Tag) (content : String)
  | sequence (tag : Tag) (items : List Nat)
  | mapping (tag : Tag) (entries : List (Nat × Nat))
  deriving Repr

namespace Node

instance : Inhabited Node := ⟨.scalar .null ""⟩

/-- The tag of a node. -/
def tag : Node → Tag
  | scalar tag _ => tag
  | sequence tag _ => tag
  | mapping tag _ => tag

/-- A node with another tag. -/
def withTag (tag : Tag) : Node → Node
  | scalar _ content => scalar tag content
  | sequence _ items => sequence tag items
  | mapping _ entries => mapping tag entries

@[simp] theorem tag_withTag (tag : Tag) (node : Node) :
    (node.withTag tag).tag = tag := by
  cases node <;> rfl

end Node

/-- The state of a reader of nodes. -/
structure Reader where
  tokens : List Token
  /-- The fault that is met when the tokens run out, if there is one. -/
  fault : Option Fault
  /-- The numbers of the nodes that carry an anchor. -/
  anchors : List (String × Nat)
  /-- What the handles of tags stand for. -/
  handles : List (String × String)
  nodes : Array Node
  /-- The number of collections that have begun and not ended. -/
  depth : Nat
  /-- The number of collections that may contain each other. -/
  depthLimit : Nat

/-- A step of a reader. -/
abbrev Reading (α : Type) := StateT Reader (Except Fault) α

namespace Reader

/-- What the handles that need no directive stand for. -/
def standardHandles : List (String × String) :=
  [("!", "!"), ("!!", Tag.standardNames)]

/-- A reader of tokens. -/
def start (depthLimit : Nat) (tokens : List Token) (fault : Option Fault) : Reader :=
  ⟨tokens, fault, [], standardHandles, #[], 0, depthLimit⟩

/-- The next token, or nothing at the end of the text. -/
def peek : Reading (Option Token) := do
  let reader ← get
  match reader.tokens, reader.fault with
  | [], some fault => throw fault
  | tokens, _ => pure tokens.head?

/-- Pass the next token. -/
def pass : Reading Unit :=
  modify fun reader => { reader with tokens := reader.tokens.tail }

/-- Whether the next token is one of some. -/
def nextIn (tokens : List Token) : Reading Bool := do
  match ← peek with
  | some token => pure (tokens.contains token)
  | none => pure false

/-- Add a node and give it the next number. -/
def add (node : Node) : Reading Nat :=
  modifyGet fun reader =>
    (reader.nodes.size, { reader with nodes := reader.nodes.push node })

/-- Add a node under its anchor. -/
def enter (anchor : Option String) (node : Node) : Reading Nat := do
  match anchor with
  | none => add node
  | some name =>
      if ((← get).anchors.lookup name).isSome then throw .repeatedAnchor
      let number ← add node
      modify fun reader =>
        { reader with anchors := (name, number) :: reader.anchors }
      pure number

/-- Replace a node. -/
def put (number : Nat) (node : Node) : Reading Unit :=
  modify fun reader =>
    { reader with nodes := reader.nodes.setIfInBounds number node }

/-- The node of an anchor. -/
def anchored (name : String) : Reading Nat := do
  match (← get).anchors.lookup name with
  | some number => pure number
  | none => throw .undefinedAlias

/-- An anchor in front of a node. -/
def takeAnchor : Reading (Option String) := do
  match ← peek with
  | some (.anchor name) =>
      pass
      pure (some name)
  | _ => pure none

/-- The handle and the rest of the tag in front of a node. -/
def takeTag : Reading (Option (Option String × String)) := do
  match ← peek with
  | some (.tag handle suffix) =>
      pass
      pure (some (handle, suffix))
  | _ => pure none

/-- The full name of a tag. -/
def fullName : Option (Option String × String) → Reading (Option String)
  | none => pure none
  | some (none, suffix) => pure (some suffix)
  | some (some handle, suffix) => do
      match (← get).handles.lookup handle with
      | some text => pure (some (text ++ suffix))
      | none => throw .undefinedTagHandle

/-- The anchor and the tag in front of a node, in either order. -/
def takeProperties : Reading (Option String × Option String) := do
  match ← takeAnchor with
  | some anchor => do
      let tag ← takeTag
      pure (some anchor, ← fullName tag)
  | none => do
      let tag ← takeTag
      let anchor ← if tag.isSome then takeAnchor else pure none
      pure (anchor, ← fullName tag)

/-- The tag of a scalar. -/
def scalarTag (tag : Option String) (plain : Bool) (content : String) : Tag :=
  match tag with
  | none => if plain then plainTag content else .text
  | some name => if name = "!" then plainTag content else Tag.ofName name

/-- The tag of a collection. -/
def collectionTag (tag : Option String) (default : Tag) : Tag :=
  match tag with
  | none => default
  | some name => if name = "!" then default else Tag.ofName name

/-- A node that is not written at all. -/
def empty : Reading Nat := add (.scalar .null "")

/-- Where nodes may stand: a block collection can begin only outside brackets,
and a sequence without indentation only as the value of a mapping. -/
inductive Place
  | block
  | mappingValue
  | flow
  deriving DecidableEq

/-- What is written in front of a node. -/
structure Properties where
  anchor : Option String
  tag : Option String

/-- A node without a text, which must have properties. -/
def missing (properties : Properties) : Reading Nat :=
  let ⟨anchor, tag⟩ := properties
  if anchor.isSome || tag.isSome then
    enter anchor (.scalar (scalarTag tag tag.isNone "") "")
  else throw .unexpectedToken

/-- A scalar with its text. -/
def scalar (properties : Properties) (text : String) (plain : Bool) :
    Reading Nat :=
  enter properties.anchor (.scalar (scalarTag properties.tag plain text) text)

/-- Read what is inside a collection. -/
def inside {α : Type} (read : Reading α) : Reading α := do
  modify fun reader => { reader with depth := reader.depth + 1 }
  let reader ← get
  if reader.depthLimit < reader.depth then throw .tooDeep
  let content ← read
  modify fun reader => { reader with depth := reader.depth - 1 }
  pure content

/-- A sequence whose items are read after it has its number. -/
def sequence (properties : Properties) (read : Reading (List Nat)) :
    Reading Nat := do
  let tag := collectionTag properties.tag .sequence
  let number ← enter properties.anchor (.sequence tag [])
  let items ← inside read
  put number (.sequence tag items)
  pure number

/-- A mapping whose entries are read after it has its number. -/
def mapping (properties : Properties) (read : Reading (List (Nat × Nat))) :
    Reading Nat := do
  let tag := collectionTag properties.tag .mapping
  let number ← enter properties.anchor (.mapping tag [])
  let entries ← inside read
  put number (.mapping tag entries)
  pure number

mutual

/-- Read one node. -/
def node (place : Place) : Nat → Reading Nat
  | 0 => throw .unexpectedToken
  | fuel + 1 => do
      match ← peek with
      | some (.reference name) =>
          pass
          anchored name
      | _ => do
          let (anchor, tag) ← takeProperties
          content place ⟨anchor, tag⟩ fuel

/-- Read what follows the properties of a node. -/
def content (place : Place) (properties : Properties) : Nat → Reading Nat
  | 0 => throw .unexpectedToken
  | fuel + 1 => do
      match ← peek with
      | some .blockEntry =>
          if place = .mappingValue then sequence properties (looseItems fuel)
          else missing properties
      | some (.scalar text plain) =>
          pass
          scalar properties text plain
      | some .flowSequenceStart =>
          pass
          sequence properties (flowItems true fuel)
      | some .flowMappingStart =>
          pass
          mapping properties (flowEntries true fuel)
      | some .blockSequenceStart =>
          if place = .flow then missing properties
          else
            pass
            sequence properties (blockItems fuel)
      | some .blockMappingStart =>
          if place = .flow then missing properties
          else
            pass
            mapping properties (blockEntries fuel)
      | _ => missing properties

/-- Read a node, or nothing before one of some tokens. -/
def nodeUnless (place : Place) (stops : List Token) : Nat → Reading Nat
  | 0 => throw .unexpectedToken
  | fuel + 1 => do
      if ← nextIn stops then empty else node place fuel

/-- Read the items of a block sequence. -/
def blockItems : Nat → Reading (List Nat)
  | 0 => throw .unexpectedToken
  | fuel + 1 => do
      match ← peek with
      | some .blockEntry =>
          pass
          let item ← nodeUnless .block [.blockEntry, .blockEnd] fuel
          let rest ← blockItems fuel
          pure (item :: rest)
      | some .blockEnd =>
          pass
          pure []
      | _ => throw .unexpectedToken

/-- Read the items of a sequence that is not indented. -/
def looseItems : Nat → Reading (List Nat)
  | 0 => throw .unexpectedToken
  | fuel + 1 => do
      match ← peek with
      | some .blockEntry =>
          pass
          let item ← nodeUnless .block [.blockEntry, .key, .value, .blockEnd]
            fuel
          let rest ← looseItems fuel
          pure (item :: rest)
      | _ => pure []

/-- Read the entries of a block mapping. -/
def blockEntries : Nat → Reading (List (Nat × Nat))
  | 0 => throw .unexpectedToken
  | fuel + 1 => do
      match ← peek with
      | some .key =>
          pass
          let key ← nodeUnless .mappingValue [.key, .value, .blockEnd] fuel
          let value ← blockValue fuel
          let rest ← blockEntries fuel
          pure ((key, value) :: rest)
      | some .blockEnd =>
          pass
          pure []
      | _ => throw .unexpectedToken

/-- Read the value of an entry of a block mapping. -/
def blockValue : Nat → Reading Nat
  | 0 => throw .unexpectedToken
  | fuel + 1 => do
      match ← peek with
      | some .value =>
          pass
          nodeUnless .mappingValue [.key, .value, .blockEnd] fuel
      | _ => empty

/-- Read the items of a flow sequence. A key makes a mapping of one entry. -/
def flowItems (isFirst : Bool) : Nat → Reading (List Nat)
  | 0 => throw .unexpectedToken
  | fuel + 1 => do
      if ← nextIn [.flowSequenceEnd] then
        pass
        pure []
      else
        if !isFirst then
          if ← nextIn [.flowEntry] then pass else throw .unexpectedToken
        if ← nextIn [.flowSequenceEnd] then
          pass
          pure []
        else
          let item ←
            if ← nextIn [.key] then do
              pass
              mapping ⟨none, none⟩ do
                let key ← nodeUnless .flow
                  [.value, .flowEntry, .flowSequenceEnd] fuel
                let value ← flowValue .flowSequenceEnd fuel
                pure [(key, value)]
            else node .flow fuel
          let rest ← flowItems false fuel
          pure (item :: rest)

/-- Read the value after a key between brackets. -/
def flowValue (closing : Token) : Nat → Reading Nat
  | 0 => throw .unexpectedToken
  | fuel + 1 => do
      if ← nextIn [.value] then
        pass
        nodeUnless .flow [.flowEntry, closing] fuel
      else empty

/-- Read the entries of a flow mapping. A node without a key mark is a key
without a value. -/
def flowEntries (isFirst : Bool) : Nat → Reading (List (Nat × Nat))
  | 0 => throw .unexpectedToken
  | fuel + 1 => do
      if ← nextIn [.flowMappingEnd] then
        pass
        pure []
      else
        if !isFirst then
          if ← nextIn [.flowEntry] then pass else throw .unexpectedToken
        if ← nextIn [.flowMappingEnd] then
          pass
          pure []
        else
          let entry ←
            if ← nextIn [.key] then do
              pass
              let key ← nodeUnless .flow [.value, .flowEntry, .flowMappingEnd]
                fuel
              let value ← flowValue .flowMappingEnd fuel
              pure (key, value)
            else do
              let key ← node .flow fuel
              let value ← empty
              pure (key, value)
          let rest ← flowEntries false fuel
          pure (entry :: rest)

end

/-- Read the directives in front of a document; the flags say whether a version
was given, and the handles are the declared ones. -/
def directives : Nat → Bool → List (String × String) →
    Reading (List (String × String))
  | 0, _, handles => pure handles
  | fuel + 1, versioned, handles => do
      match ← peek with
      | some (.directive directive) =>
          pass
          match directive with
          | .version major =>
              if versioned then throw .repeatedDirective
              if major ≠ 1 then throw .unsupportedVersion
              directives fuel true handles
          | .tagHandle handle text =>
              if (handles.lookup handle).isSome then throw .repeatedDirective
              directives fuel versioned ((handle, text) :: handles)
          | .other => directives fuel versioned handles
      | _ => pure handles

/-- Whether the next token is a directive. -/
def atDirective : Reading Bool := do
  match ← peek with
  | some (.directive _) => pure true
  | _ => pure false

/-- Whether no token is left. -/
def atEnd : Reading Bool := do
  pure (← peek).isNone

/-- Pass the ends of documents. -/
def passEnds : Nat → Reading Unit
  | 0 => pure ()
  | fuel + 1 => do
      if ← nextIn [.documentEnd] then
        pass
        passEnds fuel

/-- Read a document that begins with its separator, after its directives. -/
def explicitDocument (fuel : Nat) : Reading Nat := do
  let handles ← directives fuel false []
  modify fun reader =>
    { reader with handles := handles ++ standardHandles }
  if ← nextIn [.documentStart] then pass else throw .unexpectedToken
  if (← nextIn [.documentStart, .documentEnd]) || (← atDirective) ||
      (← atEnd) then
    empty
  else node .block fuel

/-- Refuse whatever comes after the first document. -/
def refuseMore {α : Type} (fuel : Nat) : Reading α := do
  let _ ← directives fuel false []
  let _ ← peek
  throw .severalDocuments

/-- Read the only document, if there is one. -/
def document (fuel : Nat) : Reading (Option Nat) := do
  if ← atEnd then pure none
  else
    let root ←
      if (← nextIn [.documentStart]) || (← atDirective) then
        explicitDocument fuel
      else node .block fuel
    if !(← atEnd) && !(← nextIn [.documentEnd, .documentStart]) &&
        !(← atDirective) then
      throw .unexpectedToken
    passEnds fuel
    if ← atEnd then pure (some root) else refuseMore fuel

end Reader

/-- The nodes of a text, and the number of the one at its root, if the text has a
document. No more than a number of collections may contain each other. -/
def nodes (depthLimit : Nat) (characters : List Char) :
    Except Fault (Array Node × Option Nat) := do
  let (listed, fault) := tokens characters
  let (root, final) ← (Reader.document (3 * listed.length + 8)).run
    (Reader.start depthLimit listed fault)
  .ok (final.nodes, root)

end Document
end MelodyAutomation

import MelodyAutomation.Waveform

/-!
# Primitives

The sound-generating nodes an engine keeps: oscillators, noise sources and
filters, numbered in the order of their creation, and one destination that all
sound ends in. A `Primitive` is what an instrument holds of a node: whether it is
active, and which of its parameters can be written. Instruments drive their
nodes by commands.
-/

namespace MelodyAutomation

/-- The kinds of node that can be created. -/
inductive PrimitiveKind
  | oscillator
  | noise
  | filter
  deriving DecidableEq, Repr

/-- The name of a kind of node. -/
def PrimitiveKind.name : PrimitiveKind → String
  | oscillator => "oscillator"
  | noise => "noise"
  | filter => "filter"

/-- A node of an engine. Nodes are numbered from zero across all kinds. -/
inductive Node
  | destination
  | created (kind : PrimitiveKind) (number : Nat)
  deriving DecidableEq, Repr

/-- The name of a node. -/
def Node.name : Node → String
  | destination => "destination"
  | created kind number => kind.name ++ "-" ++ toString number

/-- A parameter of a node that can be written. -/
inductive Parameter
  | frequency
  | gain
  deriving DecidableEq, Repr

/-- The name of a parameter. -/
def Parameter.name : Parameter → String
  | frequency => "frequency"
  | gain => "gain"

/-- A parameter of a particular node. -/
structure Socket where
  node : Node
  parameter : Parameter
  deriving DecidableEq, Repr

namespace Socket

/-- The name of a socket. -/
def name (socket : Socket) : String :=
  socket.node.name ++ "." ++ socket.parameter.name

/-- The written form of a socket. -/
def written (socket : Socket) : String :=
  "RecordingSocket(" ++ Text.quoted socket.name ++ ")"

end Socket

/-- What a node can be connected to. -/
inductive Inlet
  | node (node : Node)
  | socket (socket : Socket)
  deriving DecidableEq, Repr

/-- The name of what a node is connected to. -/
def Inlet.name : Inlet → String
  | node target => target.name
  | socket target => target.name

/-- A node as an instrument knows it. -/
structure Primitive where
  node : Node
  active : Bool
  hasFrequency : Bool
  hasGain : Bool
  deriving DecidableEq, Repr

namespace Primitive

/-- The destination of all sound. -/
def destination : Primitive := ⟨.destination, true, false, false⟩

/-- Whether a primitive has a parameter. -/
def has (primitive : Primitive) : Parameter → Bool
  | .frequency => primitive.hasFrequency
  | .gain => primitive.hasGain

/-- The socket of a parameter, if an active primitive has it. -/
def socket? (primitive : Primitive) (parameter : Parameter) : Option Socket :=
  if primitive.active && primitive.has parameter then
    some ⟨primitive.node, parameter⟩
  else none

end Primitive

/-- What a node is created from. Noise sources and filters without a type are
inactive. -/
inductive Blueprint (R : Type)
  | oscillator (waveform : Waveform R) (frequency gain : Value R)
  | noise (type gain : Value R)
  | filter (type frequency gain : Value R)

namespace Blueprint

variable {R : Type}

/-- The kind of node that a blueprint describes. -/
def kind : Blueprint R → PrimitiveKind
  | oscillator _ _ _ => .oscillator
  | noise _ _ => .noise
  | filter _ _ _ => .filter

/-- Whether the node will be active. -/
def isActive : Blueprint R → Bool
  | oscillator _ _ _ => true
  | noise type _ => !type.isNull
  | filter type _ _ => !type.isNull

/-- The initial value of a parameter, if the kind of node has it. -/
def initial? : Blueprint R → Parameter → Option (Value R)
  | oscillator _ frequency _, .frequency => some frequency
  | oscillator _ _ gain, .gain => some gain
  | noise _ _, .frequency => none
  | noise _ gain, .gain => some gain
  | filter _ frequency _, .frequency => some frequency
  | filter _ _ gain, .gain => some gain

/-- The setting that tells nodes of one kind apart, with its name. -/
def setting : Blueprint R → String × Value R
  | oscillator waveform _ _ => ("waveform", .text waveform.name)
  | noise type _ => ("kind", type)
  | filter type _ _ => ("kind", type)

end Blueprint

/-- What an instrument tells an engine to do with the nodes it has created. Times
are in milliseconds on the engine's clock. -/
inductive Command (R : Type)
  | start (node : Node)
  | stop (node : Node) (time : Option (Value R))
  | connect (node : Node) (inlet : Inlet)
  | set (socket : Socket) (value time : Value R)
  | ramp (socket : Socket) (value time : Value R)

end MelodyAutomation

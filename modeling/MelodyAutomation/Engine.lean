import MelodyAutomation.Engine.Link
import MelodyAutomation.Engine.Tape

/-!
# Engines

What turns the commands of instruments into sound, or into a record of it. An
engine is a tape in memory or a link to the other end of a network; both create
the same nodes in the same order and take the same commands.
-/

namespace MelodyAutomation

/-- An engine. -/
inductive Engine (R : Type)
  | tape (tape : Tape R)
  | link (link : Link R)

namespace Engine

variable {R : Type}

/-- The name of a node on an engine: its address on a link. -/
def nodeName (engine : Engine R) (node : Node) : String :=
  match engine with
  | tape _ => node.name
  | link own => node.address own.base

/-- The name of a socket on an engine: its address on a link. -/
def socketName (engine : Engine R) (socket : Socket) : String :=
  match engine with
  | tape _ => socket.name
  | link own => socket.address own.base

/-- Run an operation of a link on an engine that is one. -/
def onLink (operation : Session (Link R) R Unit) : Session (Engine R) R Unit :=
  ⟨fun engine =>
    match engine with
    | tape own => (.refuse .notUnderstood, tape own)
    | link own =>
        let (logged, final) := operation.run own
        (logged, link final)⟩

/-- Send a message of one's own; only a link can. -/
def send (address : String) (arguments : List (Value R)) :
    Session (Engine R) R Unit :=
  onLink (Link.send address arguments)

/-- Release an engine. -/
def close : Session (Engine R) R Unit :=
  ⟨fun engine =>
    match engine with
    | tape own => (.succeed (), tape { own with closed := true })
    | link own =>
        let (logged, final) := Link.close.run own
        (logged, link final)⟩

variable [Scalar R]

/-- Create a node. -/
def create (blueprint : Blueprint R) : Session (Engine R) R Primitive :=
  ⟨fun engine =>
    match engine with
    | tape own =>
        let (primitive, final) := own.create blueprint
        (.succeed primitive, tape final)
    | link own =>
        let (logged, final) := (Link.create blueprint).run own
        (logged, link final)⟩

/-- Carry out a command. -/
def perform (command : Command R) : Session (Engine R) R Unit :=
  ⟨fun engine =>
    match engine with
    | tape own => (.succeed (), tape (own.perform command))
    | link own =>
        let (logged, final) := (Link.perform command).run own
        (logged, link final)⟩

/-- The lines that sum up an engine's work; only a tape has any. -/
def summary : Engine R → Attempt R (List String)
  | tape own => own.summary
  | link _ => .error .notUnderstood

end Engine
end MelodyAutomation

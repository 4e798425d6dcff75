import MelodyAutomation.Primitive
import MelodyAutomation.Session
import MelodyAutomation.Value.Arithmetic

/-!
# Links

A link is an engine at the other end of a network: every creation and every
command becomes a message to the address of a node. Values are sent as scalars
and times in seconds. A message that cannot be delivered is reported and
otherwise ignored; which messages those are is decided by the link's outages.
Inactive nodes take a number but are never mentioned.
-/

namespace MelodyAutomation

/-- A message that was sent, and whether it was delivered. -/
structure Transmission (R : Type) where
  address : String
  arguments : List (Value R)
  delivered : Bool

/-- Why the next message is not delivered, if it is not, by everything sent
before it, the latest first. -/
abbrev Outage (R : Type) := List (Transmission R) → Option String

/-- The state of a link. -/
structure Link (R : Type) where
  /-- What every address starts with. -/
  base : String
  /-- How many numbers have been given to nodes. -/
  issued : Nat
  /-- Everything sent so far, the latest first. -/
  latest : List (Transmission R)
  outage : Outage R

/-- The address of a node. Numbers in addresses start from one. -/
def Node.address (base : String) : Node → String
  | destination => base ++ "/destination"
  | created kind number =>
      base ++ "/" ++ kind.name ++ "/" ++ toString (number + 1)

/-- The address of a socket. -/
def Socket.address (base : String) (socket : Socket) : String :=
  socket.node.address base ++ "/" ++ socket.parameter.name

/-- The address of what a node is connected to. -/
def Inlet.address (base : String) : Inlet → String
  | node target => target.address base
  | socket target => target.address base

namespace Link

variable {R : Type}

/-- A link over which nothing was sent. -/
def idle (base : String) (outage : Outage R) : Link R :=
  ⟨base, 0, [], outage⟩

/-- Everything sent so far, in order. -/
def transmissions (link : Link R) : List (Transmission R) :=
  link.latest.reverse

@[simp] theorem transmissions_idle (base : String) (outage : Outage R) :
    (idle base outage).transmissions = [] := rfl

/-- Send a message; a failure is reported and has no other effect. -/
def send (address : String) (arguments : List (Value R)) :
    Session (Link R) R Unit :=
  ⟨fun link =>
    let failure := link.outage link.latest
    let sent : Transmission R := ⟨address, arguments, failure.isNone⟩
    (⟨.ok (), (failure.map Notice.sendFailed).toList⟩,
      { link with latest := sent :: link.latest })⟩

/-- A message is added to the end of what was sent. -/
theorem transmissions_send
    (address : String)
    (arguments : List (Value R))
    (link : Link R) :
    ((send address arguments).run link).2.transmissions =
      link.transmissions ++
        [⟨address, arguments, (link.outage link.latest).isNone⟩] := by
  simp [send, transmissions]

/-- Take the next number for a node. -/
def takeNumber : Session (Link R) R Nat :=
  modifyGet fun link => (link.issued, { link with issued := link.issued + 1 })

/-- Announce a new session to the other end. -/
def start (host : Option String) (portNumber : Option Int) :
    Session (Link R) R Unit := do
  let base := (← get).base
  send (base ++ "/reset") []
  Session.report (.linkOpened host portNumber base)

/-- End the session. -/
def close : Session (Link R) R Unit := do
  send ((← get).base ++ "/close") []
  Session.report .linkClosed

variable [Scalar R]

/-- The arguments that describe a new node. -/
def creationArguments : Blueprint R → Attempt R (List (Value R))
  | .oscillator waveform frequency gain => do
      let pitch ← frequency.toScalar
      let level ← gain.toScalar
      .ok [.text (waveform.builtin.getD "periodic"), .real pitch, .real level]
  | .noise type gain => do
      let level ← gain.toScalar
      .ok [type, .real level]
  | .filter type frequency gain => do
      let pitch ← frequency.toScalar
      let level ← gain.toScalar
      .ok [type, .real pitch, .real level]

omit [Scalar R] in
/-- The harmonics of a new node, if it is a periodic oscillator. -/
def harmonics? : Blueprint R → Option (List (Value R))
  | .oscillator waveform _ _ =>
      if waveform.isPeriodic then some (waveform.amplitudes.map .real) else none
  | _ => none

/-- Create a node at the other end. -/
def create (blueprint : Blueprint R) : Session (Link R) R Primitive := do
  let arguments ← creationArguments blueprint
  let number ← takeNumber
  let node := Node.created blueprint.kind number
  let address := node.address (← get).base
  if blueprint.isActive then send (address ++ "/create") arguments
  match harmonics? blueprint with
  | some amplitudes => send (address ++ "/wave") amplitudes
  | none => pure ()
  pure
    { node := node
      active := blueprint.isActive
      hasFrequency := (blueprint.initial? .frequency).isSome
      hasGain := (blueprint.initial? .gain).isSome }

/-- A time in milliseconds as seconds. -/
def seconds (time : Value R) : Attempt R (Value R) := do
  let scalar ← time.div (.int 1000)
  .ok (.real scalar)

/-- A value and a time, as they are sent. -/
def writeArguments (value time : Value R) : Attempt R (List (Value R)) := do
  let level ← value.toScalar
  let moment ← seconds time
  .ok [.real level, moment]

/-- The message that a command becomes. -/
def message (base : String) :
    Command R → Attempt R (String × List (Value R))
  | .start node => .ok (node.address base ++ "/start", [])
  | .stop node none => .ok (node.address base ++ "/stop", [])
  | .stop node (some time) => do
      let moment ← seconds time
      .ok (node.address base ++ "/stop", [moment])
  | .connect node inlet =>
      .ok (node.address base ++ "/connect", [.text (inlet.address base)])
  | .set socket value time => do
      let arguments ← writeArguments value time
      .ok (socket.address base ++ "/set", arguments)
  | .ramp socket value time => do
      let arguments ← writeArguments value time
      .ok (socket.address base ++ "/ramp", arguments)

/-- Send the message that a command becomes. -/
def perform (command : Command R) : Session (Link R) R Unit := do
  let (address, arguments) ← message (← get).base command
  send address arguments

end Link
end MelodyAutomation

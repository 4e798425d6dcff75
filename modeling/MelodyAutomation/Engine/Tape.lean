import MelodyAutomation.Primitive
import MelodyAutomation.Value.Arithmetic

/-!
# Tapes

A tape is an engine in memory: it records what becomes of every node, and the
automation written to every socket. Nothing is refused by a tape. A parameter
whose initial value is null has no socket.
-/

namespace MelodyAutomation

/-- One write to a socket: a value set at a time, or a ramp that reaches it
there. -/
inductive Event (R : Type)
  | set (value time : Value R)
  | ramp (value time : Value R)

namespace Event

variable {R : Type}

/-- The name of a kind of write. -/
def name : Event R → String
  | set _ _ => "set"
  | ramp _ _ => "ramp"

/-- The value that is written. -/
def value : Event R → Value R
  | set value _ => value
  | ramp value _ => value

/-- The time at which the value is reached. -/
def time : Event R → Value R
  | set _ time => time
  | ramp _ time => time

end Event

/-- The automation of one socket. -/
structure Lane (R : Type) where
  initial : Value R
  /-- The writes so far, the latest one first. -/
  latest : List (Event R)

namespace Lane

variable {R : Type}

/-- A lane to which nothing was written. -/
def empty (initial : Value R) : Lane R := ⟨initial, []⟩

/-- Record a write. -/
def write (lane : Lane R) (event : Event R) : Lane R :=
  { lane with latest := event :: lane.latest }

/-- The writes in the order in which they were made. -/
def events (lane : Lane R) : List (Event R) := lane.latest.reverse

@[simp] theorem events_empty (initial : Value R) : (empty initial).events = [] :=
  rfl

@[simp] theorem events_write (lane : Lane R) (event : Event R) :
    (lane.write event).events = lane.events ++ [event] := by
  simp [events, write]

end Lane

/-- The record of one node. -/
structure Recording (R : Type) where
  node : Node
  active : Bool
  /-- The setting that tells nodes of one kind apart, with its name. -/
  setting : String × Value R
  frequency : Option (Lane R)
  gain : Option (Lane R)
  started : Bool
  startCount : Nat
  stopTimes : List (Option (Value R))
  outputs : List Inlet

namespace Recording

variable {R : Type}

/-- The lane of a parameter. -/
def lane? (recording : Recording R) : Parameter → Option (Lane R)
  | .frequency => recording.frequency
  | .gain => recording.gain

/-- The lanes of a recording with their sockets. -/
def lanes (recording : Recording R) : List (Socket × Lane R) :=
  [Parameter.frequency, Parameter.gain].filterMap fun parameter =>
    (recording.lane? parameter).map fun lane =>
      (⟨recording.node, parameter⟩, lane)

/-- The recording of a node that was just created. -/
def fresh (node : Node) (active : Bool) (setting : String × Value R)
    (frequency gain : Option (Lane R)) : Recording R where
  node := node
  active := active
  setting := setting
  frequency := frequency
  gain := gain
  started := false
  startCount := 0
  stopTimes := []
  outputs := []

/-- Record that a node is started. -/
def start (recording : Recording R) : Recording R :=
  { recording with
    started := true
    startCount := recording.startCount + 1 }

/-- Record that a node is stopped, perhaps at a later time. -/
def stop (recording : Recording R) (time : Option (Value R)) : Recording R :=
  { recording with
    started := false
    stopTimes := recording.stopTimes ++ [time] }

/-- Record a connection. -/
def connect (recording : Recording R) (inlet : Inlet) : Recording R :=
  { recording with outputs := recording.outputs ++ [inlet] }

/-- Record a write to a parameter; a parameter without a lane takes none. -/
def write (recording : Recording R) (event : Event R) :
    Parameter → Recording R
  | .frequency =>
      { recording with
        frequency := recording.frequency.map fun lane => lane.write event }
  | .gain =>
      { recording with
        gain := recording.gain.map fun lane => lane.write event }

/-- The recording of the node that a blueprint describes. -/
def ofBlueprint (number : Nat) (blueprint : Blueprint R) : Recording R :=
  let lane (parameter : Parameter) : Option (Lane R) :=
    match blueprint.initial? parameter with
    | none => none
    | some .null => none
    | some initial => some (.empty initial)
  fresh (.created blueprint.kind number) blueprint.isActive blueprint.setting
    (lane .frequency) (lane .gain)

/-- The node of a recording as an instrument knows it. -/
def primitive (recording : Recording R) : Primitive where
  node := recording.node
  active := recording.active
  hasFrequency := recording.frequency.isSome
  hasGain := recording.gain.isSome

/-- The written form of a recording. -/
def written (recording : Recording R) : String :=
  "RecordedPrimitive(" ++ Text.quoted recording.node.name ++ ", active=" ++
    (if recording.active then "True" else "False") ++ ")"

end Recording

/-- The records of all nodes, in the order of their creation. -/
structure Tape (R : Type) where
  recordings : List (Recording R)
  destination : Recording R
  closed : Bool

namespace Tape

variable {R : Type}

/-- A tape on which nothing is recorded. -/
def blank : Tape R where
  recordings := []
  destination := Recording.fresh .destination true ("", .null) none none
  closed := false

/-- The recording of a node. -/
def recording? (tape : Tape R) : Node → Option (Recording R)
  | .destination => some tape.destination
  | .created _ number => tape.recordings[number]?

/-- Change the recording of a node. -/
def change (tape : Tape R) (node : Node)
    (function : Recording R → Recording R) : Tape R :=
  match node with
  | .destination => { tape with destination := function tape.destination }
  | .created _ number =>
      { tape with recordings := tape.recordings.modify number function }

/-- The writes recorded for a socket. -/
def events (tape : Tape R) (socket : Socket) : List (Event R) :=
  match (tape.recording? socket.node).bind fun recording =>
      recording.lane? socket.parameter with
  | some lane => lane.events
  | none => []

/-- Record a new node. -/
def create (tape : Tape R) (blueprint : Blueprint R) : Primitive × Tape R :=
  let recording := Recording.ofBlueprint tape.recordings.length blueprint
  (recording.primitive,
    { tape with recordings := tape.recordings ++ [recording] })

/-- Record a command. -/
def perform (tape : Tape R) : Command R → Tape R
  | .start node => tape.change node Recording.start
  | .stop node time => tape.change node fun recording => recording.stop time
  | .connect node inlet =>
      tape.change node fun recording => recording.connect inlet
  | .set socket value time =>
      tape.change socket.node fun recording =>
        recording.write (.set value time) socket.parameter
  | .ramp socket value time =>
      tape.change socket.node fun recording =>
        recording.write (.ramp value time) socket.parameter

variable [Scalar R]

/-- A time with one digit after the point. -/
def timeText (time : Value R) : Attempt R String :=
  match time with
  | .text _ => .error .malformed
  | _ => do
      let milliseconds ← time.toScalar
      .ok (Scalar.fixedText 1 milliseconds)

/-- The summary of one lane, unless nothing was written to it. -/
def laneSummary (socket : Socket) (lane : Lane R) :
    Attempt R (Option String) :=
  match lane.latest.head? with
  | none => .ok none
  | some last => do
      let time ← timeText last.time
      .ok (some (socket.name ++ ": " ++ toString lane.latest.length ++
        " events, last at " ++ time ++ " ms"))

/-- One line for every socket that was written to. -/
def summary (tape : Tape R) : Attempt R (List String) := do
  let lines ← (tape.recordings.flatMap Recording.lanes).mapM
    fun (socket, lane) => laneSummary socket lane
  .ok (lines.filterMap id)

end Tape
end MelodyAutomation

import MelodyAutomation.Engine

/-!
# Stages

A stage is an engine with a clock and the instruments that were built on it. The
clock is a number of seconds that moves only when something waits or when it is
advanced; whether instruments wait at all is a property of the stage. What
instruments need to know about each other is only which of them are playing.
-/

namespace MelodyAutomation

/-- How the time of a stage is read off its clock: as it is, or counted from the
reading that a source showed at some origin. -/
inductive Timebase (R : Type)
  | manual
  | since (epoch origin : R)

/-- The state that instruments share. -/
structure Stage (R : Type) where
  /-- The clock, in seconds. -/
  clock : R
  timebase : Timebase R
  /-- Whether instruments wait for their schedules to pass. -/
  realtime : Bool
  engine : Engine R
  /-- How many instruments were built. -/
  built : Nat
  /-- Which instruments are playing, by their number. -/
  playing : Nat → Bool

namespace Stage

variable {R : Type}

/-- A stage without instruments. -/
def empty (clock : R) (timebase : Timebase R) (realtime : Bool)
    (engine : Engine R) : Stage R where
  clock := clock
  timebase := timebase
  realtime := realtime
  engine := engine
  built := 0
  playing := fun _ => false

/-- Run an operation of the engine. -/
def onEngine {α : Type} (operation : Session (Engine R) R α) :
    Session (Stage R) R α :=
  Session.within Stage.engine (fun engine stage => { stage with engine })
    operation

/-- The name of a primitive on the stage's engine. -/
def nameOf (stage : Stage R) (primitive : Primitive) : String :=
  stage.engine.nodeName primitive.node

/-- Open a stage on a blank tape. -/
def openTape (clock : R) (timebase : Timebase R) (realtime : Bool) : Stage R :=
  empty clock timebase realtime (.tape Tape.blank)

/-- Open a stage on a link, which announces itself to the other end. -/
def openLink (clock : R) (timebase : Timebase R) (realtime : Bool)
    (base : String) (host : Option String) (portNumber : Option Int)
    (outage : Outage R) : Logged R Unit × Stage R :=
  (onEngine (Engine.onLink (Link.start host portNumber))).run
    (empty clock timebase realtime (.link (Link.idle base outage)))

/-- Whether an instrument is playing. -/
def isPlaying (number : Nat) : Session (Stage R) R Bool := do
  pure ((← get).playing number)

/-- Note that an instrument plays, or that it does not. -/
def setPlaying (number : Nat) (playing : Bool) : Session (Stage R) R Unit :=
  modify fun stage =>
    { stage with
      playing := fun other =>
        if other = number then playing else stage.playing other }

/-- Take the next number for an instrument, which does not play yet. -/
def takeNumber : Session (Stage R) R Nat := do
  let number := (← get).built
  modify fun stage => { stage with built := number + 1 }
  setPlaying number false
  pure number

variable [Scalar R]

/-- The time of a stage, in seconds. -/
def now (stage : Stage R) : R :=
  match stage.timebase with
  | .manual => stage.clock
  | .since epoch origin => Scalar.sub (Scalar.add epoch stage.clock) origin

/-- Milliseconds in a second, as a scalar. -/
def millisecondsPerSecond : R := Scalar.ofDecimal 1000 0

/-- The time of a stage, in milliseconds. -/
def nowMs (stage : Stage R) : R :=
  Scalar.mul stage.now millisecondsPerSecond

/-- The reading of the clock after a number of milliseconds. -/
def clockAfter (stage : Stage R) (duration : R) : R :=
  Scalar.add stage.clock (Scalar.div duration millisecondsPerSecond)

/-- The reading of the clock at which a duration is over, if the stage waits for
it. -/
def waitsUntil? (stage : Stage R) (duration : R) : Option R :=
  if Scalar.isPositive duration && stage.realtime then
    some (stage.clockAfter duration)
  else none

omit [Scalar R] in
/-- Set the clock. -/
def setClock (clock : R) : Session (Stage R) R Unit :=
  modify fun stage => { stage with clock }

/-- Move the clock by a literal number of seconds. -/
def advance (seconds : Value R) : Session (Stage R) R Unit := do
  let moved ← (Value.real (← get).clock).add seconds
  let clock ← moved.toScalar
  setClock clock

/-- Create a node. -/
def create (blueprint : Blueprint R) : Session (Stage R) R Primitive :=
  onEngine (Engine.create blueprint)

/-- Give a command to the engine. -/
def perform (command : Command R) : Session (Stage R) R Unit :=
  onEngine (Engine.perform command)

/-- Start a primitive; an inactive one stays silent. -/
def start (primitive : Primitive) : Session (Stage R) R Unit :=
  if primitive.active then perform (.start primitive.node) else pure ()

/-- Stop a primitive, perhaps at a later time. -/
def stop (primitive : Primitive) (time : Option (Value R)) :
    Session (Stage R) R Unit :=
  if primitive.active then perform (.stop primitive.node time) else pure ()

/-- Connect a primitive; an inactive one is left unconnected. -/
def connect (primitive : Primitive) (inlet : Inlet) :
    Session (Stage R) R Unit :=
  if primitive.active then perform (.connect primitive.node inlet) else pure ()

/-- Set a value at a time. -/
def set (socket : Socket) (value time : Value R) : Session (Stage R) R Unit :=
  perform (.set socket value time)

/-- Ramp to a value until a time. -/
def ramp (socket : Socket) (value time : Value R) : Session (Stage R) R Unit :=
  perform (.ramp socket value time)

end Stage
end MelodyAutomation

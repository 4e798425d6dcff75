import MelodyAutomation.Failure
import MelodyAutomation.Target

/-!
# Notices

What the library reports while it works. A notice has a level, the part of the
library that reports it, and a wording; all three are functions of the notice,
so two runs report the same exactly when their notices are equal.
-/

namespace MelodyAutomation

/-- How urgent a notice is. -/
inductive Level
  | debug
  | info
  | warning
  | error
  deriving DecidableEq, Repr

namespace Level

/-- The rank of a level: more urgent levels have greater ranks. -/
def rank : Level → Nat
  | debug => 10
  | info => 20
  | warning => 30
  | error => 40

/-- The name of a level. -/
def name : Level → String
  | debug => "DEBUG"
  | info => "INFO"
  | warning => "WARNING"
  | error => "ERROR"

/-- The level of a name. -/
def ofName? : String → Option Level
  | "DEBUG" => some debug
  | "INFO" => some info
  | "WARNING" => some warning
  | "ERROR" => some error
  | _ => none

@[simp] theorem ofName?_name (level : Level) :
    ofName? level.name = some level := by
  cases level <;> rfl

end Level

/-- The part of the library that reports a notice. -/
inductive Source
  | melody
  | envelope
  | scheduler
  | instrument
  | link
  | registry
  | ensemble
  | song
  | program
  deriving DecidableEq, Repr

/-- The channel under which a source's notices are published. -/
def Source.channel : Source → String
  | melody => "surferrosa.melody"
  | envelope => "surferrosa.envelope"
  | scheduler => "surferrosa.scheduler"
  | instrument => "surferrosa.instrument"
  | link => "surferrosa.osc"
  | registry => "surferrosa.registry"
  | ensemble => "surferrosa.ensemble"
  | song => "surferrosa.config"
  | program => "surferrosa.__main__"

/-- Something the library reports. -/
inductive Notice (R : Type)
  | misused (fault : Misuse R)
  | emptyEnvelope
  | unknownPitch (pitch : String)
  | scheduled (items : Nat) (duration : R) (blocks : List (Target × Nat))
  | unscheduledTarget (target : Value R)
  | inactiveModulation (target : Target)
  | playing (duration : R)
  | linkOpened (host : Option String) (portNumber : Option Int)
      (address : String)
  | linkClosed
  | sendFailed (reason : String)
  | saved (registry : String) (name : Value R)
  | tracks (count : Nat) (mapping : Value R)
  | finished
  | missingSong (path : String)
  | nothingToPlay (path : String)
  | stopping
  | summary (line : String)

namespace Notice

variable {R : Type}

/-- The level of a notice. -/
def level : Notice R → Level
  | misused _ => .warning
  | emptyEnvelope => .warning
  | unknownPitch _ => .warning
  | scheduled _ _ _ => .debug
  | unscheduledTarget _ => .warning
  | inactiveModulation _ => .warning
  | playing _ => .info
  | linkOpened _ _ _ => .info
  | linkClosed => .info
  | sendFailed _ => .warning
  | saved _ _ => .debug
  | tracks _ _ => .info
  | finished => .info
  | missingSong _ => .warning
  | nothingToPlay _ => .error
  | stopping => .info
  | summary _ => .info

/-- The source of a notice. -/
def source : Notice R → Source
  | misused _ => .melody
  | emptyEnvelope => .envelope
  | unknownPitch _ => .scheduler
  | scheduled _ _ _ => .scheduler
  | unscheduledTarget _ => .instrument
  | inactiveModulation _ => .instrument
  | playing _ => .instrument
  | linkOpened _ _ _ => .link
  | linkClosed => .link
  | sendFailed _ => .link
  | saved _ _ => .registry
  | tracks _ _ => .ensemble
  | finished => .ensemble
  | missingSong _ => .song
  | nothingToPlay _ => .program
  | stopping => .program
  | summary _ => .program

variable [Scalar R]

/-- The wording of a notice. -/
def message : Notice R → String
  | misused fault => fault.message
  | emptyEnvelope => "Envelope has zero length - using default"
  | unknownPitch pitch =>
      "Unknown pitch class " ++ Text.quoted pitch ++ " - treated as a rest"
  | scheduled items duration blocks =>
      "Scheduled " ++ toString items ++ " items over " ++
        Scalar.fixedText 1 duration ++ " ms: " ++
        Value.commaSeparated
          (blocks.map fun (target, count) =>
            target.name ++ "=" ++ toString count)
  | unscheduledTarget target =>
      "Envelope target " ++ target.written ++ " is not scheduled - ignored"
  | inactiveModulation target =>
      "LFO target " ++ Text.quoted target.name ++
        " is inactive - LFO left unconnected"
  | playing duration => "Playing " ++ Scalar.fixedText 0 duration ++ " ms"
  | linkOpened host portNumber address =>
      "OSC backend sending to " ++ host.getD "[]" ++ ":" ++
        (portNumber.map toString).getD "[]" ++ " under " ++ address
  | linkClosed => "OSC backend closed"
  | sendFailed reason => "OSC send error: " ++ reason
  | saved registry name => registry ++ ": saved " ++ name.written
  | tracks count mapping =>
      "Playing " ++ toString count ++
        (if count = 1 then " track: " else " tracks: ") ++ mapping.written
  | finished => "Finished"
  | missingSong path =>
      "Config file " ++ path ++ " not found. Using defaults."
  | nothingToPlay path => "Nothing to play in " ++ path
  | stopping => "Stopping..."
  | summary line => line

end Notice
end MelodyAutomation

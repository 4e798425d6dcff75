import MelodyAutomation.CommandLine
import MelodyAutomation.Song

/-!
# The program

Playing a song file: open an engine, register the song's instruments and
melodies, play what the song asks for, and release the engine. A dry run plays
on a tape without waiting, and reports what was written to each socket.
-/

namespace MelodyAutomation

/-- Where and when a program runs: what is found under a path, the reading of the
clock and the epoch of its time source, and whether the program is interrupted
as soon as all tracks are waiting. -/
structure Surroundings (R : Type) where
  file : String → SongFile R
  clock : R
  epoch : R
  interrupt : Bool

namespace Program

variable {R : Type} [Machine R]

/-- What every address of the program's messages starts with. -/
def base : String := "/surferrosa"

/-- The stage that a request asks for, with what opening it reports. -/
def openStage (request : CommandLine.Request) (surroundings : Surroundings R) :
    Logged R Unit × Stage R :=
  let epoch := surroundings.epoch
  let clock := surroundings.clock
  let timebase := Timebase.since epoch (Scalar.add epoch clock)
  if request.dryRun then (pure (), Stage.openTape clock timebase false)
  else
    Stage.openLink clock timebase true base request.host request.portNumber
      fun _ => none

/-- Report every line of the engine's summary, if it keeps one. -/
def reportSummary : Session (Ensemble R) R Unit := do
  match (← get).stage.engine with
  | .link _ => pure ()
  | .tape tape => do
      let lines ← tape.summary
      lines.forM fun line => Session.report (.summary line)

/-- Play what a song asks for, and release the engine in any case. -/
def perform (song : Song R) (interrupt : Bool) :
    Session (Ensemble R) R Unit :=
  Session.ensuring
    (do
      match ← Ensemble.play (.map song.play) (.int song.loop) interrupt with
      | .finished => pure ()
      | .interrupted => Session.report .stopping)
    (Ensemble.onStage (Stage.onEngine Engine.close))

/-- Load the song of a request and play it; the result is an exit code. -/
def playSong (request : CommandLine.Request) (surroundings : Surroundings R) :
    Session (Ensemble R) R Nat := do
  let song ← Song.load request.song (surroundings.file request.song)
  if song.play.isEmpty then
    Session.report (.nothingToPlay request.song)
    pure 1
  else
    perform song surroundings.interrupt
    reportSummary
    pure 0

/-- Run the program for a request: its exit code, and the ensemble it leaves. -/
def run (request : CommandLine.Request) (surroundings : Surroundings R) :
    Logged R Nat × Ensemble R :=
  let (opening, stage) := openStage request surroundings
  let (logged, final) := (playSong request surroundings).run
    (Ensemble.onStageOf stage)
  (opening >>= fun _ => logged, final)

end Program
end MelodyAutomation

import MelodyAutomation.Program
import MelodyAutomation.Scalar.Double

/-!
# The command

Plays a song file. The notices go to the standard error output, and the messages
for the synthesis engine, one on a line, to the standard output.
-/

namespace MelodyAutomation
namespace Command

/-- How the program is called. -/
def usage : String :=
  "usage: surferrosa [-h] [--dry-run] [--osc-host OSC_HOST] " ++
    "[--osc-port OSC_PORT] song"

/-- A text as it is printed, with replacements for halves of pairs. -/
def plain (text : String) : String :=
  String.ofList ((Text.points text.toList).map fun point =>
    if Text.isHalf point then '\ufffd' else Char.ofNat point)

/-- A word of the command line as a text. -/
def kept (word : String) : String :=
  String.ofList (Text.ofCharacters word.toList)

/-- What is found under a path. -/
def readSong (path : String) : IO (SongFile Float) := do
  try
    let content ← IO.FS.readFile (plain path)
    return .text content
  catch error =>
    match error with
    | .noFileOrDirectory _ _ _ => return .missing
    | _ => return .folder

/-- A notice as a line. -/
def noticeLine (notice : Notice Float) : String :=
  ":".intercalate [notice.level.name, notice.source.channel, notice.message]

/-- A message for the synthesis engine as a line. -/
def messageLine (message : Transmission Float) : String :=
  " ".intercalate (message.address :: message.arguments.map Value.written)

/-- The messages that an engine was sent. -/
def messages : Engine Float → List (Transmission Float)
  | .tape _ => []
  | .link link => link.transmissions

/-- Play the song of a request. -/
def play (request : CommandLine.Request) : IO UInt32 := do
  let file ← readSong request.song
  let (logged, ensemble) := Program.run request
    { file := fun _ => file, clock := 0.0, epoch := 0.0, interrupt := false }
  for notice in logged.notices do
    if Level.info.rank ≤ notice.level.rank then
      IO.eprintln (plain (noticeLine notice))
  for message in messages ensemble.stage.engine do
    IO.println (plain (messageLine message))
  match logged.outcome with
  | .ok code => return code.toUInt32
  | .error failure =>
      let message := failure.told.message?.getD "the song cannot be played"
      IO.eprintln (plain message)
      return 1

end Command
end MelodyAutomation

/-- Play the song that a command line asks for. -/
def main (words : List String) : IO UInt32 := do
  let texts := words.map MelodyAutomation.Command.kept
  match MelodyAutomation.CommandLine.parse texts with
  | .ok request => MelodyAutomation.Command.play request
  | .error refusal =>
      if refusal = .helpWanted then IO.println MelodyAutomation.Command.usage
      else IO.eprintln MelodyAutomation.Command.usage
      return refusal.exitCode.toUInt32

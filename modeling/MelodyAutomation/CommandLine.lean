import MelodyAutomation.Numeral.Integer

/-!
# Command lines

The arguments of the program: the path of a song, and options. An option may be
shortened as long as only one option begins that way, and its value may follow
an equals sign. Everything after `--` is an argument, and so is a negative
number or a word with a space. Arguments are taken from left to right, so a
request for help ends the reading with whatever came before it. An option whose
value is `--` is left without a value.
-/

namespace MelodyAutomation
namespace CommandLine

/-- The options of the program. -/
inductive Flag
  | help
  | dryRun
  | host
  | portNumber
  deriving DecidableEq, Repr

/-- The names of all options. -/
def names : List (String × Flag) :=
  [("-h", .help), ("--help", .help), ("--dry-run", .dryRun),
    ("--osc-host", .host), ("--osc-port", .portNumber)]

/-- The word after which all words are arguments. -/
def separator : String := "--"

/-- Whether an option takes a value. -/
def Flag.takesValue : Flag → Bool
  | help => false
  | dryRun => false
  | host => true
  | portNumber => true

/-- Why a command line asks for nothing to play. -/
inductive Refusal
  | helpWanted
  | misuse
  deriving DecidableEq, Repr

/-- The exit code of a refused command line. -/
def Refusal.exitCode : Refusal → Nat
  | helpWanted => 0
  | misuse => 2

/-- What a command line asks for. -/
structure Request where
  song : String
  dryRun : Bool
  host : Option String
  portNumber : Option Int
  deriving DecidableEq, Repr

/-- One word of a command line. -/
inductive Word
  | argument (text : String)
  | separator
  /-- An option, perhaps with a value after an equals sign. -/
  | option (flag : Flag) (value : Option String)
  /-- Short options in one word after the one for help. -/
  | helpWith (others : List Char)
  | unknown
  deriving DecidableEq, Repr

/-- Whether some characters are a minus sign and a number. -/
def isMinusNumber : List Char → Bool
  | '-' :: rest =>
      let whole := rest.takeWhile Text.isDigit
      match rest.dropWhile Text.isDigit with
      | [] => whole ≠ []
      | '.' :: fraction => fraction ≠ [] && fraction.all Text.isDigit
      | _ => false
  | _ => false

/-- Whether some characters are a negative number. A line feed may end them. -/
def isNegativeNumber (characters : List Char) : Bool :=
  isMinusNumber
    (if characters.getLast? = some '\n' then characters.dropLast
      else characters)

/-- Split characters at the first equals sign. -/
def splitValue (characters : List Char) : List Char × Option (List Char) :=
  match characters.dropWhile (· != '=') with
  | _ :: value => (characters.takeWhile (· != '='), some value)
  | [] => (characters, none)

/-- The options whose names begin with some characters. -/
def beginning (characters : List Char) : List Flag :=
  (names.filter fun entry => characters.isPrefixOf entry.1.toList).map Prod.snd

/-- What a word that begins with a hyphen and is no name of an option means. -/
def classifyHyphenated (text : String) : Except Refusal Word :=
  let (name, value) := splitValue text.toList
  let option (flag : Flag) : Word := .option flag (value.map String.ofList)
  let other : Word :=
    if isNegativeNumber text.toList || text.toList.contains ' ' then
      .argument text
    else .unknown
  match value, names.lookup (String.ofList name) with
  | some others, some .help =>
      .ok (if name.length = 2 then .helpWith others else option .help)
  | some _, some flag => .ok (option flag)
  | _, _ =>
      match text.toList with
      | '-' :: '-' :: _ =>
          match beginning name with
          | [] => .ok other
          | [flag] => .ok (option flag)
          | _ => .error .misuse
      | '-' :: 'h' :: others => .ok (.helpWith others)
      | _ => .ok other

/-- What a word means. -/
def classify (text : String) : Except Refusal Word :=
  match names.lookup text with
  | some flag => .ok (.option flag none)
  | none =>
      match text.toList with
      | '-' :: _ :: _ => classifyHyphenated text
      | _ => .ok (.argument text)

/-- The words of a command line; after the separator all of them are
arguments. -/
def classifyAll : List String → Except Refusal (List Word)
  | [] => .ok []
  | text :: rest =>
      if text = separator then .ok (.separator :: rest.map .argument)
      else do
        let word ← classify text
        let words ← classifyAll rest
        .ok (word :: words)

/-- Whether what is attached to the short option for help asks for help again. -/
def helpWellFormed (others : List Char) : Bool :=
  !others.isEmpty && others.all (· == 'h')

/-- What has been read so far. -/
structure Progress where
  song : Option String
  dryRun : Bool
  host : Option String
  portNumber : Option Int
  /-- Whether there was a word that nothing takes. -/
  surplus : Bool

/-- Nothing read yet: the other end is on this machine. -/
def Progress.initial : Progress :=
  ⟨none, false, some "127.0.0.1", some 57120, false⟩

/-- Take an option with a value. -/
def Progress.setValue (progress : Progress) (flag : Flag) (value : String) :
    Except Refusal Progress :=
  match flag with
  | .host =>
      .ok { progress with host := if value = separator then none else value }
  | .portNumber =>
      if value = separator then .ok { progress with portNumber := none }
      else
        match Numeral.readInteger? 10 value with
        | some portNumber => .ok { progress with portNumber }
        | none => .error .misuse
  | _ => .error .misuse

/-- Take an option without a value. -/
def Progress.setFlag (progress : Progress) (flag : Flag) :
    Except Refusal Progress :=
  match flag with
  | .help => .error .helpWanted
  | .dryRun => .ok { progress with dryRun := true }
  | _ => .error .misuse

/-- Take an argument: the first one is the song. -/
def Progress.addArgument (progress : Progress) (text : String) : Progress :=
  match progress.song with
  | none => { progress with song := some text }
  | some _ => { progress with surplus := true }

/-- Read words from left to right. The separator belongs to the song, before or
after it, and is surplus elsewhere. -/
def readWords : List Word → Progress → Except Refusal Progress
  | [], progress => .ok progress
  | .option flag (some value) :: rest, progress => do
      let next ← progress.setValue flag value
      readWords rest next
  | .option flag none :: rest, progress =>
      if flag.takesValue then
        match rest with
        | .argument text :: after => do
            let next ← progress.setValue flag text
            readWords after next
        | _ => .error .misuse
      else do
        let next ← progress.setFlag flag
        readWords rest next
  | .helpWith others :: _, _ =>
      .error (if helpWellFormed others then .helpWanted else .misuse)
  | .unknown :: rest, progress =>
      readWords rest { progress with surplus := true }
  | .argument text :: .separator :: rest, progress =>
      readWords rest
        { progress.addArgument text with
          surplus := progress.surplus || progress.song.isSome }
  | .separator :: .argument text :: rest, progress =>
      readWords rest
        { progress.addArgument text with
          surplus := progress.surplus || progress.song.isSome }
  | .separator :: rest, progress =>
      readWords rest { progress with surplus := true }
  | .argument text :: rest, progress =>
      readWords rest (progress.addArgument text)

/-- What a command line asks for. -/
def parse (words : List String) : Except Refusal Request := do
  let classified ← classifyAll words
  let progress ← readWords classified Progress.initial
  match progress.song with
  | some song =>
      if progress.surplus then .error .misuse
      else .ok ⟨song, progress.dryRun, progress.host, progress.portNumber⟩
  | none => .error .misuse

end CommandLine
end MelodyAutomation

import MelodyAutomation.Document.Text

/-!
# Tokens

The tokens of a document. Indentation is made explicit: where a block
collection begins and ends there are tokens for it. A word may turn out to be a
key only when the colon after it is reached; until then it is a candidate, and
the key token is inserted in front of it later. A candidate has to be followed
by its colon on the same line and within 1024 characters.

A fault ends the tokens. Those before it are there to be read, up to the first
candidate that was still undecided when the fault was met. A character that is not
allowed in any document is a fault before the portion of the text that holds it.
-/

namespace MelodyAutomation
namespace Document

/-- A line that says how the document after it is to be read. -/
inductive Directive
  | version (major : Nat)
  | tagHandle (handle text : String)
  | other
  deriving DecidableEq, Repr

/-- The tokens of a document. -/
inductive Token
  | directive (directive : Directive)
  | documentStart
  | documentEnd
  | blockSequenceStart
  | blockMappingStart
  | blockEnd
  | flowSequenceStart
  | flowSequenceEnd
  | flowMappingStart
  | flowMappingEnd
  | blockEntry
  | flowEntry
  | key
  | value
  | reference (name : String)
  | anchor (name : String)
  | tag (handle : Option String) (suffix : String)
  | scalar (content : String) (plain : Bool)
  deriving DecidableEq, Repr

/-! ## Names, tags and directives -/

/-- A nonempty name, and what follows it. -/
def takeName (cursor : Cursor) : Except Fault (String × Cursor) :=
  let (name, after) := cursor.span isNameCharacter
  if name = [] then .error .malformedName
  else .ok (String.ofList name, after)

/-- The name of an anchor or alias, after its indicator. -/
def takeAnchor (cursor : Cursor) : Except Fault (String × Cursor) := do
  let (name, after) ← takeName cursor
  if after.nextIs fun character =>
      !isGap character && !"?:,]\x7d%@`".toList.contains character then
    .error .malformedName
  .ok (name, after)

/-- Whether a character may stand in the text of a tag. -/
def isTagCharacter (character : Char) : Bool :=
  isNameCharacter character ||
    ";/?:@&=+$,.!~*'()[]%".toList.contains character

/-- The bytes of escapes that begin with a percent sign. -/
def tagBytes : Nat → Cursor → Except Fault (List UInt8 × Cursor)
  | 0, cursor => .ok ([], cursor)
  | fuel + 1, cursor =>
      if cursor.at? '%' then
        match Numeral.hexNumber? 2 cursor.step.rest with
        | some byte => do
            let (bytes, final) ← tagBytes fuel (cursor.skip 3)
            .ok (byte.toUInt8 :: bytes, final)
        | none => .error .malformedTag
      else .ok ([], cursor)

/-- The text of a tag, with its escapes decoded. -/
def tagText : Nat → Cursor → Except Fault (List Char × Cursor)
  | 0, cursor => .ok ([], cursor)
  | fuel + 1, cursor =>
      if cursor.at? '%' then do
        let (bytes, after) ← tagBytes cursor.rest.length cursor
        match String.fromUTF8? (ByteArray.mk bytes.toArray) with
        | some piece =>
            let (text, final) ← tagText fuel after
            .ok (piece.toList ++ text, final)
        | none => .error .malformedTag
      else if cursor.nextIs isTagCharacter then do
        let (text, final) ← tagText fuel cursor.step
        .ok (cursor.peek.toList ++ text, final)
      else .ok ([], cursor)

/-- The nonempty text of a tag. -/
def takeTagText (cursor : Cursor) : Except Fault (String × Cursor) := do
  let (text, after) ← tagText (cursor.rest.length + 1) cursor
  if after.index = cursor.index then .error .malformedTag
  .ok (String.ofList text, after)

/-- A tag handle: one exclamation mark, or a name between two of them. -/
def takeHandle (cursor : Cursor) : Except Fault (String × Cursor) :=
  if cursor.at? '!' then
    if cursor.step.at? ' ' then .ok ("!", cursor.step)
    else
      let (name, after) := cursor.step.span isNameCharacter
      if after.at? '!' then
        .ok (String.ofList ('!' :: (name ++ ['!'])), after.step)
      else .error .malformedTag
  else .error .malformedTag

/-- Refuse what does not end a word of a tag or directive. -/
def requireWordEnd (fault : Fault) (cursor : Cursor) : Except Fault Unit :=
  if cursor.nextIs fun character => character != ' ' && !isBreak character then
    .error fault
  else .ok ()

/-- Whether a second exclamation mark comes before the next space. -/
def hasHandle (cursor : Cursor) : Bool :=
  (cursor.rest.takeWhile fun character =>
    character != ' ' && !isBreak character).contains '!'

/-- A tag, from its exclamation mark on. -/
def takeTag (cursor : Cursor) : Except Fault (Token × Cursor) := do
  let (handle, suffix, after) ←
    if cursor.step.at? '<' then do
      let (suffix, after) ← takeTagText (cursor.skip 2)
      if after.at? '>' then .ok (none, suffix, after.step)
      else .error .malformedTag
    else if cursor.gapAhead 1 then .ok (none, "!", cursor.step)
    else if hasHandle cursor.step then do
      let (handle, after) ← takeHandle cursor
      let (suffix, final) ← takeTagText after
      .ok (some handle, suffix, final)
    else do
      let (suffix, final) ← takeTagText cursor.step
      .ok (some "!", suffix, final)
  requireWordEnd .malformedTag after
  .ok (.tag handle suffix, after)

/-- A nonempty run of digits as a number. -/
def takeNumber (cursor : Cursor) : Except Fault (Nat × Cursor) :=
  let (digits, after) := cursor.span Char.isDigit
  match Numeral.limitedDigits? 10 digits with
  | some number => .ok (number, after)
  | none =>
      .error (if digits.isEmpty then .malformedDirective else .malformedNumber)

/-- The value of a version directive. -/
def takeVersion (cursor : Cursor) : Except Fault (Directive × Cursor) := do
  let (major, after) ← takeNumber cursor.skipSpaces
  if !after.at? '.' then .error .malformedDirective
  let (_, final) ← takeNumber after.step
  requireWordEnd .malformedDirective final
  .ok (.version major, final)

/-- The value of a tag directive. -/
def takeTagHandle (cursor : Cursor) : Except Fault (Directive × Cursor) := do
  let (handle, after) ← takeHandle cursor.skipSpaces
  if !after.at? ' ' then .error .malformedDirective
  let (text, final) ← takeTagText after.skipSpaces
  requireWordEnd .malformedDirective final
  .ok (.tagHandle handle text, final)

/-- A directive, from its percent sign to the end of its line. -/
def takeDirective (cursor : Cursor) : Except Fault (Token × Cursor) := do
  let (name, after) ← takeName cursor.step
  requireWordEnd .malformedDirective after
  let (directive, final) ←
    if name = "YAML" then takeVersion after
    else if name = "TAG" then takeTagHandle after
    else .ok (.other, after.skipLine)
  let line := final.skipSpaces.skipComment
  match line.takeBreak? with
  | some (_, next) => .ok (.directive directive, next)
  | none =>
      if line.rest.isEmpty then .ok (.directive directive, line)
      else .error .malformedDirective

/-! ## The lexer -/

/-- A place where a key token may have to be inserted. -/
structure KeyCandidate where
  /-- The number of tokens before the candidate. -/
  position : Nat
  /-- Whether the document is in error unless the candidate is a key. -/
  required : Bool
  index : Nat
  line : Nat
  column : Nat

/-- The state of a lexer. -/
structure Lexer where
  /-- More steps than it takes to pass the whole text. -/
  limit : Nat
  cursor : Cursor
  tokens : Array Token
  /-- The number of brackets that are open. -/
  depth : Nat
  /-- The column of the current block collection. -/
  indent : Int
  /-- The columns of the block collections around it. -/
  outer : List Int
  /-- Whether a key may begin here. -/
  keyAllowed : Bool
  /-- At most one candidate for every number of open brackets. -/
  candidates : List (Nat × KeyCandidate)

/-- A step of a lexer; a faulty one still leaves a lexer. -/
abbrev Lexing (α : Type) := ExceptT Fault (StateM Lexer) α

namespace Lexer

/-- A lexer at the start of a text. -/
def start (characters : List Char) : Lexer where
  limit := characters.length + 1
  cursor := Cursor.start characters
  tokens := #[]
  depth := 0
  indent := -1
  outer := []
  keyAllowed := true
  candidates := []

/-- Append a token. -/
def emit (token : Token) : Lexing Unit :=
  modify fun lexer => { lexer with tokens := lexer.tokens.push token }

/-- Move to another position. -/
def moveTo (cursor : Cursor) : Lexing Unit :=
  modify fun lexer => { lexer with cursor }

/-- Say whether a key may begin here. -/
def allowKey (keyAllowed : Bool) : Lexing Unit :=
  modify fun lexer => { lexer with keyAllowed }

/-- Give up the candidate at the current depth. -/
def dropCandidate : Lexing Unit := do
  let lexer ← get
  match lexer.candidates.lookup lexer.depth with
  | some candidate =>
      if candidate.required then throw .missingValueIndicator
      set { lexer with
        candidates := lexer.candidates.filter fun entry =>
          entry.1 != lexer.depth }
  | none => pure ()

/-- Whether a candidate can no longer become a key. -/
def isStale (cursor : Cursor) (candidate : KeyCandidate) : Bool :=
  candidate.line != cursor.line || 1024 < cursor.index - candidate.index

/-- Give up the candidates that can no longer become keys. -/
def dropStale : Lexing Unit := do
  let lexer ← get
  let (stale, kept) := lexer.candidates.partition fun entry =>
    isStale lexer.cursor entry.2
  if stale.any fun entry => entry.2.required then throw .missingValueIndicator
  set { lexer with candidates := kept }

/-- Make the next token a candidate for a key. -/
def saveCandidate : Lexing Unit := do
  let lexer ← get
  if lexer.keyAllowed then
    dropCandidate
    let candidate : KeyCandidate :=
      { position := lexer.tokens.size
        required := lexer.depth == 0 && lexer.indent == lexer.cursor.column
        index := lexer.cursor.index
        line := lexer.cursor.line
        column := lexer.cursor.column }
    modify fun lexer =>
      { lexer with candidates := (lexer.depth, candidate) :: lexer.candidates }

/-- The block collections that end where the column is less than theirs: the
number of them, and those that stay open. -/
def closing (column : Int) : Int → List Int → Nat × Int × List Int
  | indent, [] => (0, indent, [])
  | indent, next :: outer =>
      if column < indent then
        let (count, reached, left) := closing column next outer
        (count + 1, reached, left)
      else (0, indent, next :: outer)

/-- End the block collections to the right of a column. -/
def unwind (column : Int) : Lexing Unit :=
  modify fun lexer =>
    if lexer.depth = 0 then
      let (count, indent, outer) := closing column lexer.indent lexer.outer
      { lexer with
        indent, outer
        tokens := lexer.tokens ++ Array.replicate count Token.blockEnd }
    else lexer

/-- Open a block collection at a column, unless one is open there. -/
def openBlock (column : Nat) : Lexing Bool := do
  let lexer ← get
  if lexer.indent < column then
    set { lexer with indent := column, outer := lexer.indent :: lexer.outer }
    pure true
  else pure false

/-- Pass spaces, comments and line breaks. Outside brackets a key may begin on
every new line. -/
def skipToToken : Nat → Lexing Unit
  | 0 => pure ()
  | fuel + 1 => do
      let lexer ← get
      match lexer.cursor.skipSpaces.skipComment.takeBreak? with
      | some (_, next) =>
          moveTo next
          if lexer.depth = 0 then allowKey true
          skipToToken fuel
      | none => moveTo lexer.cursor.skipSpaces.skipComment

/-- End all block collections at a directive or a separator. -/
def endBlocks : Lexing Unit := do
  unwind (-1)
  dropCandidate
  allowKey false

/-- A separator of documents. -/
def separator (token : Token) : Lexing Unit := do
  endBlocks
  moveTo ((← get).cursor.skip 3)
  emit token

/-- An opening bracket. -/
def openFlow (token : Token) : Lexing Unit := do
  saveCandidate
  modify fun lexer =>
    { lexer with
      depth := lexer.depth + 1
      keyAllowed := true
      cursor := lexer.cursor.step }
  emit token

/-- A closing bracket. -/
def closeFlow (token : Token) : Lexing Unit := do
  dropCandidate
  if (← get).depth = 0 then throw .unexpectedToken
  modify fun lexer =>
    { lexer with
      depth := lexer.depth - 1
      keyAllowed := false
      cursor := lexer.cursor.step }
  emit token

/-- A comma between brackets. -/
def flowEntry : Lexing Unit := do
  allowKey true
  dropCandidate
  moveTo (← get).cursor.step
  emit .flowEntry

/-- A hyphen before an entry of a block sequence. -/
def blockEntry : Lexing Unit := do
  let lexer ← get
  if lexer.depth = 0 then
    if !lexer.keyAllowed then throw .misplacedEntry
    if ← openBlock lexer.cursor.column then emit .blockSequenceStart
  allowKey true
  dropCandidate
  moveTo lexer.cursor.step
  emit .blockEntry

/-- A question mark before a key. -/
def explicitKey : Lexing Unit := do
  let lexer ← get
  if lexer.depth = 0 then
    if !lexer.keyAllowed then throw .misplacedKey
    if ← openBlock lexer.cursor.column then emit .blockMappingStart
  allowKey (lexer.depth == 0)
  dropCandidate
  moveTo lexer.cursor.step
  emit .key

/-- Put tokens in front of the one at a position. -/
def insertAt (position : Nat) (inserted tokens : Array Token) : Array Token :=
  let after := tokens.extract position tokens.size
  tokens.shrink position ++ inserted ++ after

/-- Turn a candidate into a key. -/
def confirmKey (candidate : KeyCandidate) : Lexing Unit := do
  let opens ←
    if (← get).depth = 0 then openBlock candidate.column else pure false
  let inserted := if opens then #[Token.blockMappingStart, .key] else #[.key]
  modify fun lexer =>
    { lexer with
      tokens := insertAt candidate.position inserted lexer.tokens
      candidates := lexer.candidates.filter fun entry =>
        entry.1 != lexer.depth
      keyAllowed := false }

/-- A colon before a value. -/
def value : Lexing Unit := do
  let lexer ← get
  match lexer.candidates.lookup lexer.depth with
  | some candidate => confirmKey candidate
  | none =>
      if lexer.depth = 0 then
        if !lexer.keyAllowed then throw .misplacedValue
        if ← openBlock lexer.cursor.column then emit .blockMappingStart
      allowKey (lexer.depth == 0)
      dropCandidate
  moveTo (← get).cursor.step
  emit .value

/-- A token that may be, or begin, a key. -/
def word (scan : Cursor → Except Fault (Token × Cursor)) : Lexing Unit := do
  saveCandidate
  allowKey false
  let (token, after) ← scan (← get).cursor
  moveTo after
  emit token

/-- A quoted text, from its quote on. -/
def quoted (double : Bool) : Lexing Unit := do
  let limit := (← get).limit
  word fun cursor => do
    let (content, after) ← quotedText double limit cursor.step
    .ok (.scalar (String.ofList content) false, after)

/-- A plain text. After a line break a key may begin. -/
def plain : Lexing Unit := do
  saveCandidate
  let lexer ← get
  let (content, broken, after) := plainText (lexer.depth != 0)
    (lexer.indent + 1) lexer.limit [] false lexer.cursor
  allowKey broken
  moveTo after
  emit (.scalar (String.ofList (Text.ofCharacters content)) true)

/-- A block text, from its indicator on. -/
def block (folded : Bool) : Lexing Unit := do
  allowKey true
  dropCandidate
  let lexer ← get
  let (content, after) ← blockText folded lexer.indent lexer.cursor.step
  moveTo after
  emit (.scalar (String.ofList (Text.ofCharacters content)) false)

/-- Whether a plain text may begin here. -/
def startsPlain (lexer : Lexer) : Bool :=
  match lexer.cursor.peek with
  | none => false
  | some character =>
      let spaceAhead := lexer.cursor.gapAhead 1
      if isGap character then false
      else if character == '-' then !spaceAhead
      else if character == '?' || character == ':' then
        lexer.depth == 0 && !spaceAhead
      else !",[]\x7b\x7d#&*!|>'\"%@`".toList.contains character

/-- The token that begins with a character. -/
def token (lexer : Lexer) (character : Char) : Lexing Unit :=
  let flow := lexer.depth != 0
  let spaceAhead := lexer.cursor.gapAhead 1
  let lineStart := lexer.cursor.column == 0
  if character == '%' && lineStart then do
    endBlocks
    let (directive, after) ← takeDirective lexer.cursor
    moveTo after
    emit directive
  else if lineStart && character == '-' && lexer.cursor.atSeparator then
    separator .documentStart
  else if lineStart && character == '.' && lexer.cursor.atSeparator then
    separator .documentEnd
  else if character == '[' then openFlow .flowSequenceStart
  else if character == '\x7b' then openFlow .flowMappingStart
  else if character == ']' then closeFlow .flowSequenceEnd
  else if character == '\x7d' then closeFlow .flowMappingEnd
  else if character == ',' then flowEntry
  else if character == '-' && spaceAhead then blockEntry
  else if character == '?' && (flow || spaceAhead) then explicitKey
  else if character == ':' && (flow || spaceAhead) then value
  else if character == '*' then
    word fun cursor => do
      let (name, after) ← takeAnchor cursor.step
      .ok (.reference name, after)
  else if character == '&' then
    word fun cursor => do
      let (name, after) ← takeAnchor cursor.step
      .ok (.anchor name, after)
  else if character == '!' then word takeTag
  else if character == '|' && !flow then block false
  else if character == '>' && !flow then block true
  else if character == '\'' then quoted false
  else if character == '"' then quoted true
  else if lexer.startsPlain then plain
  else throw .unexpectedCharacter

/-- The next tokens; the flag says whether there can be any after them. -/
def advance : Lexing Bool := do
  skipToToken (← get).limit
  dropStale
  unwind (← get).cursor.column
  match (← get).cursor.peek with
  | none =>
      unwind (-1)
      dropCandidate
      pure false
  | some character =>
      token (← get) character
      pure true

/-- The number of tokens that no later one can come in front of. -/
def settled (lexer : Lexer) : Nat :=
  lexer.candidates.foldl
    (fun least entry =>
      if isStale lexer.cursor entry.2 then least
      else min least entry.2.position)
    lexer.tokens.size

/-- All tokens from here to the end of the text or to a fault. The end of a text that
goes on beyond it may be a fault itself. -/
def run (ending : Option Fault) (lexer : Lexer) :
    Nat → List Token × Option Fault
  | 0 => (lexer.tokens.toList, ending)
  | fuel + 1 =>
      let settled := lexer.settled
      match StateT.run advance lexer with
      | (.ok more, reached) =>
          if ending.isSome && reached.cursor.rest.isEmpty then
            (reached.tokens.toList.take settled, ending)
          else if more then run ending reached fuel
          else (reached.tokens.toList, none)
      | (.error fault, reached) =>
          (reached.tokens.toList.take settled, some fault)

end Lexer

/-- Take a byte order mark off the beginning of a text. -/
def skipMark : List Char → List Char
  | '\ufeff' :: rest => rest
  | characters => characters

/-- The number of characters that are checked before the first token is read. -/
def firstPortion : Nat := 8192

/-- The number of characters that are checked at a time after that. -/
def nextPortion : Nat := 4096

/-- The number of characters in front of the first portion that has a character
which is not allowed, if there is one. -/
def checkedLength? (characters : List Char) : Option Nat :=
  (characters.findIdx? fun character => !isAllowed character).map fun place =>
    if place < firstPortion then 0 else place / nextPortion * nextPortion

/-- The tokens of a text, and the fault that ends them, if there is one. A portion of
the text is checked when the one before it has been read. -/
def tokens (characters : List Char) : List Token × Option Fault :=
  let (portion, ending) := match checkedLength? characters with
    | none => (characters, none)
    | some length => (characters.take length, some Fault.characterNotAllowed)
  let lexer := Lexer.start (skipMark portion)
  lexer.run ending lexer.limit

end Document
end MelodyAutomation

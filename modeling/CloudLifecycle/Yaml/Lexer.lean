import CloudLifecycle.Yaml.Token

/-!
# Reading tokens

A `Lexer` reads the tokens of a text.  What may turn out to be a key is remembered for every level
of brackets; while the first token that waits may still be one, no token is given out.  Outside
brackets a token that is indented more than the block around it begins a new block, and one that
is indented less ends blocks.
-/

set_option autoImplicit false

namespace CloudLifecycle.Yaml

/-- A token that a colon would show to be a key. -/
structure PossibleKey where
  /-- The token has to be a key, since nothing else may stand in its place. -/
  isRequired : Bool
  /-- How many tokens come before it. -/
  number : Nat
  mark : Mark
deriving DecidableEq, Repr

/-- What has been read of a text. -/
structure Lexer where
  cursor : Cursor
  /-- Tokens that wait to be given out. -/
  waiting : List Token
  /-- How many tokens have been given out. -/
  given : Nat
  /-- A key may begin here. -/
  keyAllowed : Bool
  /-- The possible key outside brackets. -/
  outerKey : Option PossibleKey
  /-- The possible keys of the brackets that are open, the innermost first. -/
  flowKeys : List (Option PossibleKey)
  /-- The indentation of the block around. -/
  indent : Int
  /-- The indentations of the blocks around that. -/
  indents : List Int
  isEnded : Bool
deriving DecidableEq, Repr

namespace Lexer

/-- Before the first token. -/
def ofText (text : List Char) : Lexer :=
  ⟨Cursor.ofText text, [], 0, true, none, [], -1, [], false⟩

variable (lexer : Lexer)

def inFlow : Bool := !lexer.flowKeys.isEmpty

def mark : Mark := lexer.cursor.mark

def column : Int := lexer.cursor.column

/-- Adds a token at some place. -/
def add (kind : TokenKind) (mark : Mark) : Lexer :=
  { lexer with waiting := lexer.waiting ++ [⟨kind, mark⟩] }

/-- Adds a token of some characters. -/
def addSign (kind : TokenKind) (length : Nat) : Lexer :=
  { lexer.add kind lexer.mark with cursor := lexer.cursor.skip length }

/-- Puts a token before one that waits. -/
def insert (number : Nat) (kind : TokenKind) (mark : Mark) : Lexer :=
  { lexer with waiting := lexer.waiting.insertIdx (number - lexer.given) ⟨kind, mark⟩ }

/-! ### Possible keys -/

/-- The possible key of the brackets here. -/
def possibleKey : Option PossibleKey :=
  match lexer.flowKeys with
  | [] => lexer.outerKey
  | key :: _ => key

/-- Changes the possible key of the brackets here. -/
def setKey (key : Option PossibleKey) : Lexer :=
  match lexer.flowKeys with
  | [] => { lexer with outerKey := key }
  | _ :: outer => { lexer with flowKeys := key :: outer }

/-- All possible keys, the outermost first. -/
def possibleKeys : List PossibleKey :=
  lexer.outerKey.toList ++ lexer.flowKeys.reverse.filterMap id

/-- The error of a token that has to be a key but is none. -/
def noColon (key : PossibleKey) (place : Mark) : YamlError :=
  .inside "while scanning a simple key" key.mark "could not find expected ':'" place

/-- Nothing that came before in these brackets can be a key any more. -/
def dropKey : Except YamlError Lexer :=
  match lexer.possibleKey with
  | none => .ok lexer
  | some key =>
    if key.isRequired then .error (noColon key lexer.mark) else .ok (lexer.setKey none)

/-- A key has to be on one line with its colon, and not too far from it. -/
def isStale (key : PossibleKey) : Bool :=
  key.mark.line < lexer.mark.line || key.mark.index + 1024 < lexer.mark.index

/-- Forgets what is too far away to be a key. -/
def dropStaleKeys : Except YamlError Lexer :=
  match lexer.possibleKeys.find? fun key => lexer.isStale key && key.isRequired with
  | some key => .error (noColon key lexer.mark)
  | none =>
    let fresh (key : Option PossibleKey) : Option PossibleKey := key.filter (!lexer.isStale ·)
    .ok { lexer with outerKey := fresh lexer.outerKey, flowKeys := lexer.flowKeys.map fresh }

/-- Remembers that the next token may be a key. -/
def markKey : Except YamlError Lexer := do
  if !lexer.keyAllowed then return lexer
  let key : PossibleKey := ⟨!lexer.inFlow && lexer.indent = lexer.column,
    lexer.given + lexer.waiting.length, lexer.mark⟩
  return (← lexer.dropKey).setKey (some key)

def allowKey (allowed : Bool) : Lexer := { lexer with keyAllowed := allowed }

/-! ### Blocks -/

/-- Ends the blocks that are indented more than a column. -/
def endBlocks (column : Int) : Lexer :=
  if lexer.inFlow then lexer
  else
    let around := lexer.indent :: lexer.indents
    let ended := around.takeWhile (column < ·)
    let left := around.drop ended.length
    { lexer with
      waiting := lexer.waiting ++ ended.map fun _ => ⟨.blockEnd, lexer.mark⟩
      indent := left.headD (-1)
      indents := left.tail }

/-- A block is indented more than the one around. -/
def isDeeper (column : Int) : Bool := !lexer.inFlow && lexer.indent < column

/-- Goes on inside a block. -/
def indentTo (column : Int) : Lexer :=
  { lexer with indent := column, indents := lexer.indent :: lexer.indents }

/-- Begins a block here, if it is indented more than the one around. -/
def beginBlock (kind : TokenKind) : Lexer :=
  if lexer.isDeeper lexer.column then (lexer.indentTo lexer.column).add kind lexer.mark else lexer

/-- Begins a block mapping with a token that waits, if it is indented more than the block around. -/
def beginMappingAt (key : PossibleKey) : Lexer :=
  let column : Int := key.mark.column
  if lexer.isDeeper column then
    (lexer.indentTo column).insert key.number .blockMappingStart key.mark
  else lexer

/-! ### Single tokens -/

/-- Ends all blocks before something that stands between documents. -/
def leaveDocument : Except YamlError Lexer := do
  return (← (lexer.endBlocks (-1)).dropKey).allowKey false

/-- The text ends. -/
def readEnd : Except YamlError Lexer := do
  let mark := lexer.mark
  let mark : Mark := if mark.column = 0 then mark else ⟨mark.index, mark.line + 1, 0⟩
  let lexer := { lexer with cursor := { lexer.cursor with mark } }
  return { (← lexer.leaveDocument).add .streamEnd mark with isEnded := true }

def readDirective : Except YamlError Lexer := do
  let lexer ← lexer.leaveDocument
  let (directive, next) ← Directive.read lexer.cursor
  return { lexer.add (.directive directive) lexer.mark with cursor := next }

def readMarker (kind : TokenKind) : Except YamlError Lexer := do
  return (← lexer.leaveDocument).addSign kind 3

def openFlow (kind : TokenKind) : Except YamlError Lexer := do
  let lexer ← lexer.markKey
  return ({ lexer with flowKeys := none :: lexer.flowKeys }.allowKey true).addSign kind 1

def closeFlow (kind : TokenKind) : Except YamlError Lexer := do
  let lexer ← lexer.dropKey
  return ({ lexer with flowKeys := lexer.flowKeys.tail }.allowKey false).addSign kind 1

def readFlowEntry : Except YamlError Lexer := do
  return ((← lexer.dropKey).allowKey true).addSign .flowEntry 1

def readBlockEntry : Except YamlError Lexer := do
  if !lexer.inFlow && !lexer.keyAllowed then
    throw (.alone "block sequence entries are not allowed in this context" lexer.mark)
  let lexer := lexer.beginBlock .blockSequenceStart
  return ((← lexer.dropKey).allowKey true).addSign .blockEntry 1

def readKey : Except YamlError Lexer := do
  if !lexer.inFlow && !lexer.keyAllowed then
    throw (.alone "mapping keys are not allowed in this context" lexer.mark)
  let lexer := lexer.beginBlock .blockMappingStart
  return ((← lexer.dropKey).allowKey (!lexer.inFlow)).addSign .key 1

/-- The colon after a key; what stood before it turns out to be a key, or else the key is empty or
was marked as one. -/
def readValue : Except YamlError Lexer :=
  match lexer.possibleKey with
  | some key =>
    let lexer := (lexer.insert key.number .key key.mark).beginMappingAt key
    .ok (((lexer.setKey none).allowKey false).addSign .value 1)
  | none =>
    if lexer.inFlow then .ok ((lexer.allowKey false).addSign .value 1)
    else if lexer.keyAllowed then
      .ok (((lexer.beginBlock .blockMappingStart).allowKey true).addSign .value 1)
    else .error (.alone "mapping values are not allowed in this context" lexer.mark)

def readAlias : Except YamlError Lexer := do
  let lexer := (← lexer.markKey).allowKey false
  let (name, next) ← anchorName "while scanning an alias" lexer.cursor
  return { lexer.add (.alias name) lexer.mark with cursor := next }

def readAnchor : Except YamlError Lexer := do
  let lexer := (← lexer.markKey).allowKey false
  let (name, next) ← anchorName "while scanning an anchor" lexer.cursor
  return { lexer.add (.anchor name) lexer.mark with cursor := next }

def readTag : Except YamlError Lexer := do
  let lexer := (← lexer.markKey).allowKey false
  let (name, next) ← TagName.read lexer.inFlow lexer.cursor
  return { lexer.add (.tag name) lexer.mark with cursor := next }

/-- Adds a scalar that has been read. -/
def addScalar (isPlain : Bool) (scalar : ScalarText) : Lexer :=
  { lexer.add (.scalar scalar.text isPlain) lexer.mark with cursor := scalar.next }

def readBlockScalar (isFolded : Bool) : Except YamlError Lexer := do
  let lexer := (← lexer.dropKey).allowKey true
  return lexer.addScalar false (← BlockScalar.read isFolded lexer.indent lexer.cursor)

def readQuoted (quotes : Quotes) : Except YamlError Lexer := do
  let lexer := (← lexer.markKey).allowKey false
  return lexer.addScalar false (← QuotedScalar.read quotes lexer.cursor)

/-- A key may follow a plain scalar only on a new line. -/
def readPlain : Except YamlError Lexer := do
  let lexer := (← lexer.markKey).allowKey false
  let scalar ← PlainScalar.read ⟨lexer.inFlow, lexer.indent + 1, lexer.mark⟩ lexer.cursor
  return (lexer.addScalar true scalar).allowKey scalar.isBroken

/-! ### The next token -/

/-- Skips blanks and a comment in a line, and the mark before a text.  Where a key may begin outside
brackets a tab does not count as a blank. -/
def skipLineGap (inFlow keyAllowed : Bool) (c : Cursor) : Cursor :=
  let c := c.skip (if c.column = 0 && c.peek 0 = some byteOrderMark then 1 else 0)
  let c := c.skipWhile fun ch => ch = ' ' || ((inFlow || !keyAllowed) && ch = '\t')
  c.skipWhile fun ch => c.peek 0 = some '#' && !isBreak ch

theorem length_skipLineGap_le (inFlow keyAllowed : Bool) (c : Cursor) :
    (skipLineGap inFlow keyAllowed c).rest.length ≤ c.rest.length := by
  refine Nat.le_trans (Cursor.length_skipWhile_le _ _) ?_
  refine Nat.le_trans (Cursor.length_skipWhile_le _ _) ?_
  simp

/-- Skips everything before the next token.  Outside brackets a key may begin on every new line. -/
def skipGaps (inFlow keyAllowed : Bool) (c : Cursor) : Cursor × Bool :=
  let inner := skipLineGap inFlow keyAllowed c
  match _h : inner.rest with
  | [] => (inner, keyAllowed)
  | ch :: _ =>
    if _hb : isBreak ch then skipGaps inFlow (keyAllowed || !inFlow) inner.skipBreak
    else (inner, keyAllowed)
termination_by c.rest.length
decreasing_by
  exact Nat.lt_of_lt_of_le (inner.length_skipBreak_lt _h _hb)
    (length_skipLineGap_le inFlow keyAllowed c)

/-- Characters that no plain scalar begins with. -/
def isIndicator (c : Char) : Bool := "-?:,[]\x7b\x7d#&*!|>'\"%@`".toList.contains c

/-- A plain scalar begins here. -/
def startsPlain : Bool :=
  let c := lexer.cursor
  let blankAt (ahead : Nat) : Bool := (c.peek ahead).any isBlank
  match c.peek 0 with
  | none => false
  | some ch =>
    !(isBlank ch || isBreak ch || isIndicator ch)
      || (ch = '-' && !blankAt 1)
      || (!lexer.inFlow && (ch = '?' || ch = ':') && !c.endsWord 1)

/-- Reads the token that begins here. -/
def readToken : Except YamlError Lexer :=
  let c := lexer.cursor
  let standsAlone := lexer.inFlow || c.endsWord 1
  match c.peek 0 with
  | none => lexer.readEnd
  | some ch =>
    if c.column = 0 && ch = '%' then lexer.readDirective
    else if c.startsMarker '-' then lexer.readMarker .documentStart
    else if c.startsMarker '.' then lexer.readMarker .documentEnd
    else if ch = '[' then lexer.openFlow .flowSequenceStart
    else if ch = '{' then lexer.openFlow .flowMappingStart
    else if ch = ']' then lexer.closeFlow .flowSequenceEnd
    else if ch = '}' then lexer.closeFlow .flowMappingEnd
    else if ch = ',' then lexer.readFlowEntry
    else if ch = '-' && c.endsWord 1 then lexer.readBlockEntry
    else if ch = '?' && standsAlone then lexer.readKey
    else if ch = ':' && standsAlone then lexer.readValue
    else if ch = '*' then lexer.readAlias
    else if ch = '&' then lexer.readAnchor
    else if ch = '!' then lexer.readTag
    else if ch = '|' && !lexer.inFlow then lexer.readBlockScalar false
    else if ch = '>' && !lexer.inFlow then lexer.readBlockScalar true
    else if ch = '\'' then lexer.readQuoted .single
    else if ch = '"' then lexer.readQuoted .double
    else if lexer.startsPlain then lexer.readPlain
    else .error (.inside "while scanning for the next token" lexer.mark
      "found character that cannot start any token" lexer.mark)

/-- Reads on up to the end of the next token. -/
def step : Except YamlError Lexer := do
  let (cursor, keyAllowed) := skipGaps lexer.inFlow lexer.keyAllowed lexer.cursor
  let lexer ← { lexer with cursor, keyAllowed }.dropStaleKeys
  (lexer.endBlocks lexer.column).readToken

/-! ### All tokens -/

/-- How many of the tokens that wait cannot turn out to be keys or to stand behind one. -/
def settled : Nat :=
  lexer.possibleKeys.foldl (fun n key => min n (key.number - lexer.given)) lexer.waiting.length

/-- Gives out the tokens that are settled. -/
def release : List Token × Lexer :=
  let n := lexer.settled
  (lexer.waiting.take n,
    { lexer with waiting := lexer.waiting.drop n, given := lexer.given + n })

/-- Reads the next token and settles what stands before it.  A text may be cut off by something
that cannot be read, which is reported as soon as the end is reached. -/
def next (cut : Option YamlError) : Except YamlError Lexer :=
  match lexer.step.bind dropStaleKeys, cut with
  | .ok lexer, some e => if lexer.cursor.isDone then .error e else .ok lexer
  | .error problem, some e =>
    .error (if problem.index? = some lexer.cursor.endIndex then e else problem)
  | result, none => result

/-- Reads tokens up to the end or to an error; every step takes one unit of fuel. -/
def tokensFrom (cut : Option YamlError) : Nat → Lexer → List Token × Option YamlError
  | 0, _ => ([], none)
  | fuel + 1, lexer =>
    if lexer.isEnded && lexer.waiting.isEmpty then ([], none)
    else match lexer.next cut with
      | .error e => ([], some e)
      | .ok lexer =>
        let (tokens, lexer) := lexer.release
        let (more, failure) := tokensFrom cut fuel lexer
        (tokens ++ more, failure)

end Lexer

/-- The tokens of a text that may be cut off, up to the first error if there is one.  Every step but
the last two reads a character at least. -/
def tokens (text : List Char) (cut : Option YamlError) : List Token × Option YamlError :=
  Lexer.tokensFrom cut (text.length + 3) (Lexer.ofText text)

end CloudLifecycle.Yaml

import CloudLifecycle.Yaml.Lexer

/-!
# Events

The events of a YAML text: its scalars and aliases with the begin and the end of every collection
and every document.  A `Reader` takes events from tokens; it holds what it expects next, the
innermost first.  What has been left out counts as an empty plain scalar.
-/

set_option autoImplicit false

namespace CloudLifecycle.Yaml

/-- What an alias can refer to, and the meaning of a tag. -/
structure Properties where
  anchor : Option String
  tag : Option Tag
deriving DecidableEq, Repr

/-- Something that happens in a text. -/
inductive Event where
  | alias (name : String)
  | scalar (properties : Properties) (text : String) (isPlain : Bool)
  | sequenceStart (properties : Properties)
  | sequenceEnd
  | mappingStart (properties : Properties)
  | mappingEnd
  | documentEnd
  | streamEnd
deriving DecidableEq, Repr

/-- No anchor and no tag. -/
def Properties.none : Properties := ⟨Option.none, Option.none⟩

/-- What has been left out. -/
def Event.empty : Event := .scalar .none "" true

/-- What a reader expects; collections keep the place where they began. -/
inductive Expected where
  /-- A document or the end; only the first document needs no sign before it. -/
  | document (isFirst : Bool)
  /-- What follows the sign before a document. -/
  | content
  | documentEnd
  | node (isBlock isIndentless : Bool)
  | blockEntry (start : Mark)
  /-- An entry of a sequence that is not indented more than its key. -/
  | indentlessEntry
  | blockKey (start : Mark)
  | blockValue (start : Mark)
  | flowEntry (isFirst : Bool) (start : Mark)
  /-- A key in a sequence between brackets, which makes a mapping of one pair. -/
  | pairKey
  | pairValue
  | pairEnd
  | flowKey (isFirst : Bool) (start : Mark)
  | flowValue (isGiven : Bool) (start : Mark)
deriving DecidableEq, Repr

/-- Tokens with what is expected of them. -/
structure Reader where
  tokens : List Token
  /-- Why there are no more tokens, if something is wrong. -/
  failure : Option YamlError
  expected : List Expected
  /-- Meanings of the handles of tags. -/
  handles : List (String × List UInt8)
deriving DecidableEq, Repr

/-- What a step of a reader gives. -/
abbrev ReaderStep : Type := Except YamlError (List Event × Reader)

namespace Reader

variable (reader : Reader)

/-- The error of a text that has no more tokens. -/
def exhausted : YamlError :=
  reader.failure.getD (.alone "did not find expected <stream-start>" .start)

/-- The next token. -/
def peek : Except YamlError Token :=
  match reader.tokens with
  | [] => .error reader.exhausted
  | token :: _ => .ok token

/-- Goes on to the token after the next one. -/
def advance : Reader := { reader with tokens := reader.tokens.tail }

/-- Expects something before everything else. -/
def expect (expected : List Expected) : Reader :=
  { reader with expected := expected ++ reader.expected }

/-- An event without a change of what is expected. -/
def emit (event : Event) : ReaderStep := .ok ([event], reader)

/-- No event. -/
def silently : ReaderStep := .ok ([], reader)

/-! ### Documents -/

/-- Handles that have a meaning in every document. -/
def standardHandles : List (String × List UInt8) :=
  [("!", Text.utf8 "!"), ("!!", Text.utf8 "tag:yaml.org,2002:")]

/-- A version that can be read. -/
def isSupported (major minor : Nat) : Bool := major = 1 && (minor = 1 || minor = 2)

/-- Takes in the directives before a document. -/
def readDirectives (failure : YamlError) (hasVersion : Bool)
    (handles : List (String × List UInt8)) :
    List Token → Except YamlError (List (String × List UInt8) × List Token)
  | [] => .error failure
  | ⟨.directive (.version major minor), mark⟩ :: rest =>
    if hasVersion then .error (.alone "found duplicate %YAML directive" mark)
    else if isSupported major minor then readDirectives failure true handles rest
    else .error (.alone "found incompatible YAML document" mark)
  | ⟨.directive (.tag handle meaning), mark⟩ :: rest =>
    if (handles.lookup handle).isSome then
      .error (.alone "found duplicate %TAG directive" mark)
    else readDirectives failure hasVersion ((handle, meaning) :: handles) rest
  | tokens => .ok (handles, tokens)

/-- The token comes before the sign of a document. -/
def isExplicit : TokenKind → Bool
  | .directive _ => true
  | .documentStart => true
  | _ => false

def startDocument (isFirst : Bool) : ReaderStep := do
  let reader := if isFirst then reader
    else { reader with tokens := reader.tokens.dropWhile (·.kind = .documentEnd) }
  let token ← reader.peek
  if token.kind = .streamEnd then return ([.streamEnd], reader.advance)
  if isFirst && !isExplicit token.kind then
    return ← ({ reader with handles := standardHandles }.expect
      [.node true false, .documentEnd]).silently
  let (handles, tokens) ← readDirectives reader.exhausted false [] reader.tokens
  let reader := { reader with tokens, handles := handles ++ standardHandles }
  let token ← reader.peek
  if token.kind ≠ .documentStart then
    throw (.alone "did not find expected <document start>" token.mark)
  (reader.advance.expect [.content, .documentEnd]).silently

/-- The document has no content. -/
def endsDocument : TokenKind → Bool
  | .directive _ => true
  | .documentStart => true
  | .documentEnd => true
  | .streamEnd => true
  | _ => false

def readContent : ReaderStep := do
  if endsDocument (← reader.peek).kind then reader.emit .empty
  else (reader.expect [.node true false]).silently

def endDocument : ReaderStep := do
  let token ← reader.peek
  let reader := if token.kind = .documentEnd then reader.advance else reader
  (reader.expect [.document false]).emit .documentEnd

/-! ### Nodes -/

/-- The meaning of a tag. -/
def resolveTag (start : Mark) (name : TagName) (mark : Mark) : Except YamlError Tag :=
  if name.handle.isEmpty then .ok (.ofBytes name.suffix)
  else match reader.handles.lookup name.handle with
    | some meaning => .ok (.ofBytes (meaning ++ name.suffix))
    | none => .error (.inside "while parsing a node" start "found undefined tag handle" mark)

/-- Reads an anchor if one is there. -/
def readAnchor : Option String × Reader :=
  match reader.tokens with
  | ⟨.anchor name, _⟩ :: _ => (some name, reader.advance)
  | _ => (none, reader)

/-- Reads a tag if one is there. -/
def readTag : Option (TagName × Mark) × Reader :=
  match reader.tokens with
  | ⟨.tag name, mark⟩ :: _ => (some (name, mark), reader.advance)
  | _ => (none, reader)

/-- Reads an anchor and a tag, in any order.  The tag gets its meaning once there is a token after
both. -/
def readProperties (start : Mark) : Except YamlError (Properties × Reader) := do
  let (early, reader) := reader.readAnchor
  discard reader.peek
  let (tag, reader) := reader.readTag
  discard reader.peek
  let (late, reader) := if early.isNone then reader.readAnchor else (none, reader)
  discard reader.peek
  let meaning ← tag.mapM fun (name, mark) => reader.resolveTag start name mark
  return (⟨early.or late, meaning⟩, reader)

def readNode (isBlock isIndentless : Bool) : ReaderStep := do
  let first ← reader.peek
  if let .alias name := first.kind then return ([.alias name], reader.advance)
  let (properties, reader) ← reader.readProperties first.mark
  let token ← reader.peek
  match token.kind with
  | .scalar text isPlain =>
    reader.advance.emit (.scalar properties text isPlain)
  | .flowSequenceStart =>
    (reader.advance.expect [.flowEntry true token.mark]).emit (.sequenceStart properties)
  | .flowMappingStart =>
    (reader.advance.expect [.flowKey true token.mark]).emit (.mappingStart properties)
  | kind =>
    if isIndentless && kind = .blockEntry then
      (reader.expect [.indentlessEntry]).emit (.sequenceStart properties)
    else if isBlock && kind = .blockSequenceStart then
      (reader.advance.expect [.blockEntry token.mark]).emit (.sequenceStart properties)
    else if isBlock && kind = .blockMappingStart then
      (reader.advance.expect [.blockKey token.mark]).emit (.mappingStart properties)
    else if properties ≠ .none then reader.emit (.scalar properties "" true)
    else throw (.inside
      (if isBlock then "while parsing a block node" else "while parsing a flow node")
      first.mark "did not find expected node content" token.mark)

/-! ### Block collections -/

/-- Reads a node unless the next token shows that it has been left out. -/
def nodeUnless (isLeftOut : TokenKind → Bool) (isBlock isIndentless : Bool) : ReaderStep := do
  if isLeftOut (← reader.peek).kind then reader.emit .empty
  else (reader.expect [.node isBlock isIndentless]).silently

/-- The next token ends an entry of a block sequence. -/
def endsBlockEntry (kind : TokenKind) : Bool := kind = .blockEntry || kind = .blockEnd

def readBlockEntry (start : Mark) : ReaderStep := do
  let token ← reader.peek
  match token.kind with
  | .blockEntry =>
    (reader.advance.expect [.blockEntry start]).nodeUnless endsBlockEntry true false
  | .blockEnd => reader.advance.emit .sequenceEnd
  | _ => throw (.inside "while parsing a block collection" start
      "did not find expected '-' indicator" token.mark)

/-- The next token ends a part of a block mapping. -/
def endsBlockPart (kind : TokenKind) : Bool :=
  kind = .key || kind = .value || kind = .blockEnd

/-- The next token ends an entry of a sequence that is not indented. -/
def endsIndentless (kind : TokenKind) : Bool := kind = .blockEntry || endsBlockPart kind

def readIndentlessEntry : ReaderStep := do
  if (← reader.peek).kind = .blockEntry then
    (reader.advance.expect [.indentlessEntry]).nodeUnless endsIndentless true false
  else reader.emit .sequenceEnd

def readBlockKey (start : Mark) : ReaderStep := do
  let token ← reader.peek
  match token.kind with
  | .key => (reader.advance.expect [.blockValue start]).nodeUnless endsBlockPart true true
  | .blockEnd => reader.advance.emit .mappingEnd
  | _ =>
    throw (.inside "while parsing a block mapping" start "did not find expected key" token.mark)

def readBlockValue (start : Mark) : ReaderStep := do
  if (← reader.peek).kind = .value then
    (reader.advance.expect [.blockKey start]).nodeUnless endsBlockPart true true
  else (reader.expect [.blockKey start]).emit .empty

/-! ### Collections between brackets -/

/-- Goes past the comma before an entry that is not the first. -/
def pastComma (isFirst : Bool) (reading : String) (start : Mark) (problem : String) :
    Except YamlError Reader := do
  let token ← reader.peek
  if isFirst then return reader
  if token.kind = .flowEntry then return reader.advance
  throw (.inside reading start problem token.mark)

def readFlowEntry (isFirst : Bool) (start : Mark) : ReaderStep := do
  if (← reader.peek).kind = .flowSequenceEnd then return ← reader.advance.emit .sequenceEnd
  let reader ← reader.pastComma isFirst "while parsing a flow sequence" start
    "did not find expected ',' or ']'"
  match (← reader.peek).kind with
  | .key => (reader.advance.expect [.pairKey, .flowEntry false start]).emit (.mappingStart .none)
  | .flowSequenceEnd => reader.advance.emit .sequenceEnd
  | _ => (reader.expect [.node false false, .flowEntry false start]).silently

/-- The next token ends an entry of a sequence between brackets. -/
def endsEntry (kind : TokenKind) : Bool := kind = .flowEntry || kind = .flowSequenceEnd

/-- Reads the key of a pair; the token that shows that it has been left out belongs to it. -/
def readPairKey : ReaderStep := do
  let token ← reader.peek
  if token.kind = .value || endsEntry token.kind then
    (reader.advance.expect [.pairValue]).emit .empty
  else (reader.expect [.node false false, .pairValue]).silently

def readPairValue : ReaderStep := do
  let reader := reader.expect [.pairEnd]
  if (← reader.peek).kind = .value then reader.advance.nodeUnless endsEntry false false
  else reader.emit .empty

/-- The next token ends a part of a mapping between brackets. -/
def endsFlowPart (kind : TokenKind) : Bool := kind = .flowEntry || kind = .flowMappingEnd

/-- The next token ends a key that is marked as one. -/
def endsFlowKey (kind : TokenKind) : Bool := kind = .value || endsFlowPart kind

def readFlowKey (isFirst : Bool) (start : Mark) : ReaderStep := do
  if (← reader.peek).kind = .flowMappingEnd then return ← reader.advance.emit .mappingEnd
  let reader ← reader.pastComma isFirst "while parsing a flow mapping" start
    "did not find expected ',' or '\x7d'"
  match (← reader.peek).kind with
  | .key => (reader.advance.expect [.flowValue true start]).nodeUnless endsFlowKey false false
  | .flowMappingEnd => reader.advance.emit .mappingEnd
  | _ => (reader.expect [.node false false, .flowValue false start]).silently

def readFlowValue (isGiven : Bool) (start : Mark) : ReaderStep := do
  let reader := reader.expect [.flowKey false start]
  if isGiven && (← reader.peek).kind = .value then
    reader.advance.nodeUnless endsFlowPart false false
  else
    discard reader.peek
    reader.emit .empty

/-! ### All events -/

/-- Reads what is expected. -/
def read : Expected → ReaderStep
  | .document isFirst => reader.startDocument isFirst
  | .content => reader.readContent
  | .documentEnd => reader.endDocument
  | .node isBlock isIndentless => reader.readNode isBlock isIndentless
  | .blockEntry start => reader.readBlockEntry start
  | .indentlessEntry => reader.readIndentlessEntry
  | .blockKey start => reader.readBlockKey start
  | .blockValue start => reader.readBlockValue start
  | .flowEntry isFirst start => reader.readFlowEntry isFirst start
  | .pairKey => reader.readPairKey
  | .pairValue => reader.readPairValue
  | .pairEnd => reader.emit .mappingEnd
  | .flowKey isFirst start => reader.readFlowKey isFirst start
  | .flowValue isGiven start => reader.readFlowValue isGiven start

/-- Reads events until nothing is expected; every step takes one unit of fuel. -/
def eventsFrom : Nat → Reader → List Event × Option YamlError
  | 0, _ => ([], none)
  | fuel + 1, reader =>
    match reader.expected with
    | [] => ([], none)
    | next :: expected =>
      match { reader with expected }.read next with
      | .error e => ([], some e)
      | .ok (events, reader) =>
        let (more, failure) := eventsFrom fuel reader
        (events ++ more, failure)

end Reader

/-- The events of a text that may be cut off, up to the first error if there is one.  A token is
taken by one step, after at most seven steps that only change what is expected. -/
def events (text : List Char) (cut : Option YamlError) : List Event × Option YamlError :=
  let (tokens, failure) := tokens text cut
  Reader.eventsFrom (8 * tokens.length + 8)
    ⟨tokens, failure, [.document true], Reader.standardHandles⟩

end CloudLifecycle.Yaml

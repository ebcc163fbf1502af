import CloudLifecycle.Yaml.Core

/-!
# The value of a YAML text

`parse` gives the value of a text with one document at most; an empty text is null.  Aliases stand
for what they refer to, keys are the texts of scalars, and of several pairs with one key the last
counts.  Collections may be nested a hundred and twenty-eight times, and no more than a hundred
aliases may be followed for every part of a document.  What is wrong first in the order of the
text is reported, but a control character before everything else in the block of bytes in which it
is read.
-/

set_option autoImplicit false

namespace CloudLifecycle.Yaml

/-! ### Documents -/

/-- A part of a document; an alias has the number of its anchor. -/
inductive Part where
  | alias (number : Nat)
  | scalar (tag : Option Tag) (text : String) (isPlain : Bool)
  | sequenceStart (tag : Option Tag)
  | sequenceEnd
  | mappingStart (tag : Option Tag)
  | mappingEnd
deriving DecidableEq, Repr

/-- A document, or the beginning of one. -/
structure Document where
  parts : Array Part
  /-- Positions that aliases refer to, by number; the first entry of a number counts. -/
  targets : List (Nat × Nat)
  /-- Why the document is not complete, if it is not. -/
  failure : Option YamlError
deriving DecidableEq, Repr

/-- What has been read of a document. -/
structure Draft where
  /-- Numbers of the anchors. -/
  anchors : Dict Nat
  document : Document
deriving DecidableEq

namespace Draft

/-- Nothing of a document. -/
def empty : Draft := ⟨Dict.empty, ⟨#[], [], none⟩⟩

variable (draft : Draft)

/-- The document is not complete. -/
def fail (e : YamlError) : Document := { draft.document with failure := some e }

/-- Goes on with a part. -/
def add (part : Part) : Draft :=
  { draft with document := { draft.document with parts := draft.document.parts.push part } }

/-- Gives the next part an anchor.  Anchors are numbered by how many names are in use; so a number
can be given again after a name was used twice, and then stands for what it was given to last. -/
def anchor : Option String → Draft
  | none => draft
  | some name =>
    let number := draft.anchors.size
    ⟨draft.anchors.insert name number, { draft.document with
      targets := (number, draft.document.parts.size) :: draft.document.targets }⟩

/-- Goes on with events up to the end of the document; gives it and the events after it. -/
def complete (failure : Option YamlError) : Draft → List Event → Document × List Event
  | draft, [] => ({ draft.document with failure }, [])
  | draft, .documentEnd :: rest => (draft.document, rest)
  | draft, .streamEnd :: rest => (draft.document, .streamEnd :: rest)
  | draft, .alias name :: rest =>
    match draft.anchors.find? name with
    | none => (draft.fail .unknownAnchor, rest)
    | some number => (draft.add (.alias number)).complete failure rest
  | draft, .scalar properties text isPlain :: rest =>
    let draft := draft.anchor properties.anchor
    (draft.add (.scalar properties.tag text isPlain)).complete failure rest
  | draft, .sequenceStart properties :: rest =>
    ((draft.anchor properties.anchor).add (.sequenceStart properties.tag)).complete failure rest
  | draft, .sequenceEnd :: rest => (draft.add .sequenceEnd).complete failure rest
  | draft, .mappingStart properties :: rest =>
    ((draft.anchor properties.anchor).add (.mappingStart properties.tag)).complete failure rest
  | draft, .mappingEnd :: rest => (draft.add .mappingEnd).complete failure rest

end Draft

/-! ### Values -/

namespace Document

/-- A computation that counts the aliases that it follows. -/
abbrev Reading : Type → Type := StateT Nat (Except YamlError)

/-- Reads the value at a position, under its path, and gives the position after it. -/
abbrev ValueAt : Type := YamlPath → Nat → Reading (Json × Nat)

variable (document : Document)

/-- The part at a position. -/
def part (position : Nat) : Reading Part :=
  match document.parts[position]? with
  | some part => return part
  | none => throw (document.failure.getD .incomplete)

/-- The position that an alias refers to. -/
def follow (number : Nat) : Reading Nat := do
  modify (· + 1)
  if (← get) > 100 * document.parts.size then throw .tooManyAliases
  match document.targets.lookup number with
  | some position => return position
  | none => throw .unknownAnchor

/-- Reads the items of a sequence; every one takes one unit of fuel. -/
def items (value : ValueAt) (path : YamlPath) : Nat → Nat → Nat → Reading (List Json × Nat)
  | 0, _, _ => throw .incomplete
  | fuel + 1, index, position => do
    match ← document.part position with
    | .sequenceEnd => return ([], position + 1)
    | _ =>
      let (item, position) ← value (.index index :: path) position
      let (more, position) ← items value path fuel (index + 1) position
      return (item :: more, position)

/-- The text of a key. -/
def keyText (path : YamlPath) (expected : String) : Part → Reading String
  | .scalar _ text _ => return text
  | .sequenceStart _ => throw (.misfit path (.wrongKey "sequence" expected))
  | _ => throw (.misfit path (.wrongKey "map" expected))

/-- Reads a key and gives it with the step to its value and the position of the value. -/
def key (path : YamlPath) (expected : String) (position : Nat) :
    Reading (String × YamlStep × Nat) := do
  match ← document.part position with
  | .alias number =>
    let target ← document.follow number
    return (← keyText path expected (← document.part target), .unnamed, position + 1)
  | part =>
    let text ← keyText path expected part
    return (text, .key text, position + 1)

/-- Reads the pairs of a mapping; every one takes one unit of fuel. -/
def pairs (value : ValueAt) (path : YamlPath) :
    Nat → String → Nat → Reading (List (String × Json) × Nat)
  | 0, _, _ => throw .incomplete
  | fuel + 1, expected, position => do
    match ← document.part position with
    | .mappingEnd => return ([], position + 1)
    | _ =>
      let (key, step, position) ← document.key path expected position
      let (item, position) ← value (step :: path) position
      let (more, position) ← pairs value path fuel "a string" position
      return ((key, item) :: more, position)

/-- A collection can have a standard tag only, which is not looked at. -/
def checkTag (path : YamlPath) (tag : Option Tag) : Reading Unit :=
  if tag = some .foreign then throw (.misfit path .localTag) else return

/-- The way to read the parts of a collection, unless it is nested too deeply. -/
def enter (inner : Option ValueAt) : Reading ValueAt :=
  match inner with
  | none => throw .tooDeep
  | some value => return value

/-- Reads a value that is no alias. -/
def node (inner : Option ValueAt) (path : YamlPath) (position : Nat) : Reading (Json × Nat) := do
  let fuel := document.parts.size + 1
  match ← document.part position with
  | .scalar tag text isPlain =>
    let value ← (scalarValue tag text isPlain).mapError (YamlError.misfit path)
    return (value, position + 1)
  | .sequenceStart tag =>
    checkTag path tag
    let (found, position) ← document.items (← enter inner) path fuel 0 (position + 1)
    return (.list found, position)
  | .mappingStart tag =>
    checkTag path tag
    let (found, position) ←
      document.pairs (← enter inner) path fuel "a string key" (position + 1)
    return (Json.ofFields found, position)
  | _ => throw .incomplete

/-- Reads a value. -/
def nodeOrAlias (inner : Option ValueAt) : ValueAt := fun path position => do
  match ← document.part position with
  | .alias number =>
    let (value, _) ← document.node inner path (← document.follow number)
    return (value, position + 1)
  | _ => document.node inner path position

/-- Reads a value with collections nested up to some depth. -/
def valueAt : Nat → ValueAt
  | 0 => document.nodeOrAlias none
  | depth + 1 => document.nodeOrAlias (some (valueAt depth))

/-- Levels of nesting that a value may have. -/
def maxDepth : Nat := 128

/-- The value of a document. -/
def value : Except YamlError Json := do
  let ((found, _), _) ← (document.valueAt maxDepth [] 0).run 0
  match document.failure with
  | some e => throw e
  | none => return found

end Document

/-! ### Texts -/

/-- Bytes that are read at a time. -/
def blockSize : Nat := 16384

/-- A block of a text: how many bytes and characters come before it. -/
structure Block where
  offset : Nat
  count : Nat
deriving DecidableEq, Repr

/-- The first control character: the bytes before it and the characters before the block in which
it is read.  The arguments are the block at hand and the place reached in it. -/
def firstControl? (block place : Block) : List Char → Option (Nat × Nat)
  | [] => none
  | c :: rest =>
    let after := place.offset + c.utf8Size
    let block := if block.offset + blockSize < after then place else block
    if isAllowed c then firstControl? block ⟨after, place.count + 1⟩ rest
    else some (place.offset, block.count)

/-- The part of a text that can be read, and what is wrong with the part after it: a control
character, which is noticed with the whole block in which it stands. -/
def readable (text : List Char) : List Char × Option YamlError :=
  match firstControl? ⟨0, 0⟩ ⟨0, 0⟩ text with
  | some (offset, count) => (text.take count, some (.control offset))
  | none => (text, none)

/-- The value of the only document of a text. -/
def ofEvents (events : List Event) (failure : Option YamlError) : Except YamlError Json := do
  if events = [.streamEnd] then return .null
  let (document, rest) := Draft.empty.complete failure events
  let value ← document.value
  if rest = [.streamEnd] then return value else throw .severalDocuments

/-- The value of a text. -/
def parse (text : String) : Except YamlError Json :=
  let (text, cut) := readable text.toList
  let (events, failure) := events text cut
  ofEvents events failure

end CloudLifecycle.Yaml

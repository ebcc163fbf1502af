import CloudLifecycle.Text.Utf8
import CloudLifecycle.Yaml.Scalar

/-!
# Anchors, tags and directives

A tag is written with a handle, which a directive may give a meaning, or in full between angle
brackets.  A character that cannot stand in a tag is given by its bytes in hexadecimal digits; the
byte zero ends a part of a tag.
-/

set_option autoImplicit false

namespace CloudLifecycle.Yaml

/-- What a tag says about a value. -/
inductive Tag where
  | boolean
  | integer
  | float
  | null
  /-- Any other tag in full. -/
  | other
  /-- A tag that only the writer of a text knows. -/
  | foreign
  /-- Such a tag that is not even a text, which says nothing. -/
  | illegible
deriving DecidableEq, Repr

/-- What the bytes of a tag in full say. -/
def Tag.ofBytes (bytes : List UInt8) : Tag :=
  match Text.decode? bytes with
  | some "tag:yaml.org,2002:bool" => .boolean
  | some "tag:yaml.org,2002:int" => .integer
  | some "tag:yaml.org,2002:float" => .float
  | some "tag:yaml.org,2002:null" => .null
  | some text => if text.startsWith "!" then .foreign else .other
  | none => if bytes.head? = some '!'.toUInt8 then .illegible else .other

/-- A tag as it is written: a handle, which may be empty, and the bytes that follow it. -/
structure TagName where
  handle : String
  suffix : List UInt8
deriving DecidableEq, Repr

/-- A line before a document. -/
inductive Directive where
  | version (major minor : Nat)
  | tag (handle : String) (meaning : List UInt8)
deriving DecidableEq, Repr

/-! ### Anchors -/

/-- Characters that may follow an anchor directly. -/
def mayFollowAnchor (c : Char) : Bool :=
  isBlank c || isBreak c || "?:,]\x7d%@`".toList.contains c

/-- Reads the name of an anchor or an alias after its sign. -/
def anchorName (reading : String) (c : Cursor) : Except YamlError (String × Cursor) :=
  let (name, next) := c.skip.span isWord
  if name.isEmpty || !(next.peek 0).all mayFollowAnchor then
    .error (.inside reading c.mark "did not find expected alphabetic or numeric character"
      next.mark)
  else .ok (String.ofList name, next)

/-! ### Tags -/

namespace TagName

/-- Which part of a text a tag or a part of it stands in. -/
structure Reading where
  inDirective : Bool
  start : Mark
deriving DecidableEq, Repr

namespace Reading

variable (reading : Reading)

def scanText : String :=
  if reading.inDirective then "while scanning a tag directive" else "while scanning a tag"

def parseText : String :=
  if reading.inDirective then "while parsing a %TAG directive" else "while parsing a tag"

def scanFail (problem : String) (c : Cursor) : YamlError :=
  .inside reading.scanText reading.start problem c.mark

def parseFail (problem : String) (c : Cursor) : YamlError :=
  .inside reading.parseText reading.start problem c.mark

end Reading

/-- Bytes of the character that a first byte begins. -/
def width (byte : Nat) : Nat :=
  if byte < 0x80 then 1
  else if 0xC0 ≤ byte && byte < 0xE0 then 2
  else if 0xE0 ≤ byte && byte < 0xF0 then 3
  else if 0xF0 ≤ byte && byte < 0xF8 then 4
  else 0

/-- Reads one byte that is given by its digits. -/
def escapedByte (reading : Reading) (c : Cursor) : Except YamlError Nat :=
  match c.peek 0, (c.peek 1).bind Text.hexValue?, (c.peek 2).bind Text.hexValue? with
  | some '%', some high, some low => .ok (16 * high + low)
  | _, _, _ => .error (reading.parseFail "did not find URI escaped octet" c)

/-- Reads further bytes of a character. -/
def trailingBytes (reading : Reading) : Nat → Cursor → Except YamlError (List UInt8)
  | 0, _ => .ok []
  | n + 1, c => do
    let byte ← escapedByte reading c
    if byte < 0x80 || 0xC0 ≤ byte then
      throw (reading.parseFail "found an incorrect trailing UTF-8 octet" c)
    return UInt8.ofNat byte :: (← trailingBytes reading n (c.skip 3))

/-- Reads a character that is given by its bytes, and their number. -/
def escapedChar (reading : Reading) (c : Cursor) : Except YamlError (List UInt8) := do
  let first ← escapedByte reading c
  if width first = 0 then
    throw (reading.parseFail "found an incorrect leading UTF-8 octet" c)
  return UInt8.ofNat first :: (← trailingBytes reading (width first - 1) (c.skip 3))

/-- A character of a tag; signs of a collection can stand only in some tags. -/
def isTagChar (withSigns : Bool) (c : Char) : Bool :=
  isWord c || ";/?:@&=+$.%!~*'()".toList.contains c || (withSigns && ",[]".toList.contains c)

/-- Reads the characters of a tag; every one takes one unit of fuel. -/
def characters (reading : Reading) (withSigns : Bool) :
    Nat → Cursor → Except YamlError (List UInt8 × Cursor)
  | 0, c => .ok ([], c)
  | fuel + 1, c =>
    match c.peek 0 with
    | none => .ok ([], c)
    | some ch =>
      if ch = '%' then do
        let bytes ← escapedChar reading c
        let (more, c) ← characters reading withSigns fuel (c.skip (3 * bytes.length))
        return (bytes ++ more, c)
      else if isTagChar withSigns ch then do
        let (more, c) ← characters reading withSigns fuel c.skip
        return (Text.utf8 (String.ofList [ch]) ++ more, c)
      else .ok ([], c)

/-- Reads a part of a tag after what stands before it; the whole must not be empty. -/
def readText (reading : Reading) (withSigns : Bool) (before : String) (c : Cursor) :
    Except YamlError (List UInt8 × Cursor) := do
  let (bytes, next) ← characters reading withSigns c.rest.length c
  if before.isEmpty && bytes.isEmpty then
    throw (reading.parseFail "did not find expected tag URI" next)
  return (Text.utf8 (before.drop 1).toString ++ bytes.takeWhile (· ≠ 0), next)

/-- Reads a handle, or the beginning of one. -/
def readHandle (reading : Reading) (c : Cursor) : Except YamlError (String × Cursor) := do
  if c.peek 0 ≠ some '!' then throw (reading.scanFail "did not find expected '!'" c)
  let (name, next) := c.skip.span isWord
  let handle := "!" ++ String.ofList name
  if next.peek 0 = some '!' then return (handle ++ "!", next.skip)
  if reading.inDirective && !name.isEmpty then
    throw (.inside "while parsing a tag directive" reading.start "did not find expected '!'"
      next.mark)
  return (handle, next)

/-- A handle that is closed by a sign of its own. -/
def isClosed (handle : String) : Bool := handle ≠ "!" && handle.endsWith "!"

/-- Reads a tag with a handle; what is no closed handle belongs to what follows the first sign. -/
def readShort (reading : Reading) (c : Cursor) : Except YamlError (TagName × Cursor) := do
  let (handle, c) ← readHandle reading c
  if isClosed handle then
    let (suffix, c) ← readText reading false "" c
    return (⟨handle, suffix⟩, c)
  else
    let (suffix, c) ← readText reading false handle c
    return (if suffix.isEmpty then ⟨"", Text.utf8 "!"⟩ else ⟨"!", suffix⟩, c)

/-- Reads a tag in full. -/
def readFull (reading : Reading) (c : Cursor) : Except YamlError (TagName × Cursor) := do
  let (suffix, c) ← readText reading true "" (c.skip 2)
  if c.peek 0 ≠ some '>' then throw (reading.scanFail "did not find the expected '>'" c)
  return (⟨"", suffix⟩, c.skip)

/-- Reads a tag. -/
def read (inFlow : Bool) (c : Cursor) : Except YamlError (TagName × Cursor) := do
  let reading : Reading := ⟨false, c.mark⟩
  let (name, next) ← if c.peek 1 = some '<' then readFull reading c else readShort reading c
  if next.endsWord 0 || (inFlow && next.peek 0 = some ',') then return (name, next)
  throw (reading.scanFail "did not find expected whitespace or line break" next)

end TagName

/-! ### Directives -/

namespace Directive

/-- Reads the number of a version, which has at most nine digits. -/
def versionPart (start : Mark) (c : Cursor) : Except YamlError (Nat × Cursor) :=
  let (digits, next) := c.span Char.isDigit
  let fail (problem : String) (c : Cursor) : YamlError :=
    .inside "while scanning a %YAML directive" start problem c.mark
  if digits.length > 9 then .error (fail "found extremely long version number" (c.skip 9))
  else if digits.isEmpty then .error (fail "did not find expected version number" next)
  else .ok (digits.foldl (fun n d => 10 * n + (d.toNat - '0'.toNat)) 0, next)

/-- Reads a version. -/
def readVersion (start : Mark) (c : Cursor) : Except YamlError (Directive × Cursor) := do
  let (major, c) ← versionPart start (c.skipWhile isBlank)
  if c.peek 0 ≠ some '.' then
    throw (.inside "while scanning a %YAML directive" start
      "did not find expected digit or '.' character" c.mark)
  let (minor, c) ← versionPart start c.skip
  return (.version major minor, c)

/-- Reads the meaning of a handle. -/
def readTag (start : Mark) (c : Cursor) : Except YamlError (Directive × Cursor) := do
  let reading : TagName.Reading := ⟨true, start⟩
  let fail (problem : String) (c : Cursor) : YamlError :=
    .inside "while scanning a %TAG directive" start problem c.mark
  let (handle, c) ← TagName.readHandle reading (c.skipWhile isBlank)
  if !(c.peek 0).any isBlank then throw (fail "did not find expected whitespace" c)
  let (meaning, c) ← TagName.readText reading true "" (c.skipWhile isBlank)
  if !c.endsWord 0 then throw (fail "did not find expected whitespace or line break" c)
  return (.tag handle meaning, c)

/-- Reads a directive up to the end of its line. -/
def read (c : Cursor) : Except YamlError (Directive × Cursor) := do
  let start := c.mark
  let fail (problem : String) (c : Cursor) : YamlError :=
    .inside "while scanning a directive" start problem c.mark
  let (name, c) := c.skip.span isWord
  if name.isEmpty then throw (fail "could not find expected directive name" c)
  if !c.endsWord 0 then throw (fail "found unexpected non-alphabetical character" c)
  let (directive, c) ← match String.ofList name with
    | "YAML" => readVersion start c
    | "TAG" => readTag start c
    | _ => throw (fail "found unknown directive name" c)
  let c := c.skipComment
  if !c.endsLine then throw (fail "did not find expected comment or line break" c)
  return (directive, c.skipBreak)

end Directive

end CloudLifecycle.Yaml

import CloudLifecycle.Text.Digits
import CloudLifecycle.Yaml.Folding

/-!
# Plain and quoted scalars

A plain scalar ends before a comment, before a colon with a blank after it, where the indentation
falls back, and between brackets also before the signs of a collection.  A quoted scalar ends at its
quote; between double quotes a backslash starts an escape.
-/

set_option autoImplicit false

namespace CloudLifecycle.Yaml

/-- A scalar that has been read, and what follows it. -/
structure ScalarText where
  text : String
  next : Cursor
  /-- A line break stands between the scalar and what follows. -/
  isBroken : Bool
deriving DecidableEq, Repr

/-- Where a scalar stands. -/
structure ScalarPlace where
  /-- The scalar stands between brackets. -/
  inFlow : Bool
  /-- The least column of lines that go on with the scalar. -/
  indent : Int
  start : Mark
deriving DecidableEq, Repr

/-! ### Plain scalars -/

namespace PlainScalar

/-- Signs of a collection between brackets. -/
def isFlowSign (c : Char) : Bool := c = ',' || c = '[' || c = ']' || c = '{' || c = '}'

def fail (place : ScalarPlace) (problem : String) (c : Cursor) : YamlError :=
  .inside "while scanning a plain scalar" place.start problem c.mark

/-- The scalar ends before a word after a gap. -/
def endsAtGap (place : ScalarPlace) (c : Cursor) : Bool :=
  c.startsDocumentMarker || c.peek 0 = some '#'
    || (!place.inFlow && (c.column : Int) < place.indent)

/-- The scalar ends before a character of a word. -/
def endsAtSign (place : ScalarPlace) (c : Cursor) : Bool :=
  (c.peek 0 = some ':' && c.endsWord 1) || (place.inFlow && (c.peek 0).any isFlowSign)

/-- A colon directly before a sign of a collection. -/
def isStrayColon (place : ScalarPlace) (c : Cursor) : Bool :=
  place.inFlow && c.peek 0 = some ':' && (c.peek 1).any fun s => isFlowSign s || s = '?'

/-- A tab stands where the line has to be indented by spaces. -/
def isTabbed (place : ScalarPlace) (f : Folded) (c : Cursor) : Bool :=
  f.isBroken && (c.column : Int) < place.indent && c.peek 0 = some '\t'

/-- Reads on. -/
def readFrom (place : ScalarPlace) (f : Folded) (c : Cursor) : Except YamlError ScalarText :=
  match _h : c.rest with
  | [] => .ok ⟨f.words, c, f.isBroken⟩
  | ch :: _ =>
    if _hb : isBreak ch then readFrom place (f.addBreak c.breakText) c.skipBreak
    else if isBlank ch then
      if isTabbed place f c then
        .error (fail place "found a tab character that violates indentation" c)
      else readFrom place (f.addBlank ch) c.skip
    else if f.hasGap && endsAtGap place c then .ok ⟨f.words, c, f.isBroken⟩
    else if isStrayColon place c then .error (fail place "found unexpected ':'" c)
    else if endsAtSign place c then .ok ⟨f.words, c, f.isBroken⟩
    else readFrom place (f.add [ch]) c.skip
termination_by c.rest.length
decreasing_by
  · exact c.length_skipBreak_lt _h _hb
  · exact c.length_skip_lt _h (by decide)
  · exact c.length_skip_lt _h (by decide)

/-- Reads a plain scalar. -/
def read (place : ScalarPlace) (c : Cursor) : Except YamlError ScalarText :=
  readFrom place .empty c

end PlainScalar

/-! ### Quoted scalars -/

/-- What stands around a scalar. -/
inductive Quotes where
  | single
  | double
deriving DecidableEq, Repr

namespace Quotes

def sign : Quotes → Char
  | .single => '\''
  | .double => '"'

end Quotes

namespace QuotedScalar

def scanning : String := "while scanning a quoted scalar"

def parsing : String := "while parsing a quoted scalar"

/-- Characters that have an escape of one letter. -/
def simpleEscape : Char → Option Char
  | '0' => some '\x00'
  | 'a' => some '\x07'
  | 'b' => some '\x08'
  | 't' => some '\t'
  | '\t' => some '\t'
  | 'n' => some '\n'
  | 'v' => some '\x0b'
  | 'f' => some '\x0c'
  | 'r' => some '\r'
  | 'e' => some '\x1b'
  | ' ' => some ' '
  | '"' => some '"'
  | '/' => some '/'
  | '\\' => some '\\'
  | 'N' => some '\u0085'
  | '_' => some '\u00a0'
  | 'L' => some '\u2028'
  | 'P' => some '\u2029'
  | _ => none

/-- Digits of an escape that gives the code of a character. -/
def codeLength : Char → Option Nat
  | 'x' => some 2
  | 'u' => some 4
  | 'U' => some 8
  | _ => none

/-- The character of a code. -/
def charOf? (code : Nat) : Option Char :=
  if h : code.isValidChar then some (Char.ofNatAux code h) else none

/-- The character that an escape stands for, and the number of its digits. -/
def escape (start : Mark) (c : Cursor) : Except YamlError (Char × Nat) :=
  match (c.peek 1).bind simpleEscape, (c.peek 1).bind codeLength with
  | some ch, _ => .ok (ch, 0)
  | none, none => .error (.inside parsing start "found unknown escape character" c.mark)
  | none, some n =>
    let after := c.skip 2
    let digits := after.rest.take n
    match if digits.length = n then Text.digitsValue? 16 digits else none with
    | none => .error (.inside parsing start "did not find expected hexdecimal number" after.mark)
    | some code =>
      match charOf? code with
      | some ch => .ok (ch, n)
      | none =>
        .error (.inside parsing start "found invalid Unicode character escape code" after.mark)

/-- Reads on. -/
def readFrom (quotes : Quotes) (start : Mark) (f : Folded) (c : Cursor) :
    Except YamlError ScalarText :=
  match _h : c.rest with
  | [] => .error (.inside scanning start "found unexpected end of stream" c.mark)
  | ch :: _ =>
    if _hb : isBreak ch then readFrom quotes start (f.addBreak c.breakText) c.skipBreak
    else if isBlank ch then readFrom quotes start (f.addBlank ch) c.skip
    else if c.startsDocumentMarker then
      .error (.inside scanning start "found unexpected document indicator" c.mark)
    else if ch = quotes.sign then
      if quotes = .single && c.peek 1 = some '\'' then
        readFrom quotes start (f.add ['\'']) (c.skip 2)
      else .ok ⟨f.close.words, c.skip, false⟩
    else if quotes = .double && ch = '\\' then
      if (c.peek 1).any isBreak then readFrom quotes start f.joinLines c.skip.skipBreak
      else match escape start c with
        | .error e => .error e
        | .ok (escaped, digits) => readFrom quotes start (f.add [escaped]) (c.skip (digits + 2))
    else readFrom quotes start (f.add [ch]) c.skip
termination_by c.rest.length
decreasing_by
  · exact c.length_skipBreak_lt _h _hb
  · exact c.length_skip_lt _h (by decide)
  · exact c.length_skip_lt _h (by decide)
  · exact Nat.lt_of_le_of_lt c.skip.length_skipBreak_le (c.length_skip_lt _h (by decide))
  · exact c.length_skip_lt _h (by omega)
  · exact c.length_skip_lt _h (by decide)

/-- Reads a quoted scalar whose quote stands here. -/
def read (quotes : Quotes) (c : Cursor) : Except YamlError ScalarText :=
  readFrom quotes c.mark .empty c.skip

end QuotedScalar

end CloudLifecycle.Yaml

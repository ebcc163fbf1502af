import CloudLifecycle.Yaml.Error

/-!
# Reading a YAML text

A `Cursor` is the rest of a text with the place where it begins.  There are five line breaks:
carriage return and line feed, alone or together, next line, and the separators of lines and
paragraphs, which alone keep their identity in a value.
-/

set_option autoImplicit false

namespace CloudLifecycle.Yaml

/-- A single character that ends a line. -/
def isBreak (c : Char) : Bool :=
  c = '\r' || c = '\n' || c = '\u0085' || c = '\u2028' || c = '\u2029'

/-- A space or a tab. -/
def isBlank (c : Char) : Bool := c = ' ' || c = '\t'

/-- A character of a name. -/
def isWord (c : Char) : Bool := c.isAlphanum || c = '_' || c = '-'

/-- A character that a text may contain. -/
def isAllowed (c : Char) : Bool :=
  let n := c.toNat
  n = 0x09 || n = 0x0A || n = 0x0D || (0x20 ≤ n && n ≤ 0x7E) || n = 0x85
    || (0xA0 ≤ n && n ≤ 0xFFFD) || 0x10000 ≤ n

/-- How a line break counts in a value. -/
def breakChar (c : Char) : Char := if c = '\u2028' || c = '\u2029' then c else '\n'

/-- The mark that may stand before a text. -/
def byteOrderMark : Char := '\uFEFF'

/-- The rest of a text and its place. -/
structure Cursor where
  rest : List Char
  mark : Mark
deriving DecidableEq, Repr

namespace Cursor

variable (c : Cursor)

/-- The start of a text. -/
def ofText (text : List Char) : Cursor := ⟨text, .start⟩

def column : Nat := c.mark.column

/-- The character some places ahead. -/
def peek (ahead : Nat) : Option Char := c.rest[ahead]?

/-- Nothing or a blank or a line break stands some places ahead. -/
def endsWord (ahead : Nat) : Bool := (c.peek ahead).all fun ch => isBlank ch || isBreak ch

/-- The line ends here. -/
def endsLine : Bool := (c.peek 0).all isBreak

/-- The text ends here. -/
def isDone : Bool := c.rest.isEmpty

/-- The number of bytes before the place some characters ahead. -/
def indexAfter (n : Nat) : Nat :=
  (c.rest.take n).foldl (fun index ch => index + ch.utf8Size) c.mark.index

/-- The number of bytes before the end of the text. -/
def endIndex : Nat := c.indexAfter c.rest.length

/-- Goes on by some characters of the line. -/
def skip (n : Nat := 1) : Cursor :=
  ⟨c.rest.drop n, ⟨c.indexAfter n, c.mark.line, c.mark.column + n⟩⟩

/-- The characters of the line up to the first that is not wanted, and what follows. -/
def span (wanted : Char → Bool) : List Char × Cursor :=
  let taken := c.rest.takeWhile wanted
  (taken, c.skip taken.length)

/-- Goes on to the first character of the line that is not to be skipped. -/
def skipWhile (unwanted : Char → Bool) : Cursor := (c.span unwanted).2

/-- Characters of the line break that stands here. -/
def breakLength : Nat :=
  match c.rest with
  | '\r' :: '\n' :: _ => 2
  | ch :: _ => if isBreak ch then 1 else 0
  | [] => 0

/-- Goes on to the next line if a line break stands here. -/
def skipBreak : Cursor :=
  match c.breakLength with
  | 0 => c
  | n => ⟨c.rest.drop n, ⟨c.indexAfter n, c.mark.line + 1, 0⟩⟩

/-- How the line break here counts in a value. -/
def breakText : List Char :=
  if c.breakLength = 0 then [] else c.rest.head?.toList.map breakChar

/-- A marker between documents stands here. -/
def startsMarker (sign : Char) : Bool :=
  c.column = 0 && c.rest.take 3 = [sign, sign, sign] && c.endsWord 3

/-- A marker before or after a document stands here. -/
def startsDocumentMarker : Bool := c.startsMarker '-' || c.startsMarker '.'

/-- Skips blanks and a comment up to the end of the line. -/
def skipComment : Cursor :=
  let c := c.skipWhile isBlank
  if c.peek 0 = some '#' then c.skipWhile (!isBreak ·) else c

@[simp] theorem length_skip (n : Nat) : (c.skip n).rest.length = c.rest.length - n := by
  simp [skip]

/-- Skipping characters goes on. -/
theorem length_skip_lt {ch : Char} {r : List Char} (h : c.rest = ch :: r) {n : Nat} (hn : 0 < n) :
    (c.skip n).rest.length < c.rest.length := by
  rw [length_skip, h, List.length_cons]
  omega

theorem breakLength_pos {ch : Char} {r : List Char} (h : c.rest = ch :: r) (hb : isBreak ch) :
    0 < c.breakLength := by
  unfold breakLength
  split
  · simp
  · rename_i heq
    rw [h] at heq
    obtain ⟨rfl, _⟩ := List.cons.inj heq
    simp [hb]
  · simp_all

/-- Skipping a line break goes on. -/
theorem length_skipBreak_lt {ch : Char} {r : List Char} (h : c.rest = ch :: r) (hb : isBreak ch) :
    c.skipBreak.rest.length < c.rest.length := by
  have hpos := c.breakLength_pos h hb
  have hlen : 0 < c.rest.length := by simp [h]
  unfold skipBreak
  split
  · omega
  · simp
    omega

theorem length_skipBreak_le : c.skipBreak.rest.length ≤ c.rest.length := by
  unfold skipBreak
  split <;> simp

theorem length_skipWhile_le (p : Char → Bool) :
    (c.skipWhile p).rest.length ≤ c.rest.length := by
  simp [skipWhile, span]

end Cursor

end CloudLifecycle.Yaml

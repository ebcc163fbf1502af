import CloudLifecycle.Yaml.Scalar

/-!
# Block scalars

A block scalar is a run of indented lines below its header.  A literal one keeps its lines, a
folded one joins lines that do not begin with a blank; the header may also say how the end is
trimmed and how far the lines are indented, which the first line says otherwise.
-/

set_option autoImplicit false

namespace CloudLifecycle.Yaml

/-- What becomes of the line breaks at the end. -/
inductive Trimming where
  /-- None stays. -/
  | strip
  /-- One stays. -/
  | clip
  | keep
deriving DecidableEq, Repr

/-- What the header of a block scalar says. -/
structure BlockHeader where
  isFolded : Bool
  trimming : Trimming
  /-- Columns by which the lines are indented more than what they belong to. -/
  indent : Option Nat
deriving DecidableEq, Repr

namespace BlockScalar

def fail (start : Mark) (problem : String) (c : Cursor) : YamlError :=
  .inside "while scanning a block scalar" start problem c.mark

/-! ### Headers -/

/-- Reads how the end is trimmed. -/
def trimming (c : Cursor) : Option Trimming × Cursor :=
  match c.peek 0 with
  | some '+' => (some .keep, c.skip)
  | some '-' => (some .strip, c.skip)
  | _ => (none, c)

/-- Reads the indentation. -/
def indentation (start : Mark) (c : Cursor) : Except YamlError (Option Nat × Cursor) :=
  match c.peek 0 with
  | some '0' => .error (fail start "found an indentation indicator equal to 0" c)
  | some ch =>
    if ch.isDigit then .ok (some (ch.toNat - '0'.toNat), c.skip) else .ok (none, c)
  | none => .ok (none, c)

/-- Reads a header up to the end of its line. -/
def header (isFolded : Bool) (c : Cursor) : Except YamlError (BlockHeader × Cursor) := do
  let start := c.mark
  let (early, c) := trimming c.skip
  let (indent, c) ← indentation start c
  let (late, c) := if early.isNone && indent.isSome then trimming c else (none, c)
  let c := c.skipComment
  if c.endsLine then
    return (⟨isFolded, (early.or late).getD .clip, indent⟩, c.skipBreak)
  else throw (fail start "did not find expected comment or line break" c)

/-! ### Empty lines -/

/-- A run of empty lines, with what follows its last indentation. -/
structure Gap where
  /-- The line breaks, the last one first. -/
  breaks : List Char
  /-- The widest indentation in the run. -/
  widest : Nat
  next : Cursor
deriving DecidableEq, Repr

/-- Skips spaces up to a column, or all of them. -/
def skipIndent (limit : Option Nat) (c : Cursor) : Cursor :=
  let spaces := (c.rest.takeWhile (· = ' ')).length
  match limit with
  | none => c.skip spaces
  | some column => c.skip (min spaces (column - c.column))

theorem length_skipIndent_le (limit : Option Nat) (c : Cursor) :
    (skipIndent limit c).rest.length ≤ c.rest.length := by
  unfold skipIndent
  split <;> simp

/-- Reads empty lines, and the indentation of the line after them. -/
def emptyLines (start : Mark) (limit : Option Nat) (breaks : List Char) (widest : Nat)
    (c : Cursor) : Except YamlError Gap :=
  let inner := skipIndent limit c
  let widest := max widest inner.column
  match _h : inner.rest with
  | [] => .ok ⟨breaks, widest, inner⟩
  | ch :: _ =>
    if ch = '\t' && limit.all (inner.column < ·) then
      .error (fail start "found a tab character where an indentation space is expected" inner)
    else if _hb : isBreak ch then
      emptyLines start limit (inner.breakText ++ breaks) widest inner.skipBreak
    else .ok ⟨breaks, widest, inner⟩
termination_by c.rest.length
decreasing_by
  exact Nat.lt_of_lt_of_le (inner.length_skipBreak_lt _h _hb) (length_skipIndent_le limit c)

/-! ### Lines -/

/-- What has been read of a block scalar. -/
structure Lines where
  /-- The text, the last character first. -/
  text : List Char
  /-- The line break after the last line. -/
  lastBreak : List Char
  /-- The breaks of empty lines after that. -/
  breaks : List Char
  /-- The last line begins with a blank. -/
  isIndented : Bool
deriving DecidableEq, Repr

/-- Takes in the line breaks before a new line. -/
def Lines.join (lines : Lines) (isFolded isIndented : Bool) : List Char :=
  if isFolded && lines.lastBreak = ['\n'] && !lines.isIndented && !isIndented then
    (if lines.breaks.isEmpty then [' '] else lines.breaks) ++ lines.text
  else lines.breaks ++ lines.lastBreak ++ lines.text

/-- The text with its end trimmed. -/
def Lines.trimmed (lines : Lines) : Trimming → List Char
  | .strip => lines.text
  | .clip => lines.lastBreak ++ lines.text
  | .keep => lines.breaks ++ lines.lastBreak ++ lines.text

/-- Reads the lines that are indented up to a column; every line takes one unit of fuel, and has one
character at least. -/
def readLines (start : Mark) (isFolded : Bool) (indent : Nat) :
    Nat → Lines → Cursor → Except YamlError (Lines × Cursor)
  | 0, lines, c => .ok (lines, c)
  | fuel + 1, lines, c => do
    if c.column ≠ indent || c.isDone then return (lines, c)
    let isIndented := (c.peek 0).any isBlank
    let (line, c) := c.span (!isBreak ·)
    let gap ← emptyLines start (some indent) [] 0 c.skipBreak
    readLines start isFolded indent fuel
      ⟨line.reverse ++ lines.join isFolded isIndented, c.breakText, gap.breaks, isIndented⟩
      gap.next

/-- The column that the lines begin at, if the header says it. -/
def stated (header : BlockHeader) (parent : Int) : Option Nat :=
  header.indent.map fun more => parent.toNat + more

/-- Reads a block scalar whose header begins here and which belongs to what is indented by
`parent`. -/
def read (isFolded : Bool) (parent : Int) (c : Cursor) : Except YamlError ScalarText := do
  let start := c.mark
  let (header, c) ← header isFolded c
  let gap ← emptyLines start (stated header parent) [] 0 c
  let indent := (stated header parent).getD (max (max gap.widest (parent + 1).toNat) 1)
  let (lines, c) ← readLines start isFolded indent gap.next.rest.length
    ⟨[], [], gap.breaks, false⟩ gap.next
  return ⟨String.ofList (lines.trimmed header.trimming).reverse, c, false⟩

end BlockScalar

end CloudLifecycle.Yaml

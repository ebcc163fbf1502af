import CloudLifecycle.Yaml.Cursor

/-!
# Folded lines

Plain and quoted scalars run over several lines.  A single line break between two words counts as a
space; of several breaks the first does not count, unless it separates lines or paragraphs; blanks
around breaks do not count.  `Folded` is what has been read of such a scalar, with the gap after it.
-/

set_option autoImplicit false

namespace CloudLifecycle.Yaml

/-- What has been read of a scalar, the last character first. -/
structure Folded where
  text : List Char
  /-- Blanks since the last word, if there was no line break. -/
  blanks : List Char
  /-- A line break came since the last word. -/
  isBroken : Bool
  /-- The first line break since the last word. -/
  firstBreak : List Char
  /-- Further line breaks. -/
  breaks : List Char
deriving DecidableEq, Repr

namespace Folded

/-- Nothing has been read. -/
def empty : Folded := ⟨[], [], false, [], []⟩

variable (f : Folded)

/-- There is a gap after the last word. -/
def hasGap : Bool := f.isBroken || !f.blanks.isEmpty

/-- What the gap counts as. -/
def gap : List Char :=
  if f.isBroken then
    if f.firstBreak = ['\n'] then if f.breaks.isEmpty then [' '] else f.breaks
    else f.breaks ++ f.firstBreak
  else f.blanks

/-- Closes the gap. -/
def close : Folded := ⟨f.gap ++ f.text, [], false, [], []⟩

/-- Goes on with some characters of a word. -/
def add (chars : List Char) : Folded :=
  let f := f.close
  { f with text := chars.reverse ++ f.text }

/-- Goes on with a blank, which counts only before a line break. -/
def addBlank (c : Char) : Folded := if f.isBroken then f else { f with blanks := c :: f.blanks }

/-- Goes on with a line break. -/
def addBreak (chars : List Char) : Folded :=
  if f.isBroken then { f with breaks := chars ++ f.breaks }
  else { f with blanks := [], isBroken := true, firstBreak := chars }

/-- Goes on with a line break that does not count. -/
def joinLines : Folded := { f.close with isBroken := true }

/-- The text up to the last word. -/
def words : String := String.ofList f.text.reverse

@[simp] theorem text_close (f : Folded) : f.close.text = f.gap ++ f.text := rfl

@[simp] theorem gap_close (f : Folded) : f.close.gap = [] := rfl

/-- A closed gap stays closed. -/
@[simp] theorem close_close (f : Folded) : f.close.close = f.close := rfl

end Folded

end CloudLifecycle.Yaml

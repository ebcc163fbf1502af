import CloudLifecycle.Text.Digits
import CloudLifecycle.Text.Search

/-!
# Tables over code points

A property of characters is a table of stretches of code points that do not overlap and ascend.  A
table is written as items with blanks between them: a code point or a range of them in hexadecimal
and, after a colon, what it is given, as in `300-314:230`.  A code point is found by bisection, and
the stretch that is found holds it.
-/

set_option autoImplicit false

namespace CloudLifecycle.Unicode

/-- Code points from `first` to `last` and what they are given. -/
structure Stretch (α : Type) where
  first : Nat
  last : Nat
  value : α
deriving Repr

/-- Stretches that do not overlap and ascend. -/
structure Table (α : Type) where
  stretches : Array (Stretch α)

/-- A set of code points. -/
abbrev CodePoints := Table Unit

/-- A number in hexadecimal. -/
def hexadecimal (cs : List Char) : Nat := (Text.digitsValue? 16 cs).getD 0

/-- A number in decimal. -/
def decimal (cs : List Char) : Nat := (Text.digitsValue? 10 cs).getD 0

/-- Characters by their code points, with plus signs between them. -/
def characters (cs : List Char) : List Char :=
  (Text.splitOn '+' cs).map fun point => Char.ofNat (hexadecimal point)

namespace Stretch

variable {α : Type}

/-- Reads one item of a table. -/
def ofItem (value : List Char → α) (item : List Char) : Stretch α :=
  let range := item.takeWhile (· ≠ ':')
  let first := range.takeWhile (· ≠ '-')
  let last := if first.length = range.length then first else range.drop (first.length + 1)
  ⟨hexadecimal first, hexadecimal last, value (item.drop (range.length + 1))⟩

end Stretch

namespace Table

variable {α : Type}

/-- Reads a table from its lines. -/
def ofLines (value : List Char → α) (lines : List String) : Table α :=
  ⟨(lines.flatMap fun line => (Text.splitOn ' ' line.toList).map (Stretch.ofItem value)).toArray⟩

/-- Looks for the stretch of a code point between two places of a table. -/
def search (stretches : Array (Stretch α)) (n low high : Nat) : Option (Stretch α) :=
  if low < high then
    match stretches[(low + high) / 2]? with
    | none => none
    | some s =>
      if n < s.first then search stretches n low ((low + high) / 2)
      else if s.last < n then search stretches n ((low + high) / 2 + 1) high
      else some s
  else none
termination_by high - low

/-- The stretch that holds a character. -/
def stretch? (t : Table α) (c : Char) : Option (Stretch α) :=
  search t.stretches c.toNat 0 t.stretches.size

/-- What a table gives a character. -/
def find? (t : Table α) (c : Char) : Option α := (t.stretch? c).map (·.value)

end Table

namespace CodePoints

/-- Reads a set of code points from its lines. -/
def ofLines (lines : List String) : CodePoints := Table.ofLines (fun _ => ()) lines

/-- A character belongs to a set. -/
def contains (t : CodePoints) (c : Char) : Bool := (t.stretch? c).isSome

end CodePoints

end CloudLifecycle.Unicode

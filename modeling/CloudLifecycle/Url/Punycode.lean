/-!
# Punycode

A domain label with characters beyond ASCII is written in ASCII as its ASCII characters, a hyphen,
and the other characters in ascending order as differences, each a number of varying length in base
36 whose digits have thresholds that follow the size of the last difference.
-/

set_option autoImplicit false

namespace CloudLifecycle.Punycode

/-- The digit of a number below 36. -/
def digit (n : Nat) : Char := if n < 26 then Char.ofNat (97 + n) else Char.ofNat (22 + n)

/-- The number of a digit. -/
def digitValue? (c : Char) : Option Nat :=
  if 'a' ≤ c ∧ c ≤ 'z' then some (c.toNat - 97)
  else if 'A' ≤ c ∧ c ≤ 'Z' then some (c.toNat - 65)
  else if '0' ≤ c ∧ c ≤ '9' then some (c.toNat - 22)
  else none

/-- Counts how often a difference can be divided before it is small. -/
def shrink (delta k : Nat) : Nat × Nat :=
  if 455 < delta then shrink (delta / 35) (k + 36) else (delta, k)
termination_by delta
decreasing_by exact Nat.div_lt_self (by omega) (by omega)

/-- The bias after a difference, given how many characters are in place by then. -/
def adapt (delta count : Nat) (isFirst : Bool) : Nat :=
  let halved := if isFirst then delta / 700 else delta / 2
  let (small, k) := shrink (halved + halved / count) 0
  k + 36 * small / (small + 38)

/-- The threshold of the digit at a place. -/
def threshold (place bias : Nat) : Nat :=
  if place ≤ bias then 1 else if bias + 26 ≤ place then 26 else place - bias

theorem threshold_pos (place bias : Nat) : 1 ≤ threshold place bias := by
  unfold threshold
  split
  · omega
  · split <;> omega

theorem threshold_le (place bias : Nat) : threshold place bias ≤ 26 := by
  unfold threshold
  split
  · omega
  · split <;> omega

/-- The digits of a difference. -/
def digits (bias delta place : Nat) : List Char :=
  if delta < threshold place bias then [digit delta]
  else
    digit (threshold place bias
        + (delta - threshold place bias) % (36 - threshold place bias))
      :: digits bias ((delta - threshold place bias) / (36 - threshold place bias)) (place + 36)
termination_by delta
decreasing_by
  have hp := threshold_pos place bias
  have hl := threshold_le place bias
  refine Nat.lt_of_le_of_lt (Nat.div_le_self _ _) ?_
  omega

/-- Where the encoder stands: the characters below `least` are in place. -/
structure Progress where
  least : Nat
  delta : Nat
  bias : Nat
  placed : Nat
  ascii : Nat

/-- Walks over the label and writes the differences of one character. -/
def place (c : Nat) : List Char → Progress → List Char × Progress
  | [], p => ([], p)
  | x :: rest, p =>
    if x.toNat < c then place c rest { p with delta := p.delta + 1 }
    else if x.toNat = c then
      let written := digits p.bias p.delta 36
      let next := { p with
        delta := 0
        bias := adapt p.delta (p.placed + 1) (p.placed = p.ascii)
        placed := p.placed + 1 }
      let (more, last) := place c rest next
      (written ++ more, last)
    else place c rest p

/-- Writes the differences of the given characters, which ascend. -/
def placeAll (label : List Char) : List Nat → Progress → List Char
  | [], _ => []
  | c :: rest, p =>
    let started := { p with delta := p.delta + (c - p.least) * (p.placed + 1), least := c }
    let (written, after) := place c label started
    written ++ placeAll label rest { after with delta := after.delta + 1, least := c + 1 }

/-- The characters beyond ASCII of a label, each once and in ascending order. -/
def beyondAscii (label : List Char) : List Nat :=
  ((label.map Char.toNat).filter (128 ≤ ·)).mergeSort.eraseDups

/-- A label in ASCII, without its mark. -/
def encode (label : List Char) : List Char :=
  let ascii := label.filter (·.toNat < 128)
  let start := if ascii.isEmpty then [] else ascii ++ ['-']
  start ++ placeAll label (beyondAscii label) ⟨128, 0, 72, ascii.length, ascii.length⟩

/-- Reads the digits of one difference: the difference and the rest. -/
def readDelta (bias place weight : Nat) : List Char → Option (Nat × List Char)
  | [] => none
  | c :: rest => do
    let value ← digitValue? c
    let t := threshold place bias
    if value < t then pure (value * weight, rest)
    else
      let (more, after) ← readDelta bias (place + 36) (weight * (36 - t)) rest
      pure (value * weight + more, after)

/-- Inserts the characters that the differences name; the fuel is the number of digits. -/
def insertAll : Nat → List Char → List Char → Nat → Nat → Nat → Option (List Char)
  | _, [], label, _, _, _ => some label
  | 0, _ :: _, _, _, _, _ => none
  | fuel + 1, cs, label, least, index, bias => do
    let (delta, rest) ← readDelta bias 36 1 cs
    let count := label.length + 1
    let position := index + delta
    let code := least + position / count
    if 0x10FFFF < code then none
    else
      let c := Char.ofNat code
      if c.toNat ≠ code then none
      else
        let slot := position % count
        insertAll fuel rest (label.take slot ++ c :: label.drop slot) code (slot + 1)
          (adapt delta count (index = 0 && least = 128))

/-- Splits at the last hyphen, unless it comes first. -/
def splitLast (cs : List Char) : List Char × List Char :=
  let tail := (cs.reverse.takeWhile (· ≠ '-')).reverse
  if cs.length ≤ tail.length + 1 then ([], cs)
  else (cs.take (cs.length - tail.length - 1), tail)

/-- The label that an ASCII text without its mark stands for. -/
def decode? (cs : List Char) : Option (List Char) :=
  let (ascii, rest) := splitLast cs
  insertAll rest.length rest ascii 128 0 72

end CloudLifecycle.Punycode

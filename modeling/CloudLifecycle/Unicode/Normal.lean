import CloudLifecycle.Unicode.CombiningClass
import CloudLifecycle.Unicode.Decomposition
import CloudLifecycle.Unicode.Hangul

/-!
# Composed text

Canonically equivalent texts have one composed form: every character is decomposed, the marks after
a character are put into the order of their classes, and then each mark joins the character before
it wherever a code point for both exists and no mark of the same class or a higher one stands
between them.
-/

set_option autoImplicit false

namespace CloudLifecycle.Unicode

/-- Decomposes a character; the fuel bounds how often the first part is decomposed again. -/
def decomposeWithin : Nat → Char → List Char
  | 0, c => [c]
  | fuel + 1, c =>
    match compositions.find? c with
    | some (first :: rest) => decomposeWithin fuel first ++ rest
    | some [] | none => [c]

/-- The canonical decomposition of a character; none is nested more than four times. -/
def decompose (c : Char) : List Char :=
  match Hangul.decompose? c with
  | some letters => letters
  | none =>
    match replacements.find? c with
    | some cs => cs
    | none => decomposeWithin 4 c

/-- Puts a character before ordered text, behind the marks of lower classes. -/
def insertMark (c : Char) : List Char → List Char
  | [] => [c]
  | d :: rest =>
    if 0 < combiningClass d ∧ combiningClass d < combiningClass c then d :: insertMark c rest
    else c :: d :: rest

/-- Puts the marks after each character into the order of their classes. -/
def reorder (cs : List Char) : List Char := cs.foldr insertMark []

/-- The character that stands for two others. -/
def compose? (first second : Char) : Option Char :=
  match Hangul.compose? first second with
  | some syllable => some syllable
  | none =>
    (compositions.stretches.find? fun s => s.value = [first, second]).map (Char.ofNat ·.first)

/-- Composes text after a character; `kept` are the marks after it that did not join it, the last
one first. -/
def composeAfter (first : Char) (kept : List Char) : List Char → List Char
  | [] => first :: kept.reverse
  | c :: rest =>
    let isBlocked := match kept with
      | [] => false
      | k :: _ => combiningClass c ≤ combiningClass k
    match if isBlocked then none else compose? first c with
    | some joined => composeAfter joined kept rest
    | none =>
      if combiningClass c = 0 then first :: kept.reverse ++ composeAfter c [] rest
      else composeAfter first (c :: kept) rest

/-- Composes ordered text. -/
def composeAll : List Char → List Char
  | [] => []
  | c :: rest => if combiningClass c = 0 then composeAfter c [] rest else c :: composeAll rest

/-- The composed form of a text. -/
def composed (cs : List Char) : List Char := composeAll (reorder (cs.flatMap decompose))

end CloudLifecycle.Unicode

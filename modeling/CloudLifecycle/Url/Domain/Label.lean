import CloudLifecycle.Unicode.Direction
import CloudLifecycle.Unicode.Joining
import CloudLifecycle.Unicode.Mark
import CloudLifecycle.Url.Domain.Mapping
import CloudLifecycle.Url.Punycode

/-!
# Labels of domain names

A label is what stands between the full stops of a domain name.  It does not begin with a mark; the
two characters that join letters or keep them apart without being visible stand only where they
make a difference; and where a name has text from right to left, every label has one direction.  A
label with characters beyond ASCII is written in Punycode behind a prefix.
-/

set_option autoImplicit false

namespace CloudLifecycle.Domain

open Unicode (Direction Joining)

/-! ## Joiners -/

/-- The character that keeps letters apart. -/
def nonJoiner : Char := Char.ofNat 0x200C

/-- The character that joins letters. -/
def joiner : Char := Char.ofNat 0x200D

/-- The first character that is not transparent joins in the given way. -/
def meets (joins : Joining → Bool) (cs : List Char) : Bool :=
  match (cs.map Unicode.joining).find? (· ≠ .transparent) with
  | some kind => joins kind
  | none => false

/-- A joiner stands after a virama, or keeps apart two letters that would join. -/
def joinsRightly (c : Char) (before after : List Char) : Bool :=
  before.head?.any (Unicode.combiningClass · = Unicode.virama)
    || (c = nonJoiner && meets Joining.joinsNext before && meets Joining.joinsPrevious after)

/-- Every joiner of a label stands where it makes a difference; `before` is read backwards. -/
def joinersFit (before : List Char) : List Char → Bool
  | [] => true
  | c :: rest =>
    (!(c = nonJoiner || c = joiner) || joinsRightly c before rest) && joinersFit (c :: before) rest

/-! ## Directions -/

/-- A direction that makes its name one with text from right to left. -/
def turnsAround : Direction → Bool
  | .rightToLeft | .arabicLetter | .arabicNumber => true
  | _ => false

/-- Directions that go with either direction of a label. -/
def isNeutral : Direction → Bool
  | .europeanNumber | .europeanSeparator | .commonSeparator | .europeanTerminator
  | .otherNeutral | .boundaryNeutral | .nonspacingMark => true
  | _ => false

/-- The directions of a label from left to right that begins with a letter. -/
def runsRight (ds : List Direction) : Bool :=
  ds.all (fun d => d = .leftToRight || isNeutral d)
    && (ds.reverse.find? (· ≠ .nonspacingMark)).any fun d =>
      d = .leftToRight || d = .europeanNumber

/-- The directions of a label from right to left that begins with a letter. -/
def runsLeft (ds : List Direction) : Bool :=
  ds.all (fun d => turnsAround d || isNeutral d)
    && !(ds.contains .europeanNumber && ds.contains .arabicNumber)
    && (ds.reverse.find? (· ≠ .nonspacingMark)).any fun d =>
      turnsAround d || d = .europeanNumber

/-- A label has one direction and begins with a letter. -/
def hasOneDirection (label : List Char) : Bool :=
  let ds := label.map Unicode.direction
  match ds with
  | [] => true
  | .leftToRight :: _ => runsRight ds
  | .rightToLeft :: _ | .arabicLetter :: _ => runsLeft ds
  | _ => false

/-! ## Writing -/

/-- The prefix of a label that is written in Punycode. -/
def mark : List Char := "xn--".toList

/-- A label may have so many characters if one of them is beyond ASCII. -/
def maxLength : Nat := 1000

/-- A label may have so many characters behind its mark. -/
def maxWrittenLength : Nat := 2000

/-- All characters are in ASCII. -/
def isAscii (cs : List Char) : Bool := cs.all (·.toNat < 128)

/-- A label that may stand in a name, as far as its directions do not forbid it. -/
def isWellFormed (label : List Char) : Bool :=
  !label.head?.any Unicode.isMark && joinersFit [] label
    && (isAscii label || label.length ≤ maxLength)

/-- The label that stands for a label written in Punycode, which the name could have had itself. -/
def unwrap? (written : List Char) : Option (List Char) :=
  if !isAscii written || maxWrittenLength < written.length then none
  else
    (Punycode.decode? written).filter fun label =>
      !isAscii label && label.all isStable && Unicode.composed label = label

/-- A label with all its characters and as it is written in ASCII. -/
structure Label where
  characters : List Char
  written : List Char

/-- Reads a label of a folded name. -/
def Label.of? (folded : List Char) : Option Label :=
  let label? :=
    if mark.isPrefixOf folded then
      (unwrap? (folded.drop mark.length)).map fun label => ⟨label, folded⟩
    else if isAscii folded then some ⟨folded, folded⟩
    else some ⟨folded, mark ++ Punycode.encode folded⟩
  label?.filter fun label => isWellFormed label.characters

end CloudLifecycle.Domain

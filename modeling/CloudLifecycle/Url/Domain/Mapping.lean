import CloudLifecycle.Unicode.Normal
import CloudLifecycle.Url.Domain.Excluded
import CloudLifecycle.Url.Domain.Expansions
import CloudLifecycle.Url.Domain.Letters

/-!
# Characters of domain names

Before a domain name is taken apart, each of its characters stays, is left out, gives way to others
or makes the name invalid; what is left is composed.
-/

set_option autoImplicit false

namespace CloudLifecycle.Domain

/-- What a character of a domain name gives way to; none if no name may have it. -/
def mapCharacter? (c : Char) : Option (List Char) :=
  match shifted.stretch? c, alternating.stretch? c, expansions.find? c with
  | some s, _, _ => some [Char.ofNat (s.value + (c.toNat - s.first))]
  | none, some s, _ =>
    some [if (c.toNat - s.first) % 2 = 0 then Char.ofNat (c.toNat + 1) else c]
  | none, none, some cs => some cs
  | none, none, none =>
    if ignored.contains c then some []
    else if disallowed.contains c then none
    else some [c]

/-- A domain name in the form in which it is compared. -/
def fold? (cs : List Char) : Option (List Char) :=
  (cs.mapM mapCharacter?).map fun pieces => Unicode.composed pieces.flatten

/-- A character that stays as it is. -/
def isStable (c : Char) : Bool := mapCharacter? c = some [c]

end CloudLifecycle.Domain

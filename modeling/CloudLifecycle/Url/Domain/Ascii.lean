import CloudLifecycle.Url.Domain.Label

/-!
# Domain names in ASCII

A domain name is folded, its labels are read, and it is written with each of them in ASCII.
-/

set_option autoImplicit false

namespace CloudLifecycle.Domain

/-- Characters of ASCII that no domain name has. -/
def isForbidden (c : Char) : Bool :=
  c.toNat ≤ 0x20 || c.toNat = 0x7F || "#/:<>?@[\\]^|%".toList.contains c

/-- Text from right to left is somewhere in the labels. -/
def hasTextLeftwards (labels : List Label) : Bool :=
  labels.any fun label => label.characters.any fun c => turnsAround (Unicode.direction c)

/-- A domain name in ASCII. -/
def toAscii? (name : List Char) : Option (List Char) := do
  let folded ← fold? name
  if folded.any isForbidden then none
  let labels ← (Text.splitOn '.' folded).mapM Label.of?
  if hasTextLeftwards labels && !labels.all (hasOneDirection ·.characters) then none
  pure (List.intercalate ['.'] (labels.map (·.written)))

end CloudLifecycle.Domain

import CloudLifecycle.Yaml.Block
import CloudLifecycle.Yaml.Tag

/-!
# Tokens

The tokens of a YAML text.  Blocks begin and end by indentation, so their tokens have no
characters of their own; nor has the token before a key that only the colon after it shows to be
one.
-/

set_option autoImplicit false

namespace CloudLifecycle.Yaml

/-- What a token is. -/
inductive TokenKind where
  | streamEnd
  | directive (directive : Directive)
  | documentStart
  | documentEnd
  | blockSequenceStart
  | blockMappingStart
  | blockEnd
  | flowSequenceStart
  | flowSequenceEnd
  | flowMappingStart
  | flowMappingEnd
  | blockEntry
  | flowEntry
  | key
  | value
  | alias (name : String)
  | anchor (name : String)
  | tag (name : TagName)
  | scalar (text : String) (isPlain : Bool)
deriving DecidableEq, Repr

/-- A token and its place. -/
structure Token where
  kind : TokenKind
  mark : Mark
deriving DecidableEq, Repr

end CloudLifecycle.Yaml

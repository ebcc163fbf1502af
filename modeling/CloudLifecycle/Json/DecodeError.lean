import CloudLifecycle.Json.Tree
import CloudLifecycle.Number.Shortest
import CloudLifecycle.Text.Quoted

/-!
# Why a JSON value is not what was expected

The causes of a failed decoding and their texts.  A text that is not JSON has one cause, whatever
is wrong with it.
-/

set_option autoImplicit false

namespace CloudLifecycle

/-- What stood in a place where something else was expected. -/
inductive Found where
  | null
  | bool (value : Bool)
  | whole (value : Int)
  | real (value : Double)
  | text (value : String)
  | sequence
  | map
deriving DecidableEq, Repr

/-- Why a value could not be decoded. -/
inductive DecodeError where
  /-- The text is not JSON. -/
  | malformed
  | missingField (name : String)
  | duplicateField (name : String)
  | unexpected (found : Found) (expected : String)
  /-- A whole number outside the range of its field. -/
  | outOfRange (value : Int) (expected : String)
  /-- A sequence with too few or too many elements. -/
  | wrongLength (length : Nat) (expected : String)
deriving DecidableEq, Repr

namespace Found

def message : Found → String
  | .null => "null"
  | .bool b => "boolean `" ++ (if b then "true" else "false") ++ "`"
  | .whole i => "integer `" ++ i.repr ++ "`"
  | .real d => "floating point `" ++ d.text ++ "`"
  | .text s => "string " ++ Text.quoted s
  | .sequence => "sequence"
  | .map => "map"

end Found

namespace DecodeError

def message : DecodeError → String
  | .malformed => "<json syntax error>"
  | .missingField name => "missing field `" ++ name ++ "`"
  | .duplicateField name => "duplicate field `" ++ name ++ "`"
  | .unexpected found expected => "invalid type: " ++ found.message ++ ", expected " ++ expected
  | .outOfRange value expected =>
    "invalid value: integer `" ++ value.repr ++ "`, expected " ++ expected
  | .wrongLength length expected =>
    "invalid length " ++ length.repr ++ ", expected " ++ expected

end DecodeError

/-- The error of a tree that is not what was expected; one that cannot be taken is reported as
such. -/
def Tree.mismatch (expected : String) : Tree → DecodeError
  | .null => .unexpected .null expected
  | .bool b => .unexpected (.bool b) expected
  | .whole i => .unexpected (.whole i) expected
  | .real d => .unexpected (.real d) expected
  | .text s => .unexpected (.text s) expected
  | .list _ _ => .unexpected .sequence expected
  | .object _ _ => .unexpected .map expected
  | .valueless | .broken => .malformed

end CloudLifecycle

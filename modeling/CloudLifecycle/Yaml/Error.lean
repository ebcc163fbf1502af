import CloudLifecycle.Text.Quoted

/-!
# Why a YAML text has no value

The causes and their texts.  What is malformed is told with what was being read, and what has no
place in a value with the path to it.
-/

set_option autoImplicit false

namespace CloudLifecycle

/-- A place in a text, counted from zero: bytes before it, lines before it, and characters before it
in its line. -/
structure Mark where
  index : Nat
  line : Nat
  column : Nat
deriving DecidableEq, Repr

namespace Mark

/-- The start of a text. -/
def start : Mark := ⟨0, 0, 0⟩

end Mark

/-- One step on the way from a value to a part of it. -/
inductive YamlStep where
  | key (key : String)
  | index (index : Nat)
  /-- To the value of a key that is an alias. -/
  | unnamed
deriving DecidableEq, Repr

/-- The steps from the whole value to a part, the last one first. -/
abbrev YamlPath : Type := List YamlStep

namespace YamlPath

/-- The path as it stands in messages. -/
def text : YamlPath → String
  | [] => "."
  | .index i :: parent => text parent ++ "[" ++ i.repr ++ "]"
  | .key k :: [] => k
  | .key k :: parent => text parent ++ "." ++ k
  | .unnamed :: [] => "?"
  | .unnamed :: parent => text parent ++ ".?"

end YamlPath

/-- What has no place in a value. -/
inductive YamlMisfit where
  /-- A whole number that does not fit sixty-four bits. -/
  | numberOutOfRange
  /-- A tag that is not one of the standard ones. -/
  | localTag
  /-- A text that is not what its tag says. -/
  | wrongText (text expected : String)
  /-- A key that is no scalar. -/
  | wrongKey (found expected : String)
deriving DecidableEq, Repr

def YamlMisfit.message : YamlMisfit → String
  | .numberOutOfRange => "JSON number out of range"
  | .localTag => "invalid type: enum, expected any valid JSON value"
  | .wrongText text expected =>
    "invalid value: string " ++ Text.quoted text ++ ", expected " ++ expected
  | .wrongKey found expected => "invalid type: " ++ found ++ ", expected " ++ expected

/-- Why a YAML text has no value. -/
inductive YamlError where
  /-- A control character, after some number of bytes. -/
  | control (offset : Nat)
  /-- A problem at some place, and what was being read there since when. -/
  | malformed (problem : String) (place : Mark) (reading : Option (String × Mark))
  /-- The text ends inside a value. -/
  | incomplete
  | unknownAnchor
  | severalDocuments
  | tooDeep
  | tooManyAliases
  | misfit (path : YamlPath) (cause : YamlMisfit)
deriving DecidableEq, Repr

namespace YamlError

/-- A problem at some place. -/
def alone (problem : String) (place : Mark) : YamlError := .malformed problem place none

/-- A problem at some place in what began at another. -/
def inside (reading : String) (start : Mark) (problem : String) (place : Mark) : YamlError :=
  .malformed problem place (some (reading, start))

/-- The bytes before the place of a problem. -/
def index? : YamlError → Option Nat
  | .malformed _ place _ => some place.index
  | _ => none

def message : YamlError → String
  | .control offset => "control characters are not allowed"
    ++ (if offset = 0 then "" else " at position " ++ offset.repr)
  | .malformed problem _ none => problem
  | .malformed problem _ (some (reading, _)) => problem ++ ", " ++ reading
  | .incomplete => "EOF while parsing a value"
  | .unknownAnchor => "unknown anchor"
  | .severalDocuments =>
    "deserializing from YAML containing more than one document is not supported"
  | .tooDeep => "recursion limit exceeded"
  | .tooManyAliases => "repetition limit exceeded"
  | .misfit path cause =>
    (if path.text = "." then "" else path.text ++ ": ") ++ cause.message

end YamlError

end CloudLifecycle

import CloudLifecycle.Json.Basic

/-!
# What has been read of a JSON text

A `Tree` is a JSON text as it was read: objects keep their fields in the order of the text, repeated
keys included, and a place where the text stops being JSON is marked.  So a reader that takes a
record straight from a text can report the first thing that is wrong, be it the shape of a value or
the form of the text.  A number beyond all doubles and a text with half of a surrogate pair have the
form of JSON but no value: they can be passed over but not taken.  `Json.toTree` is the tree of a
value, with nothing wrong in it.
-/

set_option autoImplicit false

namespace CloudLifecycle

/-- A JSON text as read; `closed` tells whether the closing bracket was found in its place, and a
key is missing if it has no value. -/
inductive Tree where
  | null
  | bool (value : Bool)
  | whole (value : Int)
  | real (value : Double)
  | text (value : String)
  | list (items : List Tree) (closed : Bool)
  | object (fields : List (Option String × Tree)) (closed : Bool)
  /-- A number or a text without a value. -/
  | valueless
  | broken
deriving Repr, Inhabited

mutual

/-- The tree of a value. -/
def Json.toTree : Json → Tree
  | .null => .null
  | .bool b => .bool b
  | .whole i => .whole i
  | .real d => .real d
  | .text s => .text s
  | .list items => .list (Json.toTrees items) true
  | .object fields => .object (Json.toFieldTrees fields) true

def Json.toTrees : List Json → List Tree
  | [] => []
  | item :: items => item.toTree :: Json.toTrees items

def Json.toFieldTrees : List (String × Json) → List (Option String × Tree)
  | [] => []
  | (key, value) :: fields => (some key, value.toTree) :: Json.toFieldTrees fields

end

namespace Tree

mutual

/-- Nothing is wrong with the form of the text. -/
def intact : Tree → Bool
  | .list items closed => intactItems items && closed
  | .object fields closed => intactFields fields && closed
  | .broken => false
  | _ => true

def intactItems : List Tree → Bool
  | [] => true
  | item :: items => item.intact && intactItems items

def intactFields : List (Option String × Tree) → Bool
  | [] => true
  | (_, value) :: fields => value.intact && intactFields fields

end

end Tree

end CloudLifecycle

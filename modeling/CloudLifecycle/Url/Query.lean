import CloudLifecycle.Dict
import CloudLifecycle.Text.Percent

/-!
# Query parameters

The parameters of a request, kept in ascending key order.  The canonical text lists them in this
order with both sides percent-encoded, so that equal parameters have equal texts, which is what a
signature over the text needs.
-/

set_option autoImplicit false

namespace CloudLifecycle

/-- Parameters of a request, each key once. -/
structure Query where
  params : Dict String
deriving DecidableEq

namespace Query

/-- No parameters. -/
def empty : Query := ⟨Dict.empty⟩

/-- Sets a parameter, replacing an older value. -/
def set (q : Query) (key value : String) : Query := ⟨q.params.insert key value⟩

/-- Sets a parameter if there is a value for it. -/
def setOption (q : Query) (key : String) : Option String → Query
  | some value => q.set key value
  | none => q

/-- Sets the keys of a list of values, each made of the position of the value. -/
def setAll (q : Query) (key : Nat → String) (start : Nat) : List String → Query
  | [] => q
  | value :: rest => (q.set (key start) value).setAll key (start + 1) rest

/-- Sets `name.1`, `name.2` and so on. -/
def numbered (q : Query) (name : String) (values : List String) : Query :=
  q.setAll (fun i => name ++ "." ++ i.repr) 1 values

/-- Sets `name[0]`, `name[1]` and so on. -/
def indexed (q : Query) (name : String) (values : List String) : Query :=
  q.setAll (fun i => name ++ "[" ++ i.repr ++ "]") 0 values

/-- The value of a parameter. -/
def find? (q : Query) (key : String) : Option String := q.params.find? key

/-- One parameter in the canonical text. -/
def pairText (key value : String) : String :=
  Text.percentEncode key ++ "=" ++ Text.percentEncode value

/-- The parameters in ascending key order, as they are signed and sent. -/
def canonical (q : Query) : String :=
  "&".intercalate (q.params.entries.map fun e => pairText e.1 e.2)

@[simp] theorem find?_empty (key : String) : empty.find? key = none := rfl

/-- Setting a parameter changes its value and no other. -/
@[simp] theorem find?_set (q : Query) (key k value : String) :
    (q.set key value).find? k = if k = key then some value else q.find? k :=
  Dict.find?_insert q.params key k value

end Query

end CloudLifecycle

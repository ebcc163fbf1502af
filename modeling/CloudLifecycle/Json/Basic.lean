import CloudLifecycle.Dict
import CloudLifecycle.Number.Double

/-!
# JSON values

Whole numbers that fit a 64-bit word are kept exactly, all other numbers are doubles.  An object is
a list of fields: the objects that are read have their keys in ascending order, each once
(`Json.ofDict`), the ones written from a record have the order of the record.
-/

set_option autoImplicit false

namespace CloudLifecycle

/-- A JSON value. -/
inductive Json where
  | null
  | bool (value : Bool)
  | whole (value : Int)
  | real (value : Double)
  | text (value : String)
  | list (items : List Json)
  | object (fields : List (String × Json))
deriving Repr, Inhabited

namespace Json

mutual

/-- Equality of values is decided structurally. -/
def decEq : (a b : Json) → Decidable (a = b)
  | .null, .null => isTrue rfl
  | .bool a, .bool b => decidable_of_iff (a = b) (by simp)
  | .whole a, .whole b => decidable_of_iff (a = b) (by simp)
  | .real a, .real b => decidable_of_iff (a = b) (by simp)
  | .text a, .text b => decidable_of_iff (a = b) (by simp)
  | .list as, .list bs =>
    match decEqItems as bs with
    | isTrue h => isTrue (by rw [h])
    | isFalse h => isFalse (by simpa using h)
  | .object as, .object bs =>
    match decEqFields as bs with
    | isTrue h => isTrue (by rw [h])
    | isFalse h => isFalse (by simpa using h)
  | .null, .bool _ | .null, .whole _ | .null, .real _ | .null, .text _ | .null, .list _
  | .null, .object _ | .bool _, .null | .bool _, .whole _ | .bool _, .real _ | .bool _, .text _
  | .bool _, .list _ | .bool _, .object _ | .whole _, .null | .whole _, .bool _ | .whole _, .real _
  | .whole _, .text _ | .whole _, .list _ | .whole _, .object _ | .real _, .null | .real _, .bool _
  | .real _, .whole _ | .real _, .text _ | .real _, .list _ | .real _, .object _ | .text _, .null
  | .text _, .bool _ | .text _, .whole _ | .text _, .real _ | .text _, .list _ | .text _, .object _
  | .list _, .null | .list _, .bool _ | .list _, .whole _ | .list _, .real _ | .list _, .text _
  | .list _, .object _ | .object _, .null | .object _, .bool _ | .object _, .whole _
  | .object _, .real _ | .object _, .text _ | .object _, .list _ => isFalse (by simp)

def decEqItems : (as bs : List Json) → Decidable (as = bs)
  | [], [] => isTrue rfl
  | [], _ :: _ => isFalse (by simp)
  | _ :: _, [] => isFalse (by simp)
  | a :: as, b :: bs =>
    match decEq a b, decEqItems as bs with
    | isTrue h, isTrue h' => isTrue (by rw [h, h'])
    | isFalse h, _ => isFalse (by simp [h])
    | _, isFalse h => isFalse (by simp [h])

def decEqFields : (as bs : List (String × Json)) → Decidable (as = bs)
  | [], [] => isTrue rfl
  | [], _ :: _ => isFalse (by simp)
  | _ :: _, [] => isFalse (by simp)
  | (k, a) :: as, (l, b) :: bs =>
    if h₀ : k = l then
      match decEq a b, decEqFields as bs with
      | isTrue h, isTrue h' => isTrue (by rw [h₀, h, h'])
      | isFalse h, _ => isFalse (by simp [h])
      | _, isFalse h => isFalse (by simp [h])
    else isFalse (by simp [h₀])

end

instance : DecidableEq Json := decEq

/-- The object of a dictionary, with its keys in ascending order. -/
def ofDict (d : Dict Json) : Json := .object d.entries

/-- The object of some fields; of several fields with one key the last counts. -/
def ofFields (fields : List (String × Json)) : Json := ofDict (Dict.ofList fields)

def isNull : Json → Bool
  | .null => true
  | _ => false

def asText? : Json → Option String
  | .text s => some s
  | _ => none

def asList? : Json → Option (List Json)
  | .list items => some items
  | _ => none

def asNat? : Json → Option Nat
  | .whole (.ofNat n) => some n
  | _ => none

def asBool? : Json → Option Bool
  | .bool b => some b
  | _ => none

/-- The fields of an object. -/
def fields? : Json → Option (List (String × Json))
  | .object fields => some fields
  | _ => none

/-- The member of an object under a key; nothing for other values. -/
def member? (key : String) : Json → Option Json
  | .object fields => fields.lookup key
  | _ => none

/-- A text or `null`. -/
def ofOption {α : Type} (f : α → Json) : Option α → Json
  | none => .null
  | some a => f a

/-- A list of texts. -/
def texts (items : List String) : Json := .list (items.map .text)

end Json

end CloudLifecycle

import CloudLifecycle.Json.DecodeError
import CloudLifecycle.Json.Parser

/-!
# Decoding values

A `Decoder α` takes a tree to a value of type `α` or to the first thing that is wrong with it.  The
tree is either a text that is being read, where nesting is limited to 127 levels and every value has
to be taken up to its end, or a value that was read before (`Source`).
-/

set_option autoImplicit false

namespace CloudLifecycle

/-- Where a tree comes from. -/
inductive Source where
  /-- A text, with the levels of nesting that are still allowed. -/
  | text (levels : Nat)
  /-- A value that was read before. -/
  | value
deriving DecidableEq, Repr

namespace Source

/-- Levels of nesting that a text may have. -/
def maxLevels : Nat := 127

/-- The source of the parts of a list or an object. -/
def enter : Source → Except DecodeError Source
  | .text 0 => .error .malformed
  | .text (n + 1) => .ok (.text n)
  | .value => .ok .value

end Source

/-- Takes a tree to a value or to what is wrong with it. -/
def Decoder (α : Type) : Type := Source → Tree → Except DecodeError α

namespace Decoder

variable {α β : Type}

/-- Changes the result. -/
def map (f : α → β) (d : Decoder α) : Decoder β := fun source tree => (d source tree).map f

/-- A text. -/
def text : Decoder String
  | _, .text s => .ok s
  | _, tree => .error (tree.mismatch "a string")

/-- A whole number from 0 up to `bound`, under the name of its type. -/
def natural (bound : Nat) (name : String) : Decoder Nat
  | _, .whole i =>
    if 0 ≤ i ∧ i ≤ (bound : Int) then .ok i.toNat else .error (.outOfRange i name)
  | _, tree => .error (tree.mismatch name)

/-- An unsigned 64-bit number. -/
def word64 : Decoder Nat := natural 0xFFFFFFFFFFFFFFFF "u64"

/-- An unsigned 32-bit number. -/
def word32 : Decoder Nat := natural 0xFFFFFFFF "u32"

/-- A signed 64-bit number. -/
def integer64 : Decoder Int
  | _, .whole i =>
    if i < 0x8000000000000000 then .ok i else .error (.outOfRange i "i64")
  | _, tree => .error (tree.mismatch "i64")

/-- A boolean. -/
def boolean : Decoder Bool
  | _, .bool b => .ok b
  | _, tree => .error (tree.mismatch "a boolean")

/-- A value or `null`. -/
def optional (d : Decoder α) : Decoder (Option α)
  | _, .null => .ok none
  | source, tree => (d source tree).map some

/-- Decodes the items one after another. -/
def items (d : Decoder α) (source : Source) : List Tree → Except DecodeError (List α)
  | [] => .ok []
  | item :: rest => do
    let a ← d source item
    let more ← items d source rest
    pure (a :: more)

/-- Decodes the values of the fields one after another. -/
def fieldValues (d : Decoder α) (source : Source) :
    List (Option String × Tree) → Except DecodeError (List (String × α))
  | [] => .ok []
  | (none, _) :: _ => .error .malformed
  | (some key, value) :: rest => do
    let a ← d source value
    let more ← fieldValues d source rest
    pure ((key, a) :: more)

/-- The list was closed in its place. -/
def ensureClosed (closed : Bool) : Except DecodeError Unit :=
  if closed then .ok () else .error .malformed

/-- A list of values. -/
def list (d : Decoder α) : Decoder (List α)
  | source, .list trees closed => do
    let inner ← source.enter
    let values ← items d inner trees
    ensureClosed closed
    pure values
  | _, tree => .error (tree.mismatch "a sequence")

/-- A dictionary of values; of several values for one key the last counts. -/
def dict (d : Decoder α) : Decoder (Dict α)
  | source, .object fields closed => do
    let inner ← source.enter
    let values ← fieldValues d inner fields
    ensureClosed closed
    pure (Dict.ofList values)
  | _, tree => .error (tree.mismatch "a map")

mutual

/-- Any value. -/
def json : Source → Tree → Except DecodeError Json
  | _, .null => .ok .null
  | _, .bool b => .ok (.bool b)
  | _, .whole i => .ok (.whole i)
  | _, .real d => .ok (.real d)
  | _, .text s => .ok (.text s)
  | source, .list trees closed => do
    let inner ← source.enter
    let values ← jsonItems inner trees
    ensureClosed closed
    pure (.list values)
  | source, .object fields closed => do
    let inner ← source.enter
    let values ← jsonFields inner fields
    ensureClosed closed
    pure (Json.ofFields values)
  | _, .valueless | _, .broken => .error .malformed

def jsonItems : Source → List Tree → Except DecodeError (List Json)
  | _, [] => .ok []
  | source, tree :: trees => do
    let value ← json source tree
    let values ← jsonItems source trees
    pure (value :: values)

def jsonFields : Source → List (Option String × Tree) → Except DecodeError (List (String × Json))
  | _, [] => .ok []
  | _, (none, _) :: _ => .error .malformed
  | source, (some key, tree) :: fields => do
    let value ← json source tree
    let values ← jsonFields source fields
    pure ((key, value) :: values)

end

/-- Any value. -/
def any : Decoder Json := json

/-- Decodes a text; nothing may follow the value. -/
def fromText (d : Decoder α) (text : String) : Except DecodeError α := do
  let (tree, complete) := Tree.parse text
  let value ← d (.text Source.maxLevels) tree
  if complete then pure value else .error .malformed

/-- Decodes a value that was read before. -/
def fromJson (d : Decoder α) (value : Json) : Except DecodeError α := d .value value.toTree

end Decoder

/-- Reads a text as a value. -/
def Json.parse (text : String) : Except DecodeError Json := Decoder.any.fromText text

end CloudLifecycle

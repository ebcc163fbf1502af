import CloudLifecycle.Json.Decoder

/-!
# Decoding records

A `Fields α` describes the fields of a record one by one and how a record of type `α` is made of
them; descriptions are joined with `<$>` and `<*>` in the order of the declaration.  The fields of
an object are taken in the order of the text: a field that comes twice, or that does not decode,
is reported where it stands, and only then, in the order of the declaration, the fields that are
missing.  Fields that the record does not know are passed over, whatever their nesting, or, with
`Decoder.openRecord`, kept.

A record without further fields may also be written as the list of its fields.
-/

set_option autoImplicit false

namespace CloudLifecycle

/-- The fields of a record, with a state that holds what has been decoded of them. -/
structure Fields (α : Type) where
  /-- How many fields there are. -/
  count : Nat
  State : Type
  start : State
  /-- Takes in a field of the object, if it is one of these. -/
  take : Source → String → Tree → State → Option (Except DecodeError State)
  /-- The record, or the first field that is missing. -/
  finish : State → Except DecodeError α
  /-- Takes the fields from the front of a list, starting at a position; the text names the record
  and its number of fields. -/
  takeItems : Source → String → Nat → List Tree → Bool → Except DecodeError (α × List Tree)

namespace Fields

variable {α β : Type}

/-- No field. -/
protected def pure (a : α) : Fields α where
  count := 0
  State := Unit
  start := ()
  take _ _ _ _ := none
  finish _ := .ok a
  takeItems _ _ _ items _ := .ok (a, items)

/-- The fields of one description and then those of another. -/
protected def seq (f : Fields (α → β)) (x : Fields α) : Fields β where
  count := f.count + x.count
  State := f.State × x.State
  start := (f.start, x.start)
  take source key tree state :=
    match f.take source key tree state.1 with
    | some result => some (result.map fun s => (s, state.2))
    | none => (x.take source key tree state.2).map fun result => result.map fun s => (state.1, s)
  finish state := do
    let g ← f.finish state.1
    let a ← x.finish state.2
    pure (g a)
  takeItems source expected position items closed := do
    let (g, rest) ← f.takeItems source expected position items closed
    let (a, rest) ← x.takeItems source expected (position + f.count) rest closed
    pure (g a, rest)

/-- The same fields with another result. -/
protected def map (g : α → β) (x : Fields α) : Fields β where
  count := x.count
  State := x.State
  start := x.start
  take := x.take
  finish state := (x.finish state).map g
  takeItems source expected position items closed :=
    (x.takeItems source expected position items closed).map fun (a, rest) => (g a, rest)

instance : Functor Fields := ⟨Fields.map, fun a => Fields.map fun _ => a⟩
instance : Pure Fields := ⟨Fields.pure⟩
instance : Seq Fields := ⟨fun f x => f.seq (x ())⟩

/-- One field under a name or one of its other names, with its value when the object lacks it and
its value when a list ends before it. -/
def field (name : String) (aliases : List String) (d : Decoder α) (absent : Option α)
    (beyond : Option α) : Fields α where
  count := 1
  State := Option α
  start := none
  take source key tree state :=
    if key = name ∨ key ∈ aliases then
      some (match state with
        | some _ => .error (.duplicateField name)
        | none => (d source tree).map some)
    else none
  finish
    | some a => .ok a
    | none => match absent with
      | some a => .ok a
      | none => .error (.missingField name)
  takeItems source expected position
    | tree :: rest, _ => (d source tree).map (·, rest)
    | [], closed =>
      if !closed then .error .malformed
      else match beyond with
        | some a => .ok (a, [])
        | none => .error (.wrongLength position expected)

/-- A field that has to be there. -/
def required (name : String) (d : Decoder α) (aliases : List String := []) : Fields α :=
  field name aliases d none none

/-- A field with a value for when it is missing. -/
def withDefault (name : String) (d : Decoder α) (value : α) (aliases : List String := []) :
    Fields α :=
  field name aliases d (some value) (some value)

/-- A field that may be missing or `null`. -/
def maybe (name : String) (d : Decoder α) : Fields (Option α) :=
  field name [] d.optional (some none) (some none)

/-- A field that may be missing or `null` in an object but not in a list. -/
def nullable (name : String) (d : Decoder α) : Fields (Option α) :=
  field name [] d.optional (some none) none

/-- The name of a record and its number of fields, for a list that is too short. -/
def expectation (fields : Fields α) (name : String) : String :=
  "struct " ++ name ++ " with " ++ fields.count.repr
    ++ (if fields.count = 1 then " element" else " elements")

/-- Takes in the fields of an object, passing over those that are not known. -/
def takeAll (fields : Fields α) (source : Source) :
    List (Option String × Tree) → fields.State → Except DecodeError fields.State
  | [], state => .ok state
  | (none, _) :: _, _ => .error .malformed
  | (some key, tree) :: rest, state =>
    match fields.take source key tree state with
    | some (.ok state) => takeAll fields source rest state
    | some (.error e) => .error e
    | none => if tree.intact then takeAll fields source rest state else .error .malformed

/-- Takes in the fields of an object and collects those that are not known, the last one first. -/
def takeKnown (fields : Fields α) (source : Source) :
    List (Option String × Tree) → fields.State → List (String × Json) →
      Except DecodeError (fields.State × List (String × Json))
  | [], state, others => .ok (state, others)
  | (none, _) :: _, _, _ => .error .malformed
  | (some key, tree) :: rest, state, others =>
    match fields.take source key tree state with
    | some (.ok state) => takeKnown fields source rest state others
    | some (.error e) => .error e
    | none =>
      match Decoder.any source tree with
      | .ok value => takeKnown fields source rest state ((key, value) :: others)
      | .error e => .error e

end Fields

namespace Decoder

variable {α : Type}

/-- A record given as an object or as the list of its fields; other fields are passed over. -/
def record (name : String) (fields : Fields α) : Decoder α
  | source, .object entries closed => do
    let inner ← source.enter
    let state ← fields.takeAll inner entries fields.start
    ensureClosed closed
    fields.finish state
  | source, .list trees closed => do
    let inner ← source.enter
    let (a, rest) ← fields.takeItems inner (fields.expectation name) 0 trees closed
    match source with
    | .text _ => if rest.isEmpty && closed then pure a else .error .malformed
    | .value =>
      if rest.isEmpty then pure a
      else .error (.wrongLength trees.length "fewer elements in array")
  | _, tree => .error (tree.mismatch ("struct " ++ name))

/-- A record given as an object whose other fields make up the rest of it: `rest` gets them in the
order of the text, after the known fields have been found complete. -/
def openRecord {β : Type} (name : String) (fields : Fields (β → α))
    (rest : List (String × Json) → Except DecodeError β) : Decoder α
  | source, .object entries closed => do
    let inner ← source.enter
    let (state, others) ← fields.takeKnown inner entries fields.start []
    ensureClosed closed
    let make ← fields.finish state
    let more ← rest others.reverse
    pure (make more)
  | _, tree => .error (tree.mismatch ("struct " ++ name))

/-- A record that keeps its other fields. -/
def withExtras (name : String) (fields : Fields (Dict Json → α)) : Decoder α :=
  openRecord name fields fun others => .ok (Dict.ofList others)

/-- The record of the fields that another record did not know. -/
def ofOthers (fields : Fields α) (others : List (String × Json)) : Except DecodeError α := do
  let state ← fields.takeAll .value (Json.toFieldTrees others) fields.start
  fields.finish state

end Decoder

end CloudLifecycle

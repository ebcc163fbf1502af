import CloudLifecycle.Json.Decoder
import CloudLifecycle.Proofs.Dict.Bindings

/-!
# The order of the fields of an object

A value that is read has the fields of its objects in ascending key order, each once.  `Json.sorted`
puts a value into this form, keeping of several fields with one key the last, and this is what is
read of any value that is not nested too deeply (`Decoder.any_toTree`).  A value that is in the form
already is read as it is (`Json.sorted_of_ordered`), and two values with the same sorted form have
the same members up to their order (`Json.lookup_of_sorted_eq`).
-/

set_option autoImplicit false

namespace CloudLifecycle

namespace Json

mutual

/-- The value with the fields of all objects in ascending key order. -/
def sorted : Json → Json
  | .list items => .list (sortedItems items)
  | .object fields => Json.ofFields (sortedFields fields)
  | v => v

def sortedItems : List Json → List Json
  | [] => []
  | item :: items => item.sorted :: sortedItems items

def sortedFields : List (String × Json) → List (String × Json)
  | [] => []
  | (key, value) :: fields => (key, value.sorted) :: sortedFields fields

end

mutual

/-- No object has a key twice. -/
def Distinct : Json → Prop
  | .list items => DistinctItems items
  | .object fields => Dict.DistinctKeys fields ∧ DistinctFields fields
  | _ => True

def DistinctItems : List Json → Prop
  | [] => True
  | item :: items => item.Distinct ∧ DistinctItems items

def DistinctFields : List (String × Json) → Prop
  | [] => True
  | (_, value) :: fields => value.Distinct ∧ DistinctFields fields

end

mutual

/-- All objects have their fields in ascending key order. -/
def Ordered : Json → Prop
  | .list items => OrderedItems items
  | .object fields => Ascending fields ∧ OrderedFields fields
  | _ => True

def OrderedItems : List Json → Prop
  | [] => True
  | item :: items => item.Ordered ∧ OrderedItems items

def OrderedFields : List (String × Json) → Prop
  | [] => True
  | (_, value) :: fields => value.Ordered ∧ OrderedFields fields

end

mutual

/-- How many objects and lists are inside one another. -/
def depth : Json → Nat
  | .list items => depthItems items + 1
  | .object fields => depthFields fields + 1
  | _ => 0

def depthItems : List Json → Nat
  | [] => 0
  | item :: items => max item.depth (depthItems items)

def depthFields : List (String × Json) → Nat
  | [] => 0
  | (_, value) :: fields => max value.depth (depthFields fields)

end

theorem sortedItems_eq (items : List Json) : sortedItems items = items.map sorted := by
  induction items with
  | nil => rfl
  | cons item items ih => rw [sortedItems, ih, List.map_cons]

theorem sortedFields_eq (fields : List (String × Json)) :
    sortedFields fields = fields.map fun field => (field.1, field.2.sorted) := by
  induction fields with
  | nil => rfl
  | cons field fields ih => rw [sortedFields, ih, List.map_cons]

theorem distinctItems_iff {items : List Json} :
    DistinctItems items ↔ ∀ item ∈ items, item.Distinct := by
  induction items with
  | nil => simp [DistinctItems]
  | cons item items ih => simp [DistinctItems, ih]

theorem distinctFields_iff {fields : List (String × Json)} :
    DistinctFields fields ↔ ∀ field ∈ fields, field.2.Distinct := by
  induction fields with
  | nil => simp [DistinctFields]
  | cons field fields ih => simp [DistinctFields, ih]

theorem orderedFields_iff {fields : List (String × Json)} :
    OrderedFields fields ↔ ∀ field ∈ fields, field.2.Ordered := by
  induction fields with
  | nil => simp [OrderedFields]
  | cons field fields ih => simp [OrderedFields, ih]

theorem depthItems_le_iff {items : List Json} {n : Nat} :
    depthItems items ≤ n ↔ ∀ item ∈ items, item.depth ≤ n := by
  induction items with
  | nil => simp [depthItems]
  | cons item items ih => rw [depthItems, Nat.max_le, ih, List.forall_mem_cons]

theorem depthFields_le_iff {fields : List (String × Json)} {n : Nat} :
    depthFields fields ≤ n ↔ ∀ field ∈ fields, field.2.depth ≤ n := by
  induction fields with
  | nil => simp [depthFields]
  | cons field fields ih => rw [depthFields, Nat.max_le, ih, List.forall_mem_cons]

@[simp] theorem sorted_list (items : List Json) :
    (Json.list items).sorted = .list (items.map sorted) := by
  rw [sorted, sortedItems_eq]

@[simp] theorem sorted_object (fields : List (String × Json)) :
    (Json.object fields).sorted =
      Json.ofFields (fields.map fun field => (field.1, field.2.sorted)) := by
  rw [sorted, sortedFields_eq]

theorem ordered_object_iff {fields : List (String × Json)} :
    (Json.object fields).Ordered ↔ Ascending fields ∧ ∀ field ∈ fields, field.2.Ordered := by
  rw [Ordered, orderedFields_iff]

theorem distinct_object_iff {fields : List (String × Json)} :
    (Json.object fields).Distinct ↔
      Dict.DistinctKeys fields ∧ ∀ field ∈ fields, field.2.Distinct := by
  rw [Distinct, distinctFields_iff]

mutual

/-- A value in order is its own sorted form. -/
theorem sorted_of_ordered : ∀ {v : Json}, v.Ordered → v.sorted = v
  | .null, _ | .bool _, _ | .whole _, _ | .real _, _ | .text _, _ => rfl
  | .list items, h => by
    rw [sorted, sortedItems_of_ordered h]
  | .object fields, h => by
    rw [sorted, sortedFields_of_ordered h.2, ofFields, ofDict, Dict.entries_ofList h.1]

theorem sortedItems_of_ordered : ∀ {items : List Json}, OrderedItems items →
    sortedItems items = items
  | [], _ => rfl
  | item :: items, h => by
    rw [sortedItems, sorted_of_ordered h.1, sortedItems_of_ordered h.2]

theorem sortedFields_of_ordered : ∀ {fields : List (String × Json)}, OrderedFields fields →
    sortedFields fields = fields
  | [], _ => rfl
  | (key, value) :: fields, h => by
    rw [sortedFields, sorted_of_ordered h.1, sortedFields_of_ordered h.2]

end

/-- The object of a dictionary is in order if its values are. -/
theorem ordered_ofDict {d : Dict Json} (h : ∀ v ∈ d.values, v.Ordered) : (ofDict d).Ordered := by
  refine ordered_object_iff.2 ⟨d.ascending, fun field hf => ?_⟩
  exact h field.2 (List.mem_map.2 ⟨field, hf, rfl⟩)

theorem ordered_ofFields {fields : List (String × Json)} (h : ∀ field ∈ fields, field.2.Ordered) :
    (ofFields fields).Ordered := by
  refine ordered_ofDict fun v hv => ?_
  obtain ⟨k, found⟩ := Dict.mem_values_iff.1 hv
  rw [Dict.find?_ofList] at found
  exact h (k, v) (List.mem_reverse.1 (Dict.mem_of_lookup found))

mutual

/-- The sorted form of a value is in order. -/
theorem ordered_sorted : ∀ (v : Json), v.sorted.Ordered
  | .null | .bool _ | .whole _ | .real _ | .text _ => trivial
  | .list items => by
    rw [sorted]
    exact ordered_sortedItems items
  | .object fields => by
    rw [sorted]
    exact ordered_ofFields (orderedFields_iff.1 (ordered_sortedFields fields))

theorem ordered_sortedItems : ∀ (items : List Json), OrderedItems (sortedItems items)
  | [] => trivial
  | item :: items => ⟨ordered_sorted item, ordered_sortedItems items⟩

theorem ordered_sortedFields :
    ∀ (fields : List (String × Json)), OrderedFields (sortedFields fields)
  | [] => trivial
  | (_, value) :: fields => ⟨ordered_sorted value, ordered_sortedFields fields⟩

end

@[simp] theorem sorted_sorted (v : Json) : v.sorted.sorted = v.sorted :=
  sorted_of_ordered (ordered_sorted v)

mutual

/-- A value in order has no key twice. -/
theorem distinct_of_ordered : ∀ {v : Json}, v.Ordered → v.Distinct
  | .null, _ | .bool _, _ | .whole _, _ | .real _, _ | .text _, _ => trivial
  | .list _, h => distinctItems_of_ordered h
  | .object fields, h => ⟨Dict.nodup_keys ⟨fields, h.1⟩, distinctFields_of_ordered h.2⟩

theorem distinctItems_of_ordered : ∀ {items : List Json}, OrderedItems items → DistinctItems items
  | [], _ => trivial
  | _ :: _, h => ⟨distinct_of_ordered h.1, distinctItems_of_ordered h.2⟩

theorem distinctFields_of_ordered : ∀ {fields : List (String × Json)}, OrderedFields fields →
    DistinctFields fields
  | [], _ => trivial
  | _ :: _, h => ⟨distinct_of_ordered h.1, distinctFields_of_ordered h.2⟩

end

/-- The members of an object are sorted with it. -/
theorem lookup_map_sorted (fields : List (String × Json)) (k : String) :
    (fields.map fun field => (field.1, field.2.sorted)).lookup k =
      (fields.lookup k).map sorted := by
  induction fields with
  | nil => rfl
  | cons field fields ih =>
    rw [List.map_cons, Dict.lookup_cons_if, Dict.lookup_cons_if, ih]
    split <;> rfl

theorem distinctKeys_map_sorted {fields : List (String × Json)} (h : Dict.DistinctKeys fields) :
    Dict.DistinctKeys (fields.map fun field => (field.1, field.2.sorted)) := by
  unfold Dict.DistinctKeys at h ⊢
  rwa [List.map_map]

/-- The sorted form of an object has the sorted forms of its members. -/
theorem find?_sorted {fields : List (String × Json)} (h : Dict.DistinctKeys fields) (k : String) :
    (Dict.ofList (fields.map fun field => (field.1, field.2.sorted))).find? k =
      (fields.lookup k).map sorted := by
  rw [Dict.find?_ofList_of_distinct (distinctKeys_map_sorted h), lookup_map_sorted]

theorem member?_sorted {fields : List (String × Json)} (h : Dict.DistinctKeys fields) (k : String) :
    (Json.object fields).sorted.member? k = ((Json.object fields).member? k).map sorted := by
  rw [sorted_object]
  exact find?_sorted h k

/-- A value that is an object up to the order of fields is an object with the same members up to
the order of their fields. -/
theorem lookup_of_sorted_eq {v : Json} {fields : List (String × Json)} (hv : v.Distinct)
    (hf : Dict.DistinctKeys fields) (same : v.sorted = (Json.object fields).sorted) :
    ∃ entries, v = .object entries ∧ Dict.DistinctKeys entries ∧
      (∀ entry ∈ entries, entry.2.Distinct) ∧
      ∀ k, (entries.lookup k).map sorted = (fields.lookup k).map sorted := by
  cases v with
  | object entries =>
    obtain ⟨distinct, inner⟩ := distinct_object_iff.1 hv
    refine ⟨entries, rfl, distinct, inner, fun k => ?_⟩
    rw [← find?_sorted distinct, ← find?_sorted hf]
    rw [sorted_object, sorted_object] at same
    injection same with equal
    exact congrArg (fun entries => entries.lookup k) equal
  | null | bool _ | whole _ | real _ | text _ =>
    rw [sorted_object] at same
    cases same
  | list items =>
    rw [sorted_object, sorted_list] at same
    cases same

end Json

/-! ## What is read of a value -/

/-- So many levels of nesting may be read. -/
def Source.Allows : Source → Nat → Prop
  | .text levels, depth => depth ≤ levels
  | .value, _ => True

namespace Source

theorem Allows.mono {source : Source} {n m : Nat} (h : source.Allows n) (le : m ≤ n) :
    source.Allows m := by
  cases source with
  | text levels => exact Nat.le_trans le h
  | value => trivial

/-- The parts of a value may have one level less. -/
theorem Allows.enter {source : Source} {n : Nat} (h : source.Allows (n + 1)) :
    ∃ inner, source.enter = .ok inner ∧ inner.Allows n := by
  cases source with
  | text levels =>
    cases levels with
    | zero => exact absurd h (Nat.not_succ_le_zero _)
    | succ levels => exact ⟨.text levels, rfl, Nat.le_of_succ_le_succ h⟩
  | value => exact ⟨.value, rfl, trivial⟩

end Source

namespace Decoder

open Json

mutual

/-- **What is read of a value** is its sorted form. -/
theorem json_toTree : ∀ (v : Json) {source : Source}, source.Allows v.depth →
    json source v.toTree = .ok v.sorted
  | .null, _, _ | .bool _, _, _ | .whole _, _, _ | .real _, _, _ | .text _, _, _ => rfl
  | .list items, source, h => by
    obtain ⟨inner, entered, allowed⟩ := Source.Allows.enter h
    rw [toTree, json, entered]
    show jsonItems inner _ >>= _ = _
    rw [jsonItems_toTrees items allowed, sorted]
    rfl
  | .object fields, source, h => by
    obtain ⟨inner, entered, allowed⟩ := Source.Allows.enter h
    rw [toTree, json, entered]
    show jsonFields inner _ >>= _ = _
    rw [jsonFields_toFieldTrees fields allowed, sorted]
    rfl

theorem jsonItems_toTrees : ∀ (items : List Json) {source : Source},
    source.Allows (depthItems items) →
      jsonItems source (toTrees items) = .ok (sortedItems items)
  | [], _, _ => rfl
  | item :: items, source, h => by
    rw [toTrees, jsonItems, json_toTree item (h.mono (Nat.le_max_left _ _)),
      jsonItems_toTrees items (h.mono (Nat.le_max_right _ _))]
    rfl

theorem jsonFields_toFieldTrees : ∀ (fields : List (String × Json)) {source : Source},
    source.Allows (depthFields fields) →
      jsonFields source (toFieldTrees fields) = .ok (sortedFields fields)
  | [], _, _ => rfl
  | (key, value) :: fields, source, h => by
    rw [toFieldTrees, jsonFields, json_toTree value (h.mono (Nat.le_max_left _ _)),
      jsonFields_toFieldTrees fields (h.mono (Nat.le_max_right _ _))]
    rfl

end

theorem any_toTree {v : Json} {source : Source} (h : source.Allows v.depth) :
    any source v.toTree = .ok v.sorted :=
  json_toTree v h

end Decoder

end CloudLifecycle

import CloudLifecycle.Json.Fields
import CloudLifecycle.Proofs.Dict.Bindings
import Mathlib.Data.List.Forall2

/-!
# Decoding the parts of a value

When a decoder of a list, of a dictionary or of a record with one field succeeds, and with which
result, in terms of the decoder of the parts.
-/

set_option autoImplicit false

namespace CloudLifecycle

variable {α : Type}

section Forall₂

variable {β : Type} {R : α → β → Prop} {as : List α} {bs : List β}

theorem exists_right_of_mem (h : List.Forall₂ R as bs) {a : α} (mem : a ∈ as) :
    ∃ b ∈ bs, R a b := by
  induction h with
  | nil => cases mem
  | cons stands _ ih =>
    rcases List.mem_cons.1 mem with rfl | mem
    · exact ⟨_, List.mem_cons_self, stands⟩
    · obtain ⟨b, among, stands⟩ := ih mem
      exact ⟨b, List.mem_cons_of_mem _ among, stands⟩

theorem exists_left_of_mem (h : List.Forall₂ R as bs) {b : β} (mem : b ∈ bs) :
    ∃ a ∈ as, R a b := by
  obtain ⟨a, among, stands⟩ := exists_right_of_mem h.flip mem
  exact ⟨a, among, stands⟩

end Forall₂

namespace Dict

variable {β : Type} {R : α → β → Prop} {as : List (String × α)} {bs : List (String × β)}

theorem forall₂_put {key : String} {a : α} {b : β} (hab : R a b)
    (h : List.Forall₂ (fun x y => x.1 = y.1 ∧ R x.2 y.2) as bs) :
    List.Forall₂ (fun x y => x.1 = y.1 ∧ R x.2 y.2) (put key a as) (put key b bs) := by
  induction h with
  | nil => exact .cons ⟨rfl, hab⟩ .nil
  | @cons x y as bs hxy hrest ih =>
    obtain ⟨k, x⟩ := x
    obtain ⟨_, y⟩ := y
    obtain ⟨rfl, hxy⟩ := hxy
    unfold put
    split
    · exact .cons ⟨rfl, hab⟩ (.cons ⟨rfl, hxy⟩ hrest)
    · split
      · exact .cons ⟨rfl, hab⟩ hrest
      · exact .cons ⟨rfl, hxy⟩ ih

/-- Related lists of bindings make related dictionaries. -/
theorem forall₂_ofList (h : List.Forall₂ (fun x y => x.1 = y.1 ∧ R x.2 y.2) as bs) :
    List.Forall₂ R (ofList as).values (ofList bs).values := by
  have folded (xs : Dict α) (ys : Dict β)
      (start : List.Forall₂ (fun x y => x.1 = y.1 ∧ R x.2 y.2) xs.entries ys.entries) :
      List.Forall₂ (fun x y => x.1 = y.1 ∧ R x.2 y.2)
        (as.foldl (fun d e => d.insert e.1 e.2) xs).entries
        (bs.foldl (fun d e => d.insert e.1 e.2) ys).entries := by
    induction h generalizing xs ys with
    | nil => exact start
    | @cons x y _ _ hxy _ ih =>
      refine ih _ _ ?_
      show List.Forall₂ _ (put x.1 x.2 xs.entries) (put y.1 y.2 ys.entries)
      rw [hxy.1]
      exact forall₂_put hxy.2 start
  refine (List.forall₂_map_left_iff.2 (List.forall₂_map_right_iff.2 ?_))
  exact (folded empty empty .nil).imp fun _ _ hxy => hxy.2

/-- Related lists of bindings have related values under each key. -/
theorem rel_lookup (h : List.Forall₂ (fun x y => x.1 = y.1 ∧ R x.2 y.2) as bs) (k : String) :
    Option.Rel R (as.lookup k) (bs.lookup k) := by
  induction h with
  | nil => exact .none
  | cons first _ ih =>
    rw [lookup_cons_if, lookup_cons_if, first.1]
    split
    · exact .some first.2
    · exact ih

theorem distinctKeys_of_forall₂ (h : List.Forall₂ (fun x y => x.1 = y.1) as bs)
    (distinct : DistinctKeys as) : DistinctKeys bs := by
  have keys : as.map (·.1) = bs.map (·.1) := by
    rwa [← List.forall₂_eq_eq_eq, List.forall₂_map_left_iff, List.forall₂_map_right_iff]
  unfold DistinctKeys at distinct ⊢
  rwa [← keys]

end Dict

namespace Decoder

theorem exists_forall₂ {β : Type} {R : α → β → Prop} {as : List α} (h : ∀ a ∈ as, ∃ b, R a b) :
    ∃ bs, List.Forall₂ R as bs := by
  induction as with
  | nil => exact ⟨[], .nil⟩
  | cons a as ih =>
    obtain ⟨⟨b, hb⟩, more⟩ := List.forall_mem_cons.1 h
    obtain ⟨bs, hbs⟩ := ih more
    exact ⟨b :: bs, .cons hb hbs⟩

variable {d : Decoder α} {source : Source}

theorem bind_eq_ok_iff {β : Type} {first : Except DecodeError α} {next : α → Except DecodeError β}
    {b : β} : (first >>= next) = .ok b ↔ ∃ a, first = .ok a ∧ next a = .ok b := by
  cases first with
  | error e => simp [bind, Except.bind]
  | ok a => simp [bind, Except.bind]

theorem eq_true_of_ensureClosed {closed : Bool} {u : Unit} (h : ensureClosed closed = .ok u) :
    closed = true := by
  cases closed with
  | true => rfl
  | false => cases h

/-- The items of a list decode one by one. -/
theorem items_eq_ok_iff {values : List Json} {results : List α} :
    items d source (Json.toTrees values) = .ok results ↔
      List.Forall₂ (fun value a => d source value.toTree = .ok a) values results := by
  induction values generalizing results with
  | nil => simp [Json.toTrees, items, eq_comm]
  | cons value values ih =>
    rw [List.forall₂_cons_left_iff]
    simp only [Json.toTrees, items, bind_eq_ok_iff, ← ih]
    constructor
    · rintro ⟨a, ha, more, hm, hr⟩
      exact ⟨a, more, ha, hm, (Except.ok.inj hr).symm⟩
    · rintro ⟨a, more, ha, hm, rfl⟩
      exact ⟨a, ha, more, hm, rfl⟩

/-- The values of an object decode one by one. -/
theorem fieldValues_eq_ok_iff {fields : List (String × Json)} {results : List (String × α)} :
    fieldValues d source (Json.toFieldTrees fields) = .ok results ↔
      List.Forall₂ (fun field result => field.1 = result.1 ∧ d source field.2.toTree = .ok result.2)
        fields results := by
  induction fields generalizing results with
  | nil => simp [Json.toFieldTrees, fieldValues, eq_comm]
  | cons field fields ih =>
    obtain ⟨key, value⟩ := field
    rw [List.forall₂_cons_left_iff]
    simp only [Json.toFieldTrees, fieldValues, bind_eq_ok_iff, ← ih]
    constructor
    · rintro ⟨a, ha, more, hm, hr⟩
      exact ⟨(key, a), more, ⟨rfl, ha⟩, hm, (Except.ok.inj hr).symm⟩
    · rintro ⟨⟨_, a⟩, more, ⟨rfl, ha⟩, hm, rfl⟩
      exact ⟨a, ha, more, hm, rfl⟩

/-- A list is decoded if all its items are. -/
theorem list_toTree_eq_ok_iff {values : List Json} {results : List α} :
    list d source (Json.list values).toTree = .ok results ↔ ∃ inner, source.enter = .ok inner ∧
      List.Forall₂ (fun value a => d inner value.toTree = .ok a) values results := by
  simp only [Json.toTree, list, bind_eq_ok_iff, items_eq_ok_iff]
  constructor
  · rintro ⟨inner, entered, _, h, _, _, finished⟩
    obtain rfl := Except.ok.inj finished
    exact ⟨inner, entered, h⟩
  · rintro ⟨inner, entered, h⟩
    exact ⟨inner, entered, results, h, (), rfl, rfl⟩

/-- An object is decoded as a dictionary if all its values are. -/
theorem dict_toTree_eq_ok_iff {fields : List (String × Json)} {result : Dict α} :
    dict d source (Json.object fields).toTree = .ok result ↔
      ∃ inner results, source.enter = .ok inner ∧
        List.Forall₂ (fun field result => field.1 = result.1 ∧
          d inner field.2.toTree = .ok result.2) fields results ∧ result = Dict.ofList results := by
  simp only [Json.toTree, dict, bind_eq_ok_iff, fieldValues_eq_ok_iff]
  constructor
  · rintro ⟨inner, entered, results, h, _, _, finished⟩
    exact ⟨inner, results, entered, h, (Except.ok.inj finished).symm⟩
  · rintro ⟨inner, results, entered, h, rfl⟩
    exact ⟨inner, entered, results, h, (), rfl, rfl⟩

/-- What is decoded of an object has the same keys, with what is decoded of their values. -/
theorem rel_find?_of_dict {fields : List (String × Json)} {result : Dict α}
    (distinct : Dict.DistinctKeys fields)
    (h : dict d source (Json.object fields).toTree = .ok result) :
    ∃ inner, source.enter = .ok inner ∧ ∀ k,
      Option.Rel (fun value a => d inner value.toTree = .ok a) (fields.lookup k)
        (result.find? k) := by
  obtain ⟨inner, results, entered, read, rfl⟩ := dict_toTree_eq_ok_iff.1 h
  refine ⟨inner, entered, fun k => ?_⟩
  have once := Dict.distinctKeys_of_forall₂ (read.imp fun _ _ h => h.1) distinct
  rw [Dict.find?_ofList_of_distinct once]
  exact Dict.rel_lookup (R := fun (value : Json) a => d inner value.toTree = .ok a) read k

/-- A value is decoded as a list if it is one and all its items decode. -/
theorem list_eq_ok_iff {value : Json} {results : List α} :
    list d .value value.toTree = .ok results ↔ ∃ values, value = .list values ∧
      List.Forall₂ (fun item a => d .value item.toTree = .ok a) values results := by
  cases value with
  | list values =>
    rw [list_toTree_eq_ok_iff]
    simp [Source.enter]
  | null | bool _ | whole _ | real _ | text _ | object _ =>
    simp [Json.toTree, list]

/-- A value is decoded as a dictionary if it is an object and all its values decode. -/
theorem dict_eq_ok_iff {value : Json} {result : Dict α} :
    dict d .value value.toTree = .ok result ↔ ∃ fields results, value = .object fields ∧
      List.Forall₂ (fun field result => field.1 = result.1 ∧ d .value field.2.toTree = .ok result.2)
        fields results ∧ result = Dict.ofList results := by
  cases value with
  | object fields =>
    rw [dict_toTree_eq_ok_iff]
    simp [Source.enter]
  | null | bool _ | whole _ | real _ | text _ | list _ =>
    simp [Json.toTree, dict]

mutual

/-- A tree that can be taken as a value is the tree of one. -/
theorem exists_of_json : {source : Source} → (tree : Tree) → {value : Json} →
    json source tree = .ok value → ∃ whole : Json, tree = whole.toTree
  | _, .null, _, _ => ⟨.null, rfl⟩
  | _, .bool b, _, _ => ⟨.bool b, rfl⟩
  | _, .whole i, _, _ => ⟨.whole i, rfl⟩
  | _, .real x, _, _ => ⟨.real x, rfl⟩
  | _, .text s, _, _ => ⟨.text s, rfl⟩
  | _, .list trees closed, _, h => by
    simp only [json, bind_eq_ok_iff] at h
    obtain ⟨_, _, values, taken, _, whole, _⟩ := h
    obtain ⟨items, rfl⟩ := exists_of_jsonItems trees taken
    obtain rfl := eq_true_of_ensureClosed whole
    exact ⟨.list items, rfl⟩
  | _, .object entries closed, _, h => by
    simp only [json, bind_eq_ok_iff] at h
    obtain ⟨_, _, values, taken, _, whole, _⟩ := h
    obtain ⟨fields, rfl⟩ := exists_of_jsonFields entries taken
    obtain rfl := eq_true_of_ensureClosed whole
    exact ⟨.object fields, rfl⟩
  | _, .valueless, _, h | _, .broken, _, h => nomatch h

theorem exists_of_jsonItems : {source : Source} → (trees : List Tree) → {values : List Json} →
    jsonItems source trees = .ok values → ∃ items, trees = Json.toTrees items
  | _, [], _, _ => ⟨[], rfl⟩
  | _, tree :: trees, _, h => by
    simp only [jsonItems, bind_eq_ok_iff] at h
    obtain ⟨_, first, _, more, _⟩ := h
    obtain ⟨item, rfl⟩ := exists_of_json tree first
    obtain ⟨items, rfl⟩ := exists_of_jsonItems trees more
    exact ⟨item :: items, rfl⟩

theorem exists_of_jsonFields : {source : Source} → (entries : List (Option String × Tree)) →
    {values : List (String × Json)} → jsonFields source entries = .ok values →
      ∃ fields, entries = Json.toFieldTrees fields
  | _, [], _, _ => ⟨[], rfl⟩
  | _, (none, _) :: _, _, h => nomatch h
  | _, (some key, tree) :: entries, _, h => by
    simp only [jsonFields, bind_eq_ok_iff] at h
    obtain ⟨_, first, _, more, _⟩ := h
    obtain ⟨value, rfl⟩ := exists_of_json tree first
    obtain ⟨fields, rfl⟩ := exists_of_jsonFields entries more
    exact ⟨(key, value) :: fields, rfl⟩

end

end Decoder

/-! ## Records with one field -/

namespace Fields

variable {source : Source} {entries : List (Option String × Tree)}

/-- Taking in the fields of an object goes on only past fields with a name. -/
theorem takeAll_cons_eq_ok {fields : Fields α} {entry : Option String × Tree}
    {state result : fields.State}
    (h : fields.takeAll source (entry :: entries) state = .ok result) :
    ∃ key, entry.1 = some key ∧
      ((fields.take source key entry.2 state = none ∧
          fields.takeAll source entries state = .ok result) ∨
        ∃ next, fields.take source key entry.2 state = some (.ok next) ∧
          fields.takeAll source entries next = .ok result) := by
  match entry with
  | (none, _) => cases h
  | (some key, tree) =>
    refine ⟨key, rfl, ?_⟩
    simp only [takeAll] at h
    split at h
    · exact .inr ⟨_, ‹_›, h⟩
    · cases h
    · split at h
      · exact .inl ⟨‹_›, h⟩
      · cases h

variable {d : Decoder α} {name : String} {absent beyond : Option α}

/-- A field that was taken stays: a second one of its name is a failure. -/
theorem takeAll_taken {a : α} {state : Option α}
    (h : (field name [] d absent beyond).takeAll source entries (some a) = .ok state) :
    state = some a := by
  induction entries with
  | nil => exact (Except.ok.inj h).symm
  | cons entry rest ih =>
    obtain ⟨key, _, ⟨_, hrest⟩ | ⟨next, taken, _⟩⟩ := takeAll_cons_eq_ok h
    · exact ih hrest
    · simp only [field] at taken
      split at taken
      · cases taken
      · cases taken

/-- What is taken of an object is the first field of the name. -/
theorem takeAll_field {state : Option α}
    (h : (field name [] d absent beyond).takeAll source entries none = .ok state) :
    match entries.lookup (some name) with
    | some part => ∃ a, d source part = .ok a ∧ state = some a
    | none => state = none := by
  induction entries with
  | nil => exact (Except.ok.inj h).symm
  | cons entry rest ih =>
    obtain ⟨found, tree⟩ := entry
    obtain ⟨key, named, outcome⟩ := takeAll_cons_eq_ok h
    obtain rfl : found = some key := named
    rw [List.lookup_cons]
    by_cases heq : key = name
    · subst heq
      obtain ⟨passed, _⟩ | ⟨next, taken, hrest⟩ := outcome
      · simp [field] at passed
      have taken : (d source tree).map some = .ok next := by simpa [field] using taken
      match hd : d source tree, taken with
      | .ok a, taken =>
        obtain rfl := Except.ok.inj taken
        simpa [hd] using takeAll_taken hrest
    · obtain ⟨_, hrest⟩ | ⟨next, taken, _⟩ := outcome
      · have other : (some name == some key) = false := by simpa using Ne.symm heq
        rw [other]
        exact ih hrest
      · simp [field, heq] at taken

end Fields

/-- The part of a tree that a record with one field of that name is made of. -/
def Tree.part (name : String) : Tree → Option Tree
  | .object entries _ => entries.lookup (some name)
  | .list items _ => items.head?
  | _ => none

/-- A record with one field that may be missing is read from its part. -/
theorem Decoder.record_eq_ok {d : Decoder α} {source : Source} {name key : String} {absent a : α}
    {tree : Tree} (h : record name (Fields.withDefault key d absent) source tree = .ok a) :
    match tree.part key with
    | some part => ∃ inner, d inner part = .ok a
    | none => a = absent := by
  cases tree with
  | object entries closed =>
    simp only [record, bind_eq_ok_iff] at h
    obtain ⟨inner, _, state, taken, _, _, finished⟩ := h
    have taken := Fields.takeAll_field taken
    rw [Tree.part]
    split at taken
    · obtain ⟨_, decoded, rfl⟩ := taken
      exact ⟨inner, Except.ok.inj finished ▸ decoded⟩
    · subst taken
      exact (Except.ok.inj finished).symm
  | list items closed =>
    simp only [record, bind_eq_ok_iff] at h
    obtain ⟨inner, _, ⟨first, rest⟩, taken, finished⟩ := h
    have same : first = a := by
      cases source <;> dsimp only at finished <;> split at finished
      all_goals first | exact Except.ok.inj finished | cases finished
    subst same
    cases items with
    | nil =>
      cases closed with
      | true => exact (Prod.mk.inj (Except.ok.inj taken)).1.symm
      | false => cases taken
    | cons item more =>
      refine ⟨inner, ?_⟩
      have taken : (d inner item).map (·, more) = .ok (first, rest) := taken
      match hd : d inner item, taken with
      | .ok a, taken => rw [(Prod.mk.inj (Except.ok.inj taken)).1]
  | null | bool _ | whole _ | real _ | text _ | valueless | broken => cases h

end CloudLifecycle

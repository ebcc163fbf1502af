import CloudLifecycle.Proofs.Json.Order
import CloudLifecycle.Proofs.Json.Values

/-!
# What a record is made of

A description of fields takes in the members of an object one by one.  Of an object without
repeated keys the order does not matter: `Fields.Describes` states which names the fields have and
what the record is in terms of the member under each name.  A single field is described by
`FieldIs`, and descriptions are put together as the fields are (`Describes.map`, `Describes.seq`).
A record that keeps its other fields has them in their sorted form (`Decoder.withExtras_eq_ok_iff`).
-/

set_option autoImplicit false

namespace CloudLifecycle

variable {α β : Type}

mutual

/-- Nothing is wrong with the tree of a value. -/
theorem Json.intact_toTree : ∀ v : Json, v.toTree.intact = true
  | .null | .bool _ | .whole _ | .real _ | .text _ => rfl
  | .list items => by
    rw [toTree, Tree.intact, intact_toTrees items]
    rfl
  | .object fields => by
    rw [toTree, Tree.intact, intact_toFieldTrees fields]
    rfl

theorem Json.intact_toTrees : ∀ items : List Json, Tree.intactItems (toTrees items) = true
  | [] => rfl
  | item :: items => by
    rw [toTrees, Tree.intactItems, Json.intact_toTree item, Json.intact_toTrees items]
    rfl

theorem Json.intact_toFieldTrees : ∀ fields : List (String × Json),
    Tree.intactFields (toFieldTrees fields) = true
  | [] => rfl
  | (_, value) :: fields => by
    rw [toFieldTrees, Tree.intactFields, Json.intact_toTree value, Json.intact_toFieldTrees fields]
    rfl

end

namespace Fields

open Json (toFieldTrees)

/-- What a field is, given the member of the object under its name. -/
def FieldIs (d : Decoder α) (absent : Option α) (source : Source) : Option Json → α → Prop
  | some member, a => d source member.toTree = .ok a
  | none, a => absent = some a

/-- A member of an object takes the fields from one state to the next: it is one of them and
decodes, or it is none of them. -/
def Passes (fields : Fields α) (source : Source) (member : String × Json)
    (state next : fields.State) : Prop :=
  fields.take source member.1 member.2.toTree state = some (.ok next) ∨
    (fields.take source member.1 member.2.toTree state = none ∧ state = next)

variable {source : Source} {entries : List (String × Json)}

theorem takeAll_cons_eq_ok_iff {fields : Fields α} {member : String × Json}
    {state result : fields.State} :
    fields.takeAll source (toFieldTrees (member :: entries)) state = .ok result ↔
      ∃ next, fields.Passes source member state next ∧
        fields.takeAll source (toFieldTrees entries) next = .ok result := by
  obtain ⟨key, value⟩ := member
  rw [toFieldTrees, takeAll]
  unfold Passes
  constructor
  · intro h
    split at h
    · exact ⟨_, .inl ‹_›, h⟩
    · cases h
    · rw [if_pos (Json.intact_toTree value)] at h
      exact ⟨state, .inr ⟨‹_›, rfl⟩, h⟩
  · rintro ⟨next, taken | ⟨other, rfl⟩, h⟩
    · simp only [taken, h]
    · simp only [other, Json.intact_toTree, if_true, h]

/-- The fields have these names, whatever their values are. -/
def HasNames (fields : Fields α) (names : List String) : Prop :=
  ∀ source key tree state, (fields.take source key tree state).isSome = true ↔ key ∈ names

section Names

variable {fields : Fields α} {names : List String}

theorem HasNames.take_eq_none (h : fields.HasNames names) {key : String} (other : key ∉ names)
    (tree : Tree) (state : fields.State) : fields.take source key tree state = none := by
  rw [← h source key tree state] at other
  simpa using other

theorem HasNames.take_ne_none (h : fields.HasNames names) {key : String} (own : key ∈ names)
    (tree : Tree) (state : fields.State) : fields.take source key tree state ≠ none := by
  intro none
  have some := (h source key tree state).2 own
  rw [none] at some
  cases some

/-- An object with other members only leaves the fields as they are. -/
theorem HasNames.takeAll_others (h : fields.HasNames names)
    (others : ∀ member ∈ entries, member.1 ∉ names) (state : fields.State) :
    fields.takeAll source (toFieldTrees entries) state = .ok state := by
  induction entries with
  | nil => rfl
  | cons member rest ih =>
    obtain ⟨first, more⟩ := List.forall_mem_cons.1 others
    exact takeAll_cons_eq_ok_iff.2 ⟨state, .inr ⟨h.take_eq_none first _ _, rfl⟩, ih more⟩

end Names

theorem hasNames_field (name : String) (aliases : List String) (d : Decoder α)
    (absent beyond : Option α) :
    (field name aliases d absent beyond).HasNames (name :: aliases) := by
  intro source key tree state
  simp only [field, List.mem_cons]
  split <;> simp [*]

theorem hasNames_seq {f : Fields (α → β)} {x : Fields α} {names more : List String}
    (hf : f.HasNames names) (hx : x.HasNames more) : (f.seq x).HasNames (names ++ more) := by
  intro source key tree state
  rw [List.mem_append, ← hf source key tree state.1, ← hx source key tree state.2]
  simp only [Fields.seq]
  split <;> simp [*]

/-- Two groups of fields take in an object independently of each other, if nothing is wrong with the
form of its members. -/
theorem takeAll_seq_iff_of_intact {f : Fields (α → β)} {x : Fields α} {names more : List String}
    (hf : f.HasNames names) (hx : x.HasNames more) (disjoint : ∀ key ∈ names, key ∉ more)
    {parts : List (Option String × Tree)} (intact : Tree.intactFields parts = true)
    {state result : (f.seq x).State} :
    (f.seq x).takeAll source parts state = .ok result ↔
      f.takeAll source parts state.1 = .ok result.1 ∧
        x.takeAll source parts state.2 = .ok result.2 := by
  induction parts generalizing state with
  | nil =>
    constructor
    · intro h
      rw [← Except.ok.inj h]
      exact ⟨rfl, rfl⟩
    · rintro ⟨first, second⟩
      exact congrArg Except.ok (Prod.ext (Except.ok.inj first) (Except.ok.inj second))
  | cons part rest ih =>
    obtain ⟨key, tree⟩ := part
    obtain ⟨s, t⟩ := state
    obtain ⟨whole, fewer⟩ := Bool.and_eq_true_iff.1 intact
    cases key with
    | none => simp [takeAll]
    | some key =>
      by_cases own : key ∈ names
      · have other : x.take source key tree t = none := hx.take_eq_none (disjoint key own) _ _
        cases taken : f.take source key tree s with
        | none => exact absurd taken (hf.take_ne_none own _ _)
        | some found =>
          cases found with
          | error e => simp [takeAll, Fields.seq, taken, Except.map]
          | ok next =>
            simp only [takeAll, Fields.seq, taken, other, whole, Except.map, if_true]
            exact ih fewer
      · have other : f.take source key tree s = none := hf.take_eq_none own _ _
        cases taken : x.take source key tree t with
        | none =>
          simp only [takeAll, Fields.seq, taken, other, whole, Option.map_none, if_true]
          exact ih fewer
        | some found =>
          cases found with
          | error e => simp [takeAll, Fields.seq, taken, other, Except.map]
          | ok next =>
            simp only [takeAll, Fields.seq, taken, other, whole, Except.map, Option.map_some,
              if_true]
            exact ih fewer

theorem takeAll_seq_iff {f : Fields (α → β)} {x : Fields α} {names more : List String}
    (hf : f.HasNames names) (hx : x.HasNames more) (disjoint : ∀ key ∈ names, key ∉ more)
    {state result : (f.seq x).State} :
    (f.seq x).takeAll source (toFieldTrees entries) state = .ok result ↔
      f.takeAll source (toFieldTrees entries) state.1 = .ok result.1 ∧
        x.takeAll source (toFieldTrees entries) state.2 = .ok result.2 :=
  takeAll_seq_iff_of_intact hf hx disjoint (Json.intact_toFieldTrees entries)

/-- The fields make this record of the members of an object. -/
def Makes (fields : Fields α) (source : Source) (parts : List (Option String × Tree)) (a : α) :
    Prop :=
  ∃ state, fields.takeAll source parts fields.start = .ok state ∧ fields.finish state = .ok a

/-- The fields have these names and make a record of the members of an object as `Is` tells,
whatever the order of the members. -/
structure Describes (fields : Fields α) (names : List String)
    (Is : Source → (String → Option Json) → α → Prop) : Prop where
  names : fields.HasNames names
  makes : ∀ {source : Source} {entries : List (String × Json)} {a : α}, Dict.DistinctKeys entries →
    ((∃ state, fields.takeAll source (toFieldTrees entries) fields.start = .ok state ∧
        fields.finish state = .ok a) ↔ Is source (fun name => entries.lookup name) a)

/-- A field is made of the member under its name. -/
theorem passes_field_iff (name : String) (d : Decoder α) (absent beyond : Option α) {value : Json}
    {a : α} :
    (∃ next, (field name [] d absent beyond).Passes source (name, value)
        (field name [] d absent beyond).start next ∧
        (field name [] d absent beyond).finish next = .ok a) ↔ d source value.toTree = .ok a := by
  have taken : (field name [] d absent beyond).take source name value.toTree
      (field name [] d absent beyond).start = some ((d source value.toTree).map some) :=
    if_pos (.inl rfl)
  constructor
  · rintro ⟨next, passed | ⟨other, _⟩, finished⟩
    · rw [taken] at passed
      cases decoded : d source value.toTree with
      | error e =>
        rw [decoded] at passed
        cases passed
      | ok b =>
        rw [decoded] at passed
        obtain rfl := Except.ok.inj (Option.some.inj passed)
        exact finished
    · rw [taken] at other
      cases other
  · intro decoded
    refine ⟨some a, .inl ?_, rfl⟩
    rw [taken, decoded]
    rfl

theorem describes_field (name : String) (d : Decoder α) (absent beyond : Option α) :
    (field name [] d absent beyond).Describes [name]
      fun source member a => FieldIs d absent source (member name) a := by
  have names := hasNames_field name [] d absent beyond
  refine ⟨names, fun {source entries a} distinct => ?_⟩
  induction entries with
  | nil =>
    unfold FieldIs
    constructor
    · rintro ⟨_, taken, finished⟩
      obtain rfl := Except.ok.inj taken
      cases absent with
      | none => cases finished
      | some value => exact congrArg some (Except.ok.inj finished)
    · rintro rfl
      exact ⟨none, rfl, rfl⟩
  | cons member rest ih =>
    obtain ⟨fresh, fewer⟩ := List.nodup_cons.1 distinct
    obtain ⟨key, value⟩ := member
    simp only [takeAll_cons_eq_ok_iff, Dict.lookup_cons_if]
    by_cases own : name = key
    · subst own
      have others : ∀ member ∈ rest, member.1 ∉ [name] := by
        intro member hm same
        rw [List.mem_singleton] at same
        exact fresh (List.mem_map.2 ⟨member, hm, same⟩)
      rw [if_pos rfl]
      refine Iff.trans ?_ (passes_field_iff name d absent beyond)
      constructor
      · rintro ⟨state, ⟨next, passed, taken⟩, finished⟩
        rw [names.takeAll_others others] at taken
        obtain rfl := Except.ok.inj taken
        exact ⟨next, passed, finished⟩
      · rintro ⟨next, passed, finished⟩
        exact ⟨next, ⟨next, passed, names.takeAll_others others next⟩, finished⟩
    · rw [if_neg own, ← ih fewer]
      have other : key ∉ [name] := by simpa using Ne.symm own
      constructor
      · rintro ⟨state, ⟨next, passed | ⟨_, rfl⟩, taken⟩, finished⟩
        · rw [names.take_eq_none other] at passed
          cases passed
        · exact ⟨state, taken, finished⟩
      · rintro ⟨state, taken, finished⟩
        exact ⟨state, ⟨_, .inr ⟨names.take_eq_none other _ _, rfl⟩, taken⟩, finished⟩

/-- A change of the result does not change what is taken in. -/
theorem takeAll_map (g : α → β) (x : Fields α) (parts : List (Option String × Tree))
    (state : x.State) : (x.map g).takeAll source parts state = x.takeAll source parts state := by
  induction parts generalizing state with
  | nil => rfl
  | cons part rest ih =>
    obtain ⟨_ | key, tree⟩ := part
    · rfl
    · have same : (x.map g).take source key tree state = x.take source key tree state := rfl
      simp only [takeAll, same]
      cases x.take source key tree state with
      | none =>
        simp only [ih]
        rfl
      | some result =>
        cases result with
        | error e => rfl
        | ok next => exact ih next

variable {f : Fields (α → β)} {x : Fields α} {names more : List String}
  {Makes : Source → (String → Option Json) → (α → β) → Prop}
  {Is : Source → (String → Option Json) → α → Prop}

theorem makes_map_iff {parts : List (Option String × Tree)} {g : α → β} {b : β} :
    (g <$> x).Makes source parts b ↔ ∃ a, x.Makes source parts a ∧ g a = b := by
  constructor
  · rintro ⟨state, taken, finished⟩
    have taken : (x.map g).takeAll source parts x.start = .ok state := taken
    have finished : (x.finish state).map g = .ok b := finished
    rw [takeAll_map] at taken
    cases made : x.finish state with
    | error e =>
      rw [made] at finished
      cases finished
    | ok a =>
      rw [made] at finished
      exact ⟨a, ⟨state, taken, made⟩, Except.ok.inj finished⟩
  · rintro ⟨a, ⟨state, taken, made⟩, rfl⟩
    refine ⟨state, (takeAll_map g x _ _).trans taken, ?_⟩
    show (x.finish state).map g = _
    rw [made]
    rfl

/-- Two groups of fields make their parts of the record independently of each other. -/
theorem makes_seq_iff (hf : f.HasNames names) (hx : x.HasNames more)
    (disjoint : ∀ key ∈ names, key ∉ more) {parts : List (Option String × Tree)}
    (intact : Tree.intactFields parts = true) {b : β} :
    (f <*> x).Makes source parts b ↔
      ∃ g a, f.Makes source parts g ∧ x.Makes source parts a ∧ g a = b := by
  constructor
  · rintro ⟨state, taken, finished⟩
    obtain ⟨first, second⟩ := (takeAll_seq_iff_of_intact hf hx disjoint intact).1 taken
    obtain ⟨g, hg, finished⟩ := Decoder.bind_eq_ok_iff.1 finished
    obtain ⟨a, ha, finished⟩ := Decoder.bind_eq_ok_iff.1 finished
    exact ⟨g, a, ⟨_, first, hg⟩, ⟨_, second, ha⟩, Except.ok.inj finished⟩
  · rintro ⟨g, a, ⟨s, first, hg⟩, ⟨t, second, ha⟩, rfl⟩
    refine ⟨(s, t), (takeAll_seq_iff_of_intact hf hx disjoint intact).2 ⟨first, second⟩, ?_⟩
    exact Decoder.bind_eq_ok_iff.2 ⟨g, hg, Decoder.bind_eq_ok_iff.2 ⟨a, ha, rfl⟩⟩

theorem Describes.map (h : x.Describes names Is) (g : α → β) :
    (g <$> x).Describes names fun source member b => ∃ a, Is source member a ∧ g a = b := by
  refine ⟨h.names, fun {source entries b} distinct => makes_map_iff.trans ?_⟩
  simp only [← h.makes distinct, Fields.Makes]

theorem Describes.seq (hf : f.Describes names Makes) (hx : x.Describes more Is)
    (disjoint : ∀ key ∈ names, key ∉ more) :
    (f <*> x).Describes (names ++ more) fun source member b =>
      ∃ g a, Makes source member g ∧ Is source member a ∧ g a = b := by
  refine ⟨hasNames_seq hf.names hx.names, fun {source entries b} distinct => ?_⟩
  refine (makes_seq_iff hf.names hx.names disjoint (Json.intact_toFieldTrees entries)).trans ?_
  simp only [← hf.makes distinct, ← hx.makes distinct, Fields.Makes]

/-- The members that are none of the fields, in their sorted form. -/
def others (names : List String) (entries : List (String × Json)) : List (String × Json) :=
  (entries.filter fun member => !names.contains member.1).map fun member =>
    (member.1, member.2.sorted)

/-- The members that are none of the fields are collected, and the others are taken in as before. -/
theorem HasNames.takeKnown_eq_ok_iff (h : x.HasNames names)
    (allowed : ∀ member ∈ entries, source.Allows member.2.depth) {state result : x.State}
    {before after : List (String × Json)} :
    x.takeKnown source (toFieldTrees entries) state before = .ok (result, after) ↔
      x.takeAll source (toFieldTrees entries) state = .ok result ∧
        after = (others names entries).reverse ++ before := by
  induction entries generalizing state before with
  | nil => simp [toFieldTrees, takeKnown, takeAll, others, eq_comm]
  | cons member rest ih =>
    obtain ⟨key, value⟩ := member
    obtain ⟨readable, allowed⟩ := List.forall_mem_cons.1 allowed
    rw [toFieldTrees, takeKnown, takeAll]
    by_cases own : key ∈ names
    · have same : others names ((key, value) :: rest) = others names rest := by
        unfold others
        rw [List.filter_cons_of_neg (by simpa using own)]
      rw [same]
      split
      · exact ih allowed
      · simp
      · exact absurd ‹_› (h.take_ne_none own _ _)
    · have more :
          others names ((key, value) :: rest) = (key, value.sorted) :: others names rest := by
        unfold others
        rw [List.filter_cons_of_pos (by simpa using own), List.map_cons]
      simp only [h.take_eq_none own, Decoder.any_toTree readable, Json.intact_toTree, if_true]
      rw [ih allowed, more, List.reverse_cons, List.append_assoc]
      rfl

theorem lookup_others (names : List String) (entries : List (String × Json)) (k : String) :
    (others names entries).lookup k =
      if k ∈ names then none else (entries.lookup k).map Json.sorted := by
  rw [others, Json.lookup_map_sorted, Dict.lookup_filter_key fun key => !names.contains key]
  by_cases own : k ∈ names <;> simp [own]

/-- The other members are found where the object has them. -/
theorem find?_others (distinct : Dict.DistinctKeys entries) (k : String) :
    (Dict.ofList (others names entries)).find? k =
      if k ∈ names then none else (entries.lookup k).map Json.sorted := by
  have few : Dict.DistinctKeys (others names entries) := by
    refine Json.distinctKeys_map_sorted ?_
    exact List.Nodup.sublist (List.filter_sublist.map _) distinct
  rw [Dict.find?_ofList_of_distinct few, lookup_others]

end Fields

namespace Decoder

open Json (toFieldTrees)

variable {fields : Fields α} {names : List String}
  {Is : Source → (String → Option Json) → α → Prop} {source : Source}
  {entries : List (String × Json)}

/-- A record is made of the members of an object. -/
theorem record_object_eq_ok_iff {parts : List (Option String × Tree)} {name : String} {a : α} :
    record name fields source (.object parts true) = .ok a ↔
      ∃ inner, source.enter = .ok inner ∧ fields.Makes inner parts a := by
  simp only [record, bind_eq_ok_iff]
  constructor
  · rintro ⟨inner, entered, state, taken, _, _, finished⟩
    exact ⟨inner, entered, state, taken, finished⟩
  · rintro ⟨inner, entered, state, taken, finished⟩
    exact ⟨inner, entered, state, taken, (), rfl, finished⟩

/-- A record is read from an object of its members. -/
theorem record_eq_ok_iff (h : fields.Describes names Is) (distinct : Dict.DistinctKeys entries)
    {name : String} {a : α} :
    record name fields source (Json.object entries).toTree = .ok a ↔
      ∃ inner, source.enter = .ok inner ∧ Is inner (fun name => entries.lookup name) a := by
  simp only [← h.makes distinct]
  exact record_object_eq_ok_iff

/-- A record that keeps its other fields is read from an object of its members and has the others
in their sorted form. -/
theorem withExtras_eq_ok_iff {fields : Fields (Dict Json → α)}
    {Makes : Source → (String → Option Json) → (Dict Json → α) → Prop}
    (h : fields.Describes names Makes) (distinct : Dict.DistinctKeys entries)
    (allowed : source.Allows (Json.object entries).depth) {name : String} {a : α} :
    withExtras name fields source (Json.object entries).toTree = .ok a ↔
      ∃ inner make, source.enter = .ok inner ∧ Makes inner (fun name => entries.lookup name) make ∧
        a = make (Dict.ofList (Fields.others names entries)) := by
  obtain ⟨inner, entered, readable⟩ := Source.Allows.enter allowed
  have readable : ∀ member ∈ entries, inner.Allows member.2.depth := fun member hm =>
    readable.mono (Json.depthFields_le_iff.1 (Nat.le_refl _) member hm)
  simp only [← h.makes distinct, Json.toTree, withExtras, openRecord, bind_eq_ok_iff, entered]
  constructor
  · rintro ⟨_, same, ⟨state, others⟩, taken, _, _, make, made, _, rest, finished⟩
    obtain rfl := Except.ok.inj same
    obtain ⟨known, rfl⟩ := (h.names.takeKnown_eq_ok_iff readable).1 taken
    refine ⟨inner, make, rfl, ⟨state, known, made⟩, ?_⟩
    rw [List.append_nil, List.reverse_reverse] at rest
    rw [← Except.ok.inj finished, ← Except.ok.inj rest]
  · rintro ⟨_, make, same, ⟨state, taken, made⟩, rfl⟩
    obtain rfl := Except.ok.inj same
    refine ⟨inner, rfl, (state, _), (h.names.takeKnown_eq_ok_iff readable).2 ⟨taken, rfl⟩, (), rfl,
      make, made, _, rfl, ?_⟩
    rw [List.append_nil, List.reverse_reverse]
    rfl

/-- Such a record is read from objects only. -/
theorem object_of_withExtras {fields : Fields (Dict Json → α)} {name : String} {value : Json}
    {a : α} (h : withExtras name fields source value.toTree = .ok a) :
    ∃ entries, value = .object entries := by
  cases value with
  | object entries => exact ⟨entries, rfl⟩
  | null | bool _ | whole _ | real _ | text _ | list _ => cases h

/-! ## Values that are read in any order -/

/-- The decoder reads the value as `a`, with the members of its objects in any order. -/
def Recovers (d : Decoder α) (value : Json) (a : α) : Prop :=
  ∀ ⦃source : Source⦄ ⦃v : Json⦄, v.Distinct → v.sorted = value.sorted → source.Allows v.depth →
    d source v.toTree = .ok a

theorem recovers_text (s : String) : text.Recovers (.text s) s := by
  intro source v _ same _
  cases v with
  | text t =>
    obtain rfl := Json.text.inj same
    rfl
  | null | bool _ | whole _ | real _ => cases same
  | list items =>
    rw [Json.sorted_list] at same
    cases same
  | object fields =>
    rw [Json.sorted_object] at same
    cases same

theorem recovers_any (value : Json) : any.Recovers value value.sorted := by
  intro source v _ same readable
  rw [any_toTree readable, same]

/-- The items of a list are read one by one. -/
theorem recovers_list {d : Decoder α} {values : List Json} {results : List α}
    (h : List.Forall₂ d.Recovers values results) : (list d).Recovers (.list values) results := by
  intro source v distinct same allowed
  cases v with
  | list items =>
    obtain ⟨inner, entered, readable⟩ := Source.Allows.enter allowed
    rw [Json.sorted_list, Json.sorted_list, Json.list.injEq] at same
    refine list_toTree_eq_ok_iff.2 ⟨inner, entered, ?_⟩
    have fine : ∀ item ∈ items, item.Distinct := Json.distinctItems_iff.1 distinct
    have near : ∀ item ∈ items, inner.Allows item.depth := fun item hm =>
      readable.mono (Json.depthItems_le_iff.1 (Nat.le_refl _) item hm)
    clear distinct allowed entered readable
    induction h generalizing items with
    | nil =>
      obtain rfl := List.map_eq_nil_iff.1 same
      exact .nil
    | cons first _ ih =>
      cases items with
      | nil => cases same
      | cons item items =>
        obtain ⟨head, tail⟩ := List.cons_eq_cons.1 same
        obtain ⟨fine, others⟩ := List.forall_mem_cons.1 fine
        obtain ⟨near, further⟩ := List.forall_mem_cons.1 near
        exact .cons (first fine head near) (ih items tail others further)
  | null | bool _ | whole _ | real _ | text _ =>
    rw [Json.sorted_list] at same
    cases same
  | object fields =>
    rw [Json.sorted_list, Json.sorted_object] at same
    cases same

theorem recovers_texts (items : List String) : (list text).Recovers (Json.texts items) items := by
  refine recovers_list (List.forall₂_map_left_iff.2 (List.forall₂_same.2 fun s _ => ?_))
  exact recovers_text s

/-- What a decoder reads of a value that is not `null` it also reads where `null` may stand. -/
theorem recovers_optional {d : Decoder α} {value : Json} {a : α} (h : d.Recovers value a)
    (present : value ≠ .null) : d.optional.Recovers value (some a) := by
  intro source v distinct same readable
  have read := h distinct same readable
  cases v with
  | null =>
    refine absurd ?_ present
    cases value with
    | null => rfl
    | bool _ | whole _ | real _ | text _ => cases same
    | list items =>
      rw [Json.sorted_list] at same
      cases same
    | object fields =>
      rw [Json.sorted_object] at same
      cases same
  | bool _ | whole _ | real _ | text _ | list _ | object _ =>
    exact congrArg (Except.map some) read

/-- A value that is read where `null` may stand is not `null`, and its keys are in order. -/
theorem ordered_of_optional_any {value v : Json}
    (h : any.optional .value value.toTree = .ok (some v)) : v ≠ .null ∧ v.Ordered := by
  have read : any .value value.toTree = .ok value.sorted := any_toTree trivial
  cases value with
  | null => cases h
  | bool _ | whole _ | real _ | text _ =>
    obtain rfl := Option.some.inj (Except.ok.inj h)
    exact ⟨nofun, trivial⟩
  | list items =>
    have h : (any .value (Json.list items).toTree).map some = .ok (some v) := h
    rw [read] at h
    obtain rfl := Option.some.inj (Except.ok.inj h)
    exact ⟨by simp, Json.ordered_sorted _⟩
  | object fields =>
    have h : (any .value (Json.object fields).toTree).map some = .ok (some v) := h
    rw [read] at h
    obtain rfl := Option.some.inj (Except.ok.inj h)
    exact ⟨by simp [Json.ofFields, Json.ofDict], Json.ordered_sorted _⟩

/-- The bindings of a dictionary are read one by one. -/
theorem recovers_dict {d : Decoder α} {result : Dict α} {encode : α → Json}
    (h : ∀ a ∈ result.values, d.Recovers (encode a) a) :
    (dict d).Recovers (Json.ofDict (result.mapValues encode)) result := by
  intro source v distinct same readable
  obtain ⟨entries, rfl, distinct, fine, members⟩ :=
    Json.lookup_of_sorted_eq distinct (Dict.nodup_keys _) same
  obtain ⟨inner, entered, readable⟩ := Source.Allows.enter readable
  have members (k : String) :
      (entries.lookup k).map Json.sorted = (result.find? k).map fun a => (encode a).sorted := by
    have found := Dict.find?_mapValues encode result k
    unfold Dict.find? at found
    rw [members, found, Option.map_map]
    rfl
  have decoded {k : String} {value : Json} (held : entries.lookup k = some value) :
      ∃ a, result.find? k = some a ∧ d inner value.toTree = .ok a := by
    have found := members k
    rw [held] at found
    obtain ⟨a, bound, same⟩ := Option.map_eq_some_iff.1 found.symm
    have hm := Dict.mem_of_lookup held
    refine ⟨a, bound, h a (Dict.mem_values_iff.2 ⟨_, bound⟩) (fine _ hm) same.symm ?_⟩
    exact readable.mono (Json.depthFields_le_iff.1 (Nat.le_refl _) _ hm)
  have each : ∀ entry ∈ entries, ∃ binding : String × α,
      entry.1 = binding.1 ∧ d inner entry.2.toTree = .ok binding.2 := by
    intro entry hm
    obtain ⟨a, _, read⟩ := decoded ((Dict.lookup_eq_some_iff distinct).2 hm)
    exact ⟨(entry.1, a), rfl, read⟩
  obtain ⟨bindings, read⟩ := exists_forall₂ each
  refine dict_toTree_eq_ok_iff.2 ⟨inner, bindings, entered, read,
    (Dict.ext_find? fun k => ?_).symm⟩
  have once := Dict.distinctKeys_of_forall₂ (read.imp fun _ _ h => h.1) distinct
  have related := Dict.rel_lookup (R := fun (value : Json) a => d inner value.toTree = .ok a) read k
  rw [Dict.find?_ofList_of_distinct once]
  cases held : entries.lookup k with
  | none =>
    have found := members k
    rw [held] at related found
    generalize bindings.lookup k = there at related
    cases related
    exact (Option.map_eq_none_iff.1 found.symm).symm
  | some value =>
    obtain ⟨a, bound, here⟩ := decoded held
    rw [held] at related
    generalize bindings.lookup k = found at related
    cases related with
    | some there => rw [bound, Except.ok.inj (here.symm.trans there)]

end Decoder

namespace Fields

/-- The member of an object from which a field is read as `a`, if it has one. -/
def Encodes (d : Decoder α) (absent : Option α) : Option Json → α → Prop
  | some value, a => d.Recovers value a
  | none, a => absent = some a

/-- A field that is left out if there is nothing to write. -/
theorem encodes_maybe {d : Decoder α} {encode : α → Json} {a? : Option α}
    (h : ∀ a, a? = some a → d.Recovers (encode a) a ∧ encode a ≠ .null) :
    Encodes d.optional (some none) (a?.map encode) a? := by
  cases a? with
  | none => rfl
  | some a => exact Decoder.recovers_optional (h a rfl).1 (h a rfl).2

theorem encodes_text (s? : Option String) :
    Encodes Decoder.text.optional (some none) (s?.map .text) s? :=
  encodes_maybe fun s _ => ⟨Decoder.recovers_text s, nofun⟩

/-- A list that is left out if it is empty. -/
theorem encodes_listIf (items : List String) :
    Encodes (Decoder.list Decoder.text) (some [])
      (if items.isEmpty then none else some (Json.texts items)) items := by
  cases items with
  | nil => rfl
  | cons item items => exact Decoder.recovers_texts (item :: items)

/-- The kept fields of a record: none has the name of a typed field, and their values have their
keys in ascending order. -/
structure Extend (extra : Dict Json) (names : List String) : Prop where
  fresh : ∀ k ∈ names, extra.find? k = none
  ordered : ∀ v ∈ extra.values, v.Ordered

variable {names : List String} {entries : List (String × Json)}

/-- The other members of an object are kept. -/
theorem extend_others (distinct : Dict.DistinctKeys entries) :
    Extend (Dict.ofList (others names entries)) names := by
  constructor
  · intro k own
    rw [find?_others distinct, if_pos own]
  · intro v hv
    obtain ⟨k, found⟩ := Dict.mem_values_iff.1 hv
    rw [find?_others distinct] at found
    split at found
    · cases found
    · obtain ⟨value, _, rfl⟩ := Option.map_eq_some_iff.1 found
      exact Json.ordered_sorted value

/-- Of an object in order the other members are kept as they are. -/
theorem find?_others_of_ordered (ordered : (Json.object entries).Ordered) {k : String}
    (other : k ∉ names) : (Dict.ofList (others names entries)).find? k = entries.lookup k := by
  rw [find?_others (Json.distinct_object_iff.1 (Json.distinct_of_ordered ordered)).1, if_neg other]
  cases held : entries.lookup k with
  | none => rfl
  | some v =>
    have inner := (Json.ordered_object_iff.1 ordered).2 (k, v) (Dict.mem_of_lookup held)
    exact congrArg some (Json.sorted_of_ordered inner)

/-- What is written of the kept fields is kept again. -/
theorem ofList_others {extra : Dict Json} (h : Extend extra names)
    (distinct : Dict.DistinctKeys entries)
    (same : ∀ k ∉ names, (entries.lookup k).map Json.sorted = (extra.find? k).map Json.sorted) :
    Dict.ofList (others names entries) = extra := by
  refine Dict.ext_find? fun k => ?_
  rw [find?_others distinct]
  split
  · rename_i own
    exact (h.fresh k own).symm
  · rename_i other
    rw [same k other]
    cases found : extra.find? k with
    | none => rfl
    | some v =>
      exact congrArg some (Json.sorted_of_ordered (h.ordered v (Dict.mem_values_iff.2 ⟨k, found⟩)))

end Fields

namespace Json

open Fields

/-- **A record in any order.** Of a value with the members of a record, whatever their order, each
field is what it is in the record. -/
theorem exists_members {fields : List (String × Json)} (own : Dict.DistinctKeys fields) {v : Json}
    {source : Source} (distinct : v.Distinct) (same : v.sorted = (Json.object fields).sorted)
    (readable : source.Allows v.depth) :
    ∃ entries inner, v = .object entries ∧ Dict.DistinctKeys entries ∧ source.enter = .ok inner ∧
      (∀ {β : Type} {d : Decoder β} {absent : Option β} {name : String} {b : β},
        Encodes d absent (fields.lookup name) b → FieldIs d absent inner (entries.lookup name) b) ∧
      ∀ k, (entries.lookup k).map sorted = (fields.lookup k).map sorted := by
  obtain ⟨entries, rfl, distinct, fine, members⟩ := lookup_of_sorted_eq distinct own same
  obtain ⟨inner, entered, readable⟩ := Source.Allows.enter readable
  refine ⟨entries, inner, rfl, distinct, entered, fun {β d absent name b} h => ?_, members⟩
  have found := members name
  cases expected : fields.lookup name with
  | none =>
    rw [expected] at found h
    rw [Option.map_eq_none_iff.1 found]
    exact h
  | some value =>
    rw [expected] at found h
    obtain ⟨member, held, same⟩ := Option.map_eq_some_iff.1 found
    rw [held]
    have hm := Dict.mem_of_lookup held
    exact h (fine _ hm) same (readable.mono (depthFields_le_iff.1 (Nat.le_refl _) _ hm))

end Json

end CloudLifecycle

import CloudLifecycle.Dict
import Mathlib.Data.List.Nodup

/-!
# The bindings of a dictionary

A dictionary is what its look-ups say (`Dict.ext_find?`).  Of a list of bindings with different keys
it holds just these (`Dict.find?_ofList_eq_some_iff`), so that it does not depend on their order,
and a list in ascending key order is its list of entries (`Dict.entries_ofList`).
-/

set_option autoImplicit false

namespace CloudLifecycle.Dict

variable {α β : Type}

/-- No two bindings have the same key. -/
def DistinctKeys (entries : List (String × α)) : Prop := (entries.map (·.1)).Nodup

theorem nodup_keys (d : Dict α) : DistinctKeys d.entries := by
  refine List.pairwise_map.2 (d.ascending.imp fun {a b} before same => ?_)
  rw [same] at before
  exact String.lt_irrefl _ before

theorem nodup_entries (d : Dict α) : d.entries.Nodup := List.Nodup.of_map _ d.nodup_keys

theorem length_values (d : Dict α) : d.values.length = d.size := List.length_map _

theorem mem_keys_iff {d : Dict α} {k : String} : k ∈ d.keys ↔ ∃ v, d.find? k = some v := by
  simp only [find?_eq_some_iff]
  simp [keys]

theorem find?_eq_none_iff {d : Dict α} {k : String} : d.find? k = none ↔ k ∉ d.keys := by
  rw [mem_keys_iff]
  cases d.find? k <;> simp

/-- Two dictionaries with the same look-ups are equal. -/
theorem ext_find? {d e : Dict α} (h : ∀ k, d.find? k = e.find? k) : d = e := by
  have same : d.entries.Perm e.entries := by
    refine (List.perm_ext_iff_of_nodup d.nodup_entries e.nodup_entries).2 ?_
    rintro ⟨k, v⟩
    rw [← find?_eq_some_iff, ← find?_eq_some_iff, h]
  have equal : d.entries = e.entries := by
    refine same.eq_of_pairwise (fun a b _ _ hab hba => ?_) d.ascending e.ascending
    exact absurd (String.lt_trans hab hba) (String.lt_irrefl _)
  obtain ⟨entries, _⟩ := d
  obtain ⟨_, _⟩ := e
  subst equal
  rfl

theorem erase_of_absent {d : Dict α} {k : String} (absent : d.find? k = none) : d.erase k = d := by
  refine ext_find? fun other => ?_
  rw [find?_erase]
  by_cases same : other = k
  · rw [if_pos same, same, absent]
  · rw [if_neg same]

theorem insert_of_held {d : Dict α} {k : String} {v : α} (held : d.find? k = some v) :
    d.insert k v = d := by
  refine ext_find? fun other => ?_
  rw [find?_insert]
  by_cases same : other = k
  · rw [if_pos same, same, held]
  · rw [if_neg same]

/-- Removing a binding forgets what was last put there. -/
theorem erase_insert (d : Dict α) (k : String) (v : α) : (d.insert k v).erase k = d.erase k := by
  refine ext_find? fun other => ?_
  rw [find?_erase, find?_erase, find?_insert]
  by_cases same : other = k
  · rw [if_pos same, if_pos same]
  · rw [if_neg same, if_neg same, if_neg same]

/-- The later of two bindings counts. -/
theorem insert_insert (d : Dict α) (k : String) (v other : α) :
    (d.insert k other).insert k v = d.insert k v := by
  refine ext_find? fun found => ?_
  rw [find?_insert, find?_insert, find?_insert]
  by_cases same : found = k
  · rw [if_pos same, if_pos same]
  · rw [if_neg same, if_neg same, if_neg same]

/-! ## Dictionaries of lists of bindings -/

/-- Of several bindings for a key the last one counts. -/
theorem find?_foldl_insert (entries : List (String × α)) (d : Dict α) (k : String) :
    (entries.foldl (fun d e => d.insert e.1 e.2) d).find? k =
      (entries.reverse.lookup k).or (d.find? k) := by
  induction entries generalizing d with
  | nil => rfl
  | cons entry rest ih =>
    rw [List.foldl_cons, ih, find?_insert, List.reverse_cons, List.lookup_append,
      lookup_cons_if, List.lookup_nil]
    by_cases same : k = entry.1 <;> simp [same]

theorem find?_ofList (entries : List (String × α)) (k : String) :
    (ofList entries).find? k = entries.reverse.lookup k := by
  rw [ofList, find?_foldl_insert, find?_empty, Option.or_none]

theorem mem_of_lookup {entries : List (String × α)} {k : String} {v : α}
    (h : entries.lookup k = some v) : (k, v) ∈ entries := by
  induction entries with
  | nil => cases h
  | cons entry rest ih =>
    rw [lookup_cons_if] at h
    split at h
    · rename_i same
      obtain rfl := Option.some.inj h
      rw [same]
      exact List.mem_cons_self
    · exact List.mem_cons_of_mem _ (ih h)

theorem lookup_eq_none_iff {entries : List (String × α)} {k : String} :
    entries.lookup k = none ↔ k ∉ entries.map (·.1) := by
  induction entries with
  | nil => simp
  | cons entry rest ih =>
    rw [lookup_cons_if, List.map_cons, List.mem_cons]
    by_cases same : k = entry.1 <;> simp [same, ih]

/-- Leaving bindings out by their keys leaves the look-ups of the others. -/
theorem lookup_filter_key (keep : String → Bool) (entries : List (String × α)) (k : String) :
    (entries.filter fun e => keep e.1).lookup k = if keep k then entries.lookup k else none := by
  induction entries with
  | nil => simp
  | cons entry rest ih =>
    by_cases kept : keep entry.1
    · rw [List.filter_cons_of_pos (by simpa using kept), lookup_cons_if, lookup_cons_if, ih]
      by_cases same : k = entry.1
      · simp [same, kept]
      · simp [same]
    · rw [List.filter_cons_of_neg (by simpa using kept), lookup_cons_if, ih]
      by_cases same : k = entry.1
      · simp [same, kept]
      · simp [same]

/-- With different keys each binding is the one of its key. -/
theorem lookup_eq_some_iff {entries : List (String × α)} (distinct : DistinctKeys entries)
    {k : String} {v : α} : entries.lookup k = some v ↔ (k, v) ∈ entries := by
  refine ⟨mem_of_lookup, fun h => ?_⟩
  induction entries with
  | nil => cases h
  | cons entry rest ih =>
    obtain ⟨fresh, distinct⟩ := List.nodup_cons.1 distinct
    rw [lookup_cons_if]
    rcases List.mem_cons.1 h with rfl | h
    · simp
    · have other : k ≠ entry.1 := by
        rintro rfl
        exact fresh (List.mem_map.2 ⟨_, h, rfl⟩)
      rw [if_neg other]
      exact ih distinct h

/-- A dictionary of bindings with different keys holds just these. -/
theorem find?_ofList_eq_some_iff {entries : List (String × α)} (distinct : DistinctKeys entries)
    {k : String} {v : α} : (ofList entries).find? k = some v ↔ (k, v) ∈ entries := by
  have reversed : DistinctKeys entries.reverse := by
    unfold DistinctKeys
    rw [List.map_reverse]
    exact List.nodup_reverse.2 distinct
  rw [find?_ofList, lookup_eq_some_iff reversed, List.mem_reverse]

theorem find?_ofList_of_distinct {entries : List (String × α)} (distinct : DistinctKeys entries)
    (k : String) : (ofList entries).find? k = entries.lookup k := by
  ext v
  rw [find?_ofList_eq_some_iff distinct, lookup_eq_some_iff distinct]

theorem mem_keys_ofList {entries : List (String × α)} {k : String} :
    k ∈ (ofList entries).keys ↔ k ∈ entries.map (·.1) := by
  rw [← not_iff_not, ← find?_eq_none_iff, find?_ofList, lookup_eq_none_iff]
  simp

/-- The entries of a dictionary make it again. -/
@[simp] theorem ofList_entries (d : Dict α) : ofList d.entries = d :=
  ext_find? (find?_ofList_of_distinct d.nodup_keys)

/-- Bindings in ascending key order are the entries of their dictionary. -/
theorem entries_ofList {entries : List (String × α)} (h : Ascending entries) :
    (ofList entries).entries = entries :=
  congrArg Dict.entries (ofList_entries ⟨entries, h⟩)

/-! ## Changes of all values -/

@[simp] theorem find?_mapValues (f : α → β) (d : Dict α) (k : String) :
    (d.mapValues f).find? k = (d.find? k).map f := by
  show (d.entries.map fun e => (e.1, f e.2)).lookup k = (d.entries.lookup k).map f
  induction d.entries with
  | nil => rfl
  | cons entry rest ih =>
    rw [List.map_cons, lookup_cons_if, lookup_cons_if, ih]
    split <;> rfl

/-- Bindings that are added are found where the dictionary had none. -/
theorem find?_addNew (d more : Dict α) (k : String) :
    (d.addNew more).find? k = (d.find? k).or (more.find? k) := by
  have folded (entries : List (String × α)) (d : Dict α) :
      (entries.foldl (fun acc e => if acc.contains e.1 then acc else acc.insert e.1 e.2) d).find? k
        = (d.find? k).or (entries.lookup k) := by
    induction entries generalizing d with
    | nil => simp
    | cons entry rest ih =>
      rw [List.foldl_cons, ih, lookup_cons_if]
      by_cases held : d.contains entry.1 <;> by_cases same : k = entry.1
      · subst same
        obtain ⟨v, hv⟩ := Option.isSome_iff_exists.1 held
        simp [held, hv]
      · simp [held, same]
      · subst same
        have absent : d.find? entry.1 = none := by
          simpa [contains] using held
        simp [held, absent]
      · simp [held, same]
  exact folded more.entries d

end CloudLifecycle.Dict

/-!
# Dictionaries with text keys

A `Dict α` is a finite map from strings to `α`, held as a list of entries in ascending key order.
The order of `String` is the order of code points, which is also the order of the UTF-8 bytes.
Each key occurs once, so two dictionaries with the same entries are equal, and listing a dictionary
is deterministic.  The view of a dictionary is `find?`; `find?_insert` and `find?_erase` say what
the two updates do to it.
-/

set_option autoImplicit false

namespace CloudLifecycle

variable {α β : Type}

/-- Entries in strictly ascending key order. -/
def Ascending (entries : List (String × α)) : Prop :=
  entries.Pairwise fun a b => a.1 < b.1

instance (entries : List (String × α)) : Decidable (Ascending entries) :=
  inferInstanceAs (Decidable (List.Pairwise _ _))

/-- A finite map from strings, listed in ascending key order. -/
structure Dict (α : Type) where
  entries : List (String × α)
  ascending : Ascending entries
deriving DecidableEq

namespace Dict

/-- Puts a binding at its place, replacing an older one of the same key. -/
def put (key : String) (value : α) : List (String × α) → List (String × α)
  | [] => [(key, value)]
  | (k, v) :: rest =>
    if key < k then (key, value) :: (k, v) :: rest
    else if key = k then (key, value) :: rest
    else (k, v) :: put key value rest

theorem mem_put {key : String} {value : α} {entries : List (String × α)} {e : String × α}
    (h : e ∈ put key value entries) : e = (key, value) ∨ e ∈ entries := by
  induction entries with
  | nil => simpa [put] using h
  | cons head rest ih =>
    obtain ⟨k, v⟩ := head
    unfold put at h
    split at h
    · simpa using h
    · split at h
      · rcases List.mem_cons.1 h with h | h
        · exact .inl h
        · exact .inr (List.mem_cons_of_mem _ h)
      · rcases List.mem_cons.1 h with h | h
        · exact .inr (by simp [h])
        · exact (ih h).imp_right (List.mem_cons_of_mem _)

theorem ascending_put {key : String} {value : α} {entries : List (String × α)}
    (h : Ascending entries) : Ascending (put key value entries) := by
  induction entries with
  | nil => simp [put, Ascending]
  | cons head rest ih =>
    obtain ⟨k, v⟩ := head
    have hk := (List.pairwise_cons.1 h).1
    have hr := (List.pairwise_cons.1 h).2
    unfold put
    split
    · rename_i hlt
      refine List.pairwise_cons.2 ⟨fun e he => ?_, h⟩
      rcases List.mem_cons.1 he with he | he
      · simpa [he] using hlt
      · exact String.lt_trans hlt (hk e he)
    · split
      · rename_i heq
        subst heq
        exact List.pairwise_cons.2 ⟨hk, hr⟩
      · rename_i hnlt hne
        refine List.pairwise_cons.2 ⟨fun e he => ?_, ih hr⟩
        rcases mem_put he with he | he
        · subst he
          refine Decidable.byContradiction fun hn => hne ?_
          exact String.le_antisymm (String.not_lt.1 hn) (String.not_lt.1 hnlt)
        · exact hk e he

/-- The dictionary without entries. -/
def empty : Dict α := ⟨[], List.Pairwise.nil⟩

instance : Inhabited (Dict α) := ⟨empty⟩
instance : EmptyCollection (Dict α) := ⟨empty⟩

/-- Binds a key, replacing its older value. -/
def insert (d : Dict α) (key : String) (value : α) : Dict α :=
  ⟨put key value d.entries, ascending_put d.ascending⟩

/-- Removes the binding of a key, if there is one. -/
def erase (d : Dict α) (key : String) : Dict α :=
  ⟨d.entries.filter (·.1 ≠ key), d.ascending.filter _⟩

/-- The value bound to a key. -/
def find? (d : Dict α) (key : String) : Option α :=
  d.entries.lookup key

/-- The dictionary of a list of bindings; of several for one key the last counts. -/
def ofList (entries : List (String × α)) : Dict α :=
  entries.foldl (fun d e => d.insert e.1 e.2) empty

def keys (d : Dict α) : List String := d.entries.map (·.1)

def values (d : Dict α) : List α := d.entries.map (·.2)

def size (d : Dict α) : Nat := d.entries.length

def isEmpty (d : Dict α) : Bool := d.entries.isEmpty

def contains (d : Dict α) (key : String) : Bool := (d.find? key).isSome

/-- The same keys with each value changed. -/
def mapValues (f : α → β) (d : Dict α) : Dict β :=
  ⟨d.entries.map fun e => (e.1, f e.2), by
    have h := d.ascending
    unfold Ascending at h ⊢
    rw [List.pairwise_map]
    exact h⟩

/-- Adds the bindings of `more` whose keys are new. -/
def addNew (d more : Dict α) : Dict α :=
  more.entries.foldl (fun acc e => if acc.contains e.1 then acc else acc.insert e.1 e.2) d

/-- The first entry answers at its key and the rest elsewhere. -/
theorem lookup_cons_if (k k' : String) (v : α) (rest : List (String × α)) :
    ((k', v) :: rest).lookup k = if k = k' then some v else rest.lookup k := by
  rw [List.lookup_cons]
  by_cases h : k = k'
  · simp [h]
  · simp [beq_false_of_ne h, h]

theorem lookup_put (key k : String) (value : α) (entries : List (String × α)) :
    (put key value entries).lookup k = if k = key then some value else entries.lookup k := by
  induction entries with
  | nil => simp [put, lookup_cons_if]
  | cons head rest ih =>
    obtain ⟨k', v⟩ := head
    unfold put
    split
    · rw [lookup_cons_if]
    · split
      · rename_i heq
        subst heq
        simp only [lookup_cons_if]
        split <;> rfl
      · rename_i hne
        simp only [lookup_cons_if, ih]
        by_cases h : k = k'
        · subst h
          simp [Ne.symm hne]
        · simp [h]

/-- A key is bound to the value of its entry. -/
theorem find?_eq_some_iff {d : Dict α} {k : String} {v : α} :
    d.find? k = some v ↔ (k, v) ∈ d.entries := by
  obtain ⟨entries, h⟩ := d
  show entries.lookup k = some v ↔ (k, v) ∈ entries
  induction entries with
  | nil => simp
  | cons head rest ih =>
    obtain ⟨k', v'⟩ := head
    obtain ⟨hk, hr⟩ := List.pairwise_cons.1 h
    rw [lookup_cons_if, List.mem_cons]
    split
    · rename_i heq
      subst heq
      -- The keys of the rest are greater, so the entry is not among them.
      have absent : (k, v) ∉ rest := fun hm => String.lt_irrefl k (hk _ hm)
      simp [absent, eq_comm]
    · rename_i hne
      simp [hne, ih hr]

theorem mem_values_iff {d : Dict α} {v : α} : v ∈ d.values ↔ ∃ k, d.find? k = some v := by
  simp only [find?_eq_some_iff]
  simp [values]

@[simp] theorem find?_empty (k : String) : (empty : Dict α).find? k = none := rfl

/-- Reading after a binding gives the new value at its key and the old values elsewhere. -/
@[simp] theorem find?_insert (d : Dict α) (key k : String) (value : α) :
    (d.insert key value).find? k = if k = key then some value else d.find? k :=
  lookup_put key k value d.entries

/-- Reading after a removal gives nothing at its key and the old values elsewhere. -/
@[simp] theorem find?_erase (d : Dict α) (key k : String) :
    (d.erase key).find? k = if k = key then none else d.find? k := by
  unfold find? erase
  simp only
  induction d.entries with
  | nil => simp
  | cons head rest ih =>
    obtain ⟨k', v⟩ := head
    by_cases h' : k' = key
    · rw [List.filter_cons_of_neg (by simp [h']), ih, lookup_cons_if, h']
      split <;> rfl
    · rw [List.filter_cons_of_pos (by simp [h']), lookup_cons_if, lookup_cons_if, ih]
      by_cases h : k = k'
      · subst h
        simp [h']
      · simp [h]

end Dict

end CloudLifecycle

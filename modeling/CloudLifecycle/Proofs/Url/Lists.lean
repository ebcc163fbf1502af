import CloudLifecycle.Proofs.Url.Canonical
import CloudLifecycle.Proofs.Url.Query

/-!
# Lists among the parameters

A list of values is set as one parameter for each value, whose key is made of its position.
Whatever the parameters were before, afterwards each position has its own value and all other
parameters are as before (`Query.Listing`), so that the list can be read back however long it is.
Keys are sorted as texts and not by their positions, `v.10` before `v.2`, and nothing here depends
on their order.
-/

set_option autoImplicit false

namespace CloudLifecycle

namespace Query

/-- The keys of so many positions. -/
def listKeys (key : Nat → String) (count : Nat) : List String := (List.range count).map key

theorem mem_listKeys_iff {key : Nat → String} {count : Nat} {k : String} :
    k ∈ listKeys key count ↔ ∃ i < count, key i = k := by
  simp [listKeys]

/-- The parameters `after` are those of `before` with a list of values. -/
structure Listing (before after : Query) (key : Nat → String) (values : List String) : Prop where
  /-- Different positions have different keys. -/
  distinct : (listKeys key values.length).Nodup
  /-- The keys are those of the positions and those that there were before, each once. -/
  keys : after.params.keys.Perm (listKeys key values.length ++
    before.params.keys.filter (· ∉ listKeys key values.length))
  /-- Each position has its value. -/
  value : ∀ i (h : i < values.length), after.find? (key i) = some values[i]
  /-- The parameters with other keys stay. -/
  other : ∀ k, k ∉ listKeys key values.length → after.find? k = before.find? k

namespace Listing

variable {before after again : Query} {key : Nat → String} {values others : List String}

/-- The values of the parameters decide which keys there are. -/
theorem of_find? (distinct : (listKeys key values.length).Nodup)
    (value : ∀ i (h : i < values.length), after.find? (key i) = some values[i])
    (other : ∀ k, k ∉ listKeys key values.length → after.find? k = before.find? k) :
    Listing before after key values := by
  refine ⟨distinct, ?_, value, other⟩
  have keys : after.params.keys.Nodup := after.params.nodup_keys
  have once : (listKeys key values.length ++
      before.params.keys.filter (· ∉ listKeys key values.length)).Nodup := by
    refine distinct.append (before.params.nodup_keys.filter _) fun k listed kept => ?_
    simpa [listed] using (List.mem_filter.1 kept).2
  refine (List.perm_ext_iff_of_nodup keys once).2 fun k => ?_
  rw [List.mem_append, List.mem_filter, Dict.mem_keys_iff, Dict.mem_keys_iff]
  by_cases listed : k ∈ listKeys key values.length
  · obtain ⟨i, hi, rfl⟩ := mem_listKeys_iff.1 listed
    exact iff_of_true ⟨_, value i hi⟩ (.inl listed)
  · have kept : after.params.find? k = before.params.find? k := other k listed
    simp [listed, kept]

/-- A list of known length is read back from the canonical text. -/
theorem eq_of_canonical (h : Listing before after key values)
    (g : Listing before again key others) (length : values.length = others.length)
    (same : after.canonical = again.canonical) : values = others := by
  obtain rfl := canonical_injective same
  refine List.ext_getElem length fun i hi hj => ?_
  exact Option.some.inj ((h.value i hi).symm.trans (g.value i hj))

end Listing

/-- Where no two positions have the same key, setting a list sets all of it and nothing else. -/
theorem listing_setAll (q : Query) {key : Nat → String} (injective : Function.Injective key)
    (start : Nat) (values : List String) :
    Listing q (q.setAll key start values) (fun i => key (i + start)) values := by
  refine .of_find? (List.nodup_range.map fun i j same => ?distinct) (fun i h => ?value)
    fun k unlisted => ?other
  case distinct => exact Nat.add_right_cancel (injective same)
  case value =>
    rw [Nat.add_comm, find?_setAll q injective, List.getElem?_eq_getElem h, Option.some_or]
  case other =>
    refine find?_setAll_of_ne q fun i hi same => unlisted ?_
    exact mem_listKeys_iff.2 ⟨i, hi, by rw [Nat.add_comm, same]⟩

theorem listing_numbered (q : Query) (name : String) (values : List String) :
    Listing q (q.numbered name values) (fun i => name ++ "." ++ (i + 1).repr) values :=
  q.listing_setAll (numberedKey_injective name) 1 values

theorem listing_indexed (q : Query) (name : String) (values : List String) :
    Listing q (q.indexed name values) (fun i => name ++ "[" ++ i.repr ++ "]") values :=
  q.listing_setAll (indexedKey_injective name) 0 values

/-- **No value of a list is lost.**  Numbered from one or indexed from zero, a list adds one
parameter for each of its values, with a key of its own, from which the value is read back; the
parameters with other keys are as before.  So two lists of the same length that are added to the
same parameters have the same canonical text only if they are the same. -/
theorem lists_lossless (q : Query) (name : String) :
    (∀ values,
      Listing q (q.numbered name values) (fun i => name ++ "." ++ (i + 1).repr) values) ∧
    (∀ values,
      Listing q (q.indexed name values) (fun i => name ++ "[" ++ i.repr ++ "]") values) ∧
    ∀ values others : List String, values.length = others.length → values ≠ others →
      (q.numbered name values).canonical ≠ (q.numbered name others).canonical ∧
      (q.indexed name values).canonical ≠ (q.indexed name others).canonical := by
  refine ⟨q.listing_numbered name, q.listing_indexed name, fun values others length ne => ?_⟩
  refine ⟨fun same => ne ?numbered, fun same => ne ?indexed⟩
  case numbered =>
    exact (q.listing_numbered name values).eq_of_canonical (q.listing_numbered name others)
      length same
  case indexed =>
    exact (q.listing_indexed name values).eq_of_canonical (q.listing_indexed name others)
      length same

/-- From ten values on the text is not in the order of the list. -/
example : (empty.numbered "v" ["a", "b", "c", "d", "e", "f", "g", "h", "i", "j"]).canonical =
    "v.1=a&v.10=j&v.2=b&v.3=c&v.4=d&v.5=e&v.6=f&v.7=g&v.8=h&v.9=i" := by
  decide +kernel

end Query

end CloudLifecycle

import CloudLifecycle.Proofs.Dict.Bindings
import CloudLifecycle.Settings.Device
import Mathlib.Data.Char
import Mathlib.Data.List.Nodup
import Mathlib.Order.Bounds.Basic

/-!
# The search for a free device

The devices of persistent disks have the letters from `c` to `z`, in this order, so that the first
one that no disk has is the one with the least letter (`Device.firstFree_eq_some_iff`).  The search
fails only when each of them is taken; these are 24 different devices and a disk takes one at most,
so that it cannot fail with fewer disks (`Device.exists_firstFree`).
-/

set_option autoImplicit false

namespace CloudLifecycle

/-! ## First members of ascending lists -/

section Ascending

variable {α : Type} [LinearOrder α] {p : α → Bool} {xs : List α} {x : α}

/-- What is found first in an ascending list is the least that could be found. -/
theorem isLeast_of_find? (ascending : xs.Pairwise (· < ·)) (found : xs.find? p = some x) :
    IsLeast {y | y ∈ xs ∧ p y = true} x := by
  obtain ⟨holds, before, after, rfl, skipped⟩ := List.find?_eq_some_iff_append.1 found
  refine ⟨⟨by simp, holds⟩, ?_⟩
  rintro y ⟨member, hy⟩
  rcases List.mem_append.1 member with earlier | member
  · exact absurd hy (by simpa using skipped y earlier)
  · rcases List.mem_cons.1 member with rfl | later
    · exact le_rfl
    · have rest := (List.pairwise_append.1 ascending).2.1
      exact ((List.pairwise_cons.1 rest).1 y later).le

theorem find?_eq_some_iff_isLeast (ascending : xs.Pairwise (· < ·)) :
    xs.find? p = some x ↔ IsLeast {y | y ∈ xs ∧ p y = true} x := by
  refine ⟨isLeast_of_find? ascending, fun least => ?_⟩
  cases found : xs.find? p with
  | none => exact absurd least.1.2 (List.find?_eq_none.1 found x least.1.1)
  | some y => rw [(isLeast_of_find? ascending found).unique least]

end Ascending

namespace Device

/-! ## Devices for persistent disks -/

theorem mem_letters_iff {letter : Char} : letter ∈ letters ↔ 'c' ≤ letter ∧ letter ≤ 'z' := by
  constructor
  · intro h
    have within : letters.all (fun letter => 'c' ≤ letter && letter ≤ 'z') = true := by decide
    simpa using List.all_eq_true.1 within letter h
  · rintro ⟨hc, hz⟩
    have hc : 99 ≤ letter.toNat := hc
    have hz : letter.toNat ≤ 122 := hz
    have listed : letters = (List.range 24).map fun n => Char.ofNat (99 + n) := by decide
    rw [listed]
    refine List.mem_map.2 ⟨letter.toNat - 99, List.mem_range.2 (by omega), ?_⟩
    rw [show 99 + (letter.toNat - 99) = letter.toNat by omega, Char.ofNat_toNat]

theorem ascending_letters : letters.Pairwise (· < ·) := by decide

/-- The devices for persistent disks are those with a letter from `c` to `z`. -/
theorem mem_persistent_iff {device : String} :
    device ∈ persistent ↔ ∃ letter : Char, 'c' ≤ letter ∧ letter ≤ 'z' ∧ device = path letter := by
  unfold persistent
  simp only [List.mem_map, mem_letters_iff, and_assoc]
  refine exists_congr fun letter => ?_
  rw [eq_comm]

theorem system_not_mem_persistent : system ∉ persistent := by decide

theorem ephemeral_not_mem_persistent : ephemeral ∉ persistent := by decide

theorem length_persistent : persistent.length = 24 := by decide

theorem nodup_persistent : persistent.Nodup := by decide

/-! ## The search -/

variable {allocation : DeviceAllocation} {device : String}

theorem firstFree_eq_some (h : firstFree allocation = some device) :
    device ∈ persistent ∧ device ∉ allocation.values := by
  refine ⟨List.mem_of_find?_eq_some h, ?_⟩
  simpa using List.find?_some h

/-- The letter is one for persistent disks, and no disk has its device. -/
structure Free (allocation : DeviceAllocation) (letter : Char) : Prop where
  lower : 'c' ≤ letter
  upper : letter ≤ 'z'
  unheld : ∀ disk, allocation.find? disk ≠ some (path letter)

theorem free_iff {letter : Char} :
    Free allocation letter ↔ letter ∈ letters ∧ path letter ∉ allocation.values := by
  rw [mem_letters_iff, Dict.mem_values_iff, not_exists]
  exact ⟨fun ⟨lower, upper, unheld⟩ => ⟨⟨lower, upper⟩, unheld⟩,
    fun ⟨⟨lower, upper⟩, unheld⟩ => ⟨lower, upper, unheld⟩⟩

/-- The device that is found is the one with the least free letter. -/
theorem firstFree_eq_some_iff :
    firstFree allocation = some device ↔
      ∃ letter, IsLeast {letter | Free allocation letter} letter ∧ device = path letter := by
  rw [firstFree, persistent, List.find?_map, Option.map_eq_some_iff]
  refine exists_congr fun letter => ?_
  rw [find?_eq_some_iff_isLeast ascending_letters, eq_comm (a := path letter)]
  simp only [free_iff, Function.comp_apply, Bool.not_eq_true', List.contains_eq_mem,
    decide_eq_false_iff_not]

/-- No device is found just if each letter has its device in use. -/
theorem firstFree_eq_none_iff :
    firstFree allocation = none ↔
      ∀ letter, 'c' ≤ letter → letter ≤ 'z' →
        ∃ disk, allocation.find? disk = some (path letter) := by
  rw [firstFree, persistent, List.find?_map, Option.map_eq_none_iff, List.find?_eq_none]
  refine forall_congr' fun letter => ?_
  rw [mem_letters_iff, and_imp, ← Dict.mem_values_iff]
  simp only [Function.comp_apply, Bool.not_eq_true', List.contains_eq_mem,
    decide_eq_false_iff_not, not_not]

/-- Each disk takes one device at most, so it needs 24 disks to take them all. -/
theorem le_size_of_firstFree_eq_none (exhausted : firstFree allocation = none) :
    24 ≤ allocation.size := by
  have among : persistent ⊆ allocation.values := by
    intro device listed
    obtain ⟨letter, lower, upper, rfl⟩ := mem_persistent_iff.1 listed
    exact Dict.mem_values_iff.2 (firstFree_eq_none_iff.1 exhausted letter lower upper)
  calc 24 = persistent.length := length_persistent.symm
    _ ≤ allocation.values.length := nodup_persistent.length_le_of_subset among
    _ = allocation.size := Dict.length_values allocation

theorem exists_firstFree (few : allocation.size < 24) :
    ∃ device, firstFree allocation = some device := by
  refine Option.ne_none_iff_exists'.1 fun exhausted => ?_
  exact Nat.not_lt.2 (le_size_of_firstFree_eq_none exhausted) few

/-- There can be as many disks as devices, and then no device is left. -/
example : firstFree (Dict.ofList (persistent.map fun device => (device, device))) = none := by
  decide +kernel

end Device

end CloudLifecycle

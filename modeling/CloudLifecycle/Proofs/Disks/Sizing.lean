import CloudLifecycle.Proofs.Runs.Posing
import Mathlib.Order.Bounds.Basic

/-!
# Sizes of new disks

A size in MiB keeps the rules of a policy or it does not (`DiskSizePolicy.Accepts`).  One that does
gets the least number of GiB that holds it, and this never exceeds a maximum of whole GiB, because
rounding up stays below every bound that is a whole number of GiB itself (`gib_le_iff`).  A disk of
any other size is refused before anything is asked for (`Manager.createDisk_sized`).
-/

set_option autoImplicit false

namespace CloudLifecycle

namespace DiskSizePolicy

variable {policy : DiskSizePolicy} {sizeMib gibs : Nat}

/-- The size keeps all rules of the policy, and its GiB are counted by a word of 32 bits. -/
structure Accepts (policy : DiskSizePolicy) (sizeMib : Nat) : Prop where
  positive : 0 < sizeMib
  granular : policy.granularityMib ∣ sizeMib
  enough : policy.minMib ≤ sizeMib
  bounded : sizeMib ≤ policy.maxMib
  countable : sizeMib ≤ mibPerGib * 0xFFFFFFFF

/-- **Rounding up is a lower adjoint**: the GiB of a size are at most those that hold it. -/
theorem gib_le_iff : gib sizeMib ≤ gibs ↔ sizeMib ≤ mibPerGib * gibs := by
  unfold gib mibPerGib
  omega

theorem isLeast_gib (sizeMib : Nat) :
    IsLeast {gibs | sizeMib ≤ mibPerGib * gibs} (gib sizeMib) :=
  ⟨gib_le_iff.1 (Nat.le_refl _), fun _ holds => gib_le_iff.2 holds⟩

/-- A positive size does not fit into one GiB less. -/
theorem lt_of_gib (positive : 0 < sizeMib) : mibPerGib * (gib sizeMib - 1) < sizeMib := by
  by_contra fits
  have less : gib sizeMib ≤ gib sizeMib - 1 := gib_le_iff.2 (Nat.le_of_not_lt fits)
  have some_ : ¬gib sizeMib ≤ 0 := fun none => by
    have empty := gib_le_iff.1 none
    omega
  omega

theorem gib_mono {more : Nat} (h : sizeMib ≤ more) : gib sizeMib ≤ gib more :=
  gib_le_iff.2 (h.trans (gib_le_iff.1 (Nat.le_refl _)))

/-- Rounding up does not exceed a maximum of whole GiB. -/
theorem gib_le_max (whole : mibPerGib ∣ policy.maxMib) (bounded : sizeMib ≤ policy.maxMib) :
    mibPerGib * gib sizeMib ≤ policy.maxMib := by
  obtain ⟨most, hmost⟩ := whole
  rw [hmost] at bounded ⊢
  exact Nat.mul_le_mul_left _ (gib_le_iff.2 bounded)

theorem validate_of_accepts (h : policy.Accepts sizeMib) :
    policy.validate sizeMib = .ok (gib sizeMib) := by
  obtain ⟨positive, granular, enough, bounded, countable⟩ := h
  have narrow : gib sizeMib ≤ 0xFFFFFFFF := gib_le_iff.2 countable
  unfold validate
  rw [if_neg (Nat.ne_of_gt positive), if_neg (not_not.2 (Nat.mod_eq_zero_of_dvd granular)),
    if_neg (Nat.not_lt.2 enough), if_neg (Nat.not_lt.2 bounded), if_pos narrow]

/-- Whichever rule a size breaks, it is refused as an argument. -/
theorem validate_of_not_accepts (h : ¬policy.Accepts sizeMib) :
    ∃ text, policy.validate sizeMib = .error (.invalidArgument text) := by
  unfold validate
  split
  · exact ⟨_, rfl⟩
  rename_i positive
  split
  · exact ⟨_, rfl⟩
  rename_i granular
  split
  · exact ⟨_, rfl⟩
  rename_i enough
  split
  · exact ⟨_, rfl⟩
  rename_i bounded
  split
  · rename_i narrow
    refine absurd ⟨Nat.pos_of_ne_zero positive, ?_, Nat.not_lt.1 enough, Nat.not_lt.1 bounded,
      gib_le_iff.1 narrow⟩ h
    exact Nat.dvd_of_mod_eq_zero (not_not.1 granular)
  · exact ⟨_, rfl⟩

theorem accepts_of_validate (h : policy.validate sizeMib = .ok gibs) :
    policy.Accepts sizeMib ∧ gibs = gib sizeMib := by
  by_cases accepted : policy.Accepts sizeMib
  · rw [validate_of_accepts accepted] at h
    exact ⟨accepted, (Except.ok.inj h).symm⟩
  · obtain ⟨text, refused⟩ := validate_of_not_accepts accepted
    rw [refused] at h
    cases h

/-- **What a size is validated to**: the least number of GiB that holds it, if it is accepted. -/
theorem validate_eq_ok_iff :
    policy.validate sizeMib = .ok gibs ↔
      policy.Accepts sizeMib ∧ IsLeast {gibs | sizeMib ≤ mibPerGib * gibs} gibs := by
  constructor
  · intro h
    obtain ⟨accepted, rfl⟩ := accepts_of_validate h
    exact ⟨accepted, isLeast_gib sizeMib⟩
  · rintro ⟨accepted, least⟩
    rw [validate_of_accepts accepted, least.unique (isLeast_gib sizeMib)]

end DiskSizePolicy

namespace Manager

open DiskSizePolicy Verb

variable {m : Manager} {sizeMib : Nat}

/-- A disk whose size is refused fails at once. -/
theorem runs_createDisk_of_error {e : CpiError}
    (refused : m.options.diskPolicy.validate sizeMib = .error e) {trace : Trace}
    {result : Except CpiError ResourceId} :
    (m.createDisk sizeMib).Runs trace result ↔ trace = [] ∧ result = .error e := by
  unfold createDisk
  rw [refused]
  exact runs_throw_bind_iff

/-- A disk of an accepted size is asked for once it has a name. -/
theorem poses_createDisk_of_ok {gibs : Nat}
    (accepted : m.options.diskPolicy.validate sizeMib = .ok gibs) (name : String) :
    (m.createDisk sizeMib).Poses [⟨.freshName, name⟩]
      (.provider (.createVolume ⟨"disk-" ++ name, gibs, m.options.availabilityZone⟩)) := by
  refine poses_bind_iff.2 (.inr ⟨[], _, gibs, rfl, runs_outcome_iff.2 ⟨rfl, accepted.symm⟩, ?_⟩)
  refine poses_bind_iff.2 (.inr ⟨[_], [], name, rfl, ?_, poses_bind_iff.2 (.inl poses_call)⟩)
  exact runs_lift_iff.2 ⟨name, Program.runs_request_iff.2 rfl, rfl⟩

/-- The volume that is asked for has the size that the disk was validated to. -/
theorem validate_of_poses_createVolume {past : Trace} {params : CreateVolumeParams}
    (h : (m.createDisk sizeMib).Poses past (.provider (.createVolume params))) :
    m.options.diskPolicy.validate sizeMib = .ok params.sizeGib := by
  have checks : Calls (fun _ => False)
      (ExceptT.mk (pure (m.options.diskPolicy.validate sizeMib))) := calls_outcome _
  have names : Calls (fun _ => False) (ExceptT.lift Task.freshName : Verb String) :=
    calls_lift Task.calls_freshName
  obtain ⟨_, _, gibs, rfl, checked, hn⟩ := checks.poses_bind h (by simp) id
  obtain ⟨_, rest, name, rfl, _, hc⟩ := names.poses_bind hn (by simp) id
  have asked : (m.call (.createVolume ⟨"disk-" ++ name, gibs, m.options.availabilityZone⟩)).Poses
      rest (.provider (.createVolume params)) := by
    refine poses_of_bind hc fun id after waiting => ?_
    have waits := poses_of_bind waiting fun _ _ => not_poses_pure
    exact (m.calls_waitVolume id _).not_poses (by simp) (by simp) waits
  obtain rfl := ProviderCall.createVolume.inj (eq_of_poses_call asked (by simp))
  exact (runs_outcome_iff.1 checked).2.symm

/-- **Which disks are created, and how large.**  A size is validated exactly if it keeps all rules
of the policy, to the least number of GiB that holds it; a larger size never gets less, and a
maximum of whole GiB is not exceeded.  A disk of such a size is asked for with this many GiB, and
with no other; a disk of any other size is refused as an argument before anything is asked for. -/
theorem createDisk_sized (m : Manager) :
    let policy := m.options.diskPolicy
    (∀ size gibs, policy.validate size = .ok gibs ↔
      policy.Accepts size ∧ IsLeast {gibs | size ≤ mibPerGib * gibs} gibs) ∧
    (∀ size gibs, policy.validate size = .ok gibs →
      mibPerGib * (gibs - 1) < size ∧ size ≤ mibPerGib * gibs ∧
        (mibPerGib ∣ policy.maxMib → mibPerGib * gibs ≤ policy.maxMib)) ∧
    (∀ small large gibs more, small ≤ large → policy.validate small = .ok gibs →
      policy.validate large = .ok more → gibs ≤ more) ∧
    (∀ size past params,
      (m.createDisk size).Poses past (.provider (.createVolume params)) →
        policy.validate size = .ok params.sizeGib ∧ size ≤ mibPerGib * params.sizeGib ∧
          (mibPerGib ∣ policy.maxMib → mibPerGib * params.sizeGib ≤ policy.maxMib)) ∧
    (∀ size gibs name, policy.validate size = .ok gibs →
      (m.createDisk size).Poses [⟨.freshName, name⟩]
        (.provider (.createVolume ⟨"disk-" ++ name, gibs, m.options.availabilityZone⟩))) ∧
    ∀ size, ¬policy.Accepts size → ∃ text, ∀ trace result,
      (m.createDisk size).Runs trace result ↔
        trace = [] ∧ result = .error (.invalidArgument text) := by
  intro policy
  have covers : ∀ size gibs, policy.validate size = .ok gibs →
      mibPerGib * (gibs - 1) < size ∧ size ≤ mibPerGib * gibs ∧
        (mibPerGib ∣ policy.maxMib → mibPerGib * gibs ≤ policy.maxMib) := by
    intro size gibs h
    obtain ⟨accepted, rfl⟩ := accepts_of_validate h
    exact ⟨lt_of_gib accepted.positive, gib_le_iff.1 (Nat.le_refl _), fun whole =>
      gib_le_max whole accepted.bounded⟩
  refine ⟨fun _ _ => validate_eq_ok_iff, covers, ?monotone, ?asks, fun _ _ name accepted =>
    poses_createDisk_of_ok accepted name, ?refused⟩
  case monotone =>
    intro small large gibs more le hs hl
    obtain ⟨-, rfl⟩ := accepts_of_validate hs
    obtain ⟨-, rfl⟩ := accepts_of_validate hl
    exact gib_mono le
  case asks =>
    intro size past params h
    have accepted := validate_of_poses_createVolume h
    exact ⟨accepted, (covers size _ accepted).2⟩
  case refused =>
    intro size broken
    obtain ⟨text, refused⟩ := validate_of_not_accepts broken
    exact ⟨text, fun _ _ => runs_createDisk_of_error refused⟩

end Manager

end CloudLifecycle

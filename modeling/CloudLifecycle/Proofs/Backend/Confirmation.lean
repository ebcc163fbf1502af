import CloudLifecycle.Proofs.Backend.AtMostOnce
import CloudLifecycle.Proofs.Runs.Reports
import CloudLifecycle.Proofs.Store.Effects

/-!
# Looking before and after

A volume is deleted, attached or detached only after the command has seen that it may be
(`Command.Guarded`), and a verb succeeds only after it has seen what it set out to do
(`Manager.Confirmed`).  Verbs that remove something have one gap: where a description is refused as
unauthorized and the refresh of the credentials answers that something was not found, they take
this for the absence of the resource and succeed (`Manager.deleteVm_misread`).
-/

set_option autoImplicit false

namespace CloudLifecycle

namespace Trace

/-- The call was accepted with this reply, and a later event is as described. -/
def Confirms (c : ProviderCall) (reply : c.Reply)
    (good : Program.Event Action Action.Answer → Prop) (trace : Trace) : Prop :=
  ∃ before after, trace = before ++ ⟨.provider c, .ok reply⟩ :: after ∧ ∃ e ∈ after, good e

theorem Confirms.after {c : ProviderCall} {reply : c.Reply}
    {good : Program.Event Action Action.Answer → Prop} {trace : Trace}
    (h : Confirms c reply good trace) (before : Trace) :
    Confirms c reply good (before ++ trace) := by
  obtain ⟨earlier, later, rfl, seen⟩ := h
  exact ⟨before ++ earlier, later, by simp, seen⟩

/-- The first description reports that the resource is gone, or its removal was accepted and a later
description reports it. -/
def Removed {σ : Type} [IsState σ] (description : ProviderCall)
    (state : description.Reply → σ) (removal : ProviderCall) (reply : removal.Reply)
    (trace : Trace) : Prop :=
  FirstReports description state (IsState.isGone · = true) trace ∨
    Confirms removal reply (Reports description state (IsState.isGone · = true)) trace

end Trace

/-- Changes of a volume are asked for only after its first description in the same run reports that
nothing is in the way. -/
structure Command.Guarded (m : Manager) (command : Command) : Prop where
  deleteVolume {past : Trace} {disk : ResourceId}
    (posed : (m.perform command).Poses past (.provider (.deleteVolume disk))) :
    ∃ volume, Trace.FirstAnswer (.describeVolume disk) (.ok (some volume)) past ∧
      volume.state = .available
  attachVolume {past : Trace} {disk vm : ResourceId}
    (posed : (m.perform command).Poses past (.provider (.attachVolume disk vm))) :
    ∃ volume, Trace.FirstAnswer (.describeVolume disk) (.ok (some volume)) past ∧
      volume.attachedVm = none ∧ volume.state ≠ .inUse
  detachVolume {past : Trace} {disk vm : ResourceId}
    (posed : (m.perform command).Poses past (.provider (.detachVolume disk vm))) :
    ∃ volume, Trace.FirstAnswer (.describeVolume disk) (.ok (some volume)) past ∧
      volume.attachedVm = some vm

/-- Verbs that succeed have seen that what they asked for has happened; those that remove something
may have misread a failed refresh instead. -/
structure Manager.Confirmed (m : Manager) : Prop where
  createDisk {sizeMib : Nat} {trace : Trace} {disk : ResourceId}
    (h : (m.createDisk sizeMib).Runs trace (.ok disk)) :
    ∃ params, trace.Confirms (.createVolume params) disk
      (Reports (.describeVolume disk) (stateOf VolumeInfo.state) (· = .available))
  snapshotDisk {disk : ResourceId} {trace : Trace} {snapshot : ResourceId}
    (h : (m.snapshotDisk disk).Runs trace (.ok snapshot)) :
    ∃ name, trace.Confirms (.createSnapshot disk name) snapshot
      (Reports (.describeSnapshot snapshot) (stateOf SnapshotInfo.state) (· = .available))
  createVm {request : VmRequest} {trace : Trace} {vm : ResourceId}
    (h : (m.createVm request).Runs trace (.ok vm)) :
    ∃ params, trace.Confirms (.runInstance params) vm
      (Reports (.describeVm vm) (stateOf VmInfo.state) (· = .running))
  rebootVm {vm : ResourceId} {trace : Trace} (h : (m.rebootVm vm).Runs trace (.ok ())) :
    trace.Confirms (.restartInstance vm) ()
      (Reports (.describeVm vm) (stateOf VmInfo.state) (· = .running))
  deleteVm {vm : ResourceId} {trace : Trace} (h : (m.deleteVm vm).Runs trace (.ok ())) :
    trace.Removed (.describeVm vm) (stateOf VmInfo.state) (.terminateInstance vm) () ∨
      trace.Misread (.describeVm vm)
  deleteDisk {disk : ResourceId} {trace : Trace} (h : (m.deleteDisk disk).Runs trace (.ok ())) :
    trace.Removed (.describeVolume disk) (stateOf VolumeInfo.state) (.deleteVolume disk) () ∨
      trace.Misread (.describeVolume disk)
  deleteSnapshot {snapshot : ResourceId} {trace : Trace}
    (h : (m.deleteSnapshot snapshot).Runs trace (.ok ())) :
    trace.Removed (.describeSnapshot snapshot) (stateOf SnapshotInfo.state)
        (.deleteSnapshot snapshot) () ∨
      trace.Misread (.describeSnapshot snapshot)
  attachDisk {vm disk : ResourceId} {trace : Trace} {device : String}
    (h : (m.attachDisk vm disk).Runs trace (.ok device)) :
    (∃ volume, Trace.FirstAnswer (.describeVolume disk) (.ok (some volume)) trace ∧
        volume.attachedVm = some vm) ∨
      trace.Confirms (.attachVolume disk vm) ()
        (Reports (.describeVolume disk) (stateOf VolumeInfo.state) (· = .inUse))
  detachDisk {vm disk : ResourceId} {trace : Trace}
    (h : (m.detachDisk vm disk).Runs trace (.ok ())) :
    trace.Confirms (.detachVolume disk vm) ()
      (Reports (.describeVolume disk) (stateOf VolumeInfo.state) (· = .available))

namespace Manager

open Verb

variable {m : Manager} {trace past : Trace} {c : ProviderCall}

/-! ## Guards -/

theorem guard_deleteDisk {id disk : ResourceId}
    (h : (m.deleteDisk id).Poses past (.provider (.deleteVolume disk))) :
    ∃ volume, Trace.FirstAnswer (.describeVolume disk) (.ok (some volume)) past ∧
      volume.state = .available := by
  obtain ⟨before, after, found, rfl, hd, hp⟩ :=
    (m.calls_describeVolume id).poses_bind h (by simp) (by simp)
  cases found with
  | none => exact absurd hp not_poses_pure
  | some volume =>
    dsimp only at hp
    split at hp
    · exact absurd hp not_poses_pure
    split at hp
    · exact absurd hp not_poses_throw_bind
    rename_i available
    have asked : (m.call (.deleteVolume id)).Poses after (.provider (.deleteVolume disk)) :=
      poses_of_bind hp fun _ _ => (m.calls_waitVolume id _).not_poses (by simp) (by simp)
    obtain rfl := ProviderCall.deleteVolume.inj (eq_of_poses_call asked (by simp))
    refine ⟨volume, (firstAnswer_of_describeVolume hd).append after, ?_⟩
    exact Decidable.not_not.1 available

/-- A disk for which there is a device, known or to be found, is attached to this VM, or it is free
and the device is to be found. -/
theorem attachedDevice_eq_ok {vm disk : ResourceId} {volume : VolumeInfo}
    {settings : AgentSettings} {device : Option String}
    (h : attachedDevice vm disk volume settings = .ok device) :
    volume.attachedVm = some vm ∨
      volume.attachedVm = none ∧ volume.state ≠ .inUse ∧ device = none := by
  unfold attachedDevice at h
  split at h
  · rename_i holder attached
    split at h
    · rename_i same
      subst same
      exact .inl attached
    · cases h
  · rename_i detached
    split at h
    · cases h
    · rename_i idle
      exact .inr ⟨detached, idle, (Except.ok.inj h).symm⟩

theorem guard_attachDisk {vmId diskId disk vm : ResourceId}
    (h : (m.attachDisk vmId diskId).Poses past (.provider (.attachVolume disk vm))) :
    (disk = diskId ∧ vm = vmId) ∧
      ∃ volume, Trace.FirstAnswer (.describeVolume disk) (.ok (some volume)) past ∧
        volume.attachedVm = none ∧ volume.state ≠ .inUse := by
  obtain ⟨looked, rest, seen, rfl, hvm, hp⟩ :=
    (m.calls_requireVm vmId).poses_bind h (by simp) (by simp)
  obtain ⟨before, after, volume, rfl, hvolume, hp⟩ :=
    (m.calls_requireVolume diskId).poses_bind hp (by simp) (by simp)
  have described := firstAnswer_of_requireBoth hvm hvolume after
  rcases poses_bind_iff.1 hp with hp | ⟨_, _, settings, rfl, _, hp⟩
  · exact absurd hp not_poses_settings
  rcases poses_bind_iff.1 hp with hp | ⟨_, rest, attached, rfl, ha, hp⟩
  · exact absurd hp Program.not_poses_done
  cases attached with
  | some device => exact absurd hp not_poses_pure
  | none =>
    dsimp only at hp
    split at hp
    · exact absurd hp not_poses_throw
    split at hp
    · rename_i device _ detached
      rw [Option.isNone_iff_eq_none] at detached
      have asked :
          (m.requestAttach vmId diskId).Poses rest (.provider (.attachVolume disk vm)) := by
        refine poses_of_bind hp fun _ after hp => ?_
        obtain ⟨_, _, _, _, _, hp⟩ :=
          (m.calls_waitVolume diskId _).poses_bind hp (by simp) (by simp)
        exact not_poses_settings (poses_bind_pure_iff.1 hp)
      have same := ((calls_requestAttach vmId diskId).of_poses asked).resolve_left (by simp)
      obtain ⟨rfl, rfl⟩ := ProviderCall.attachVolume.inj same
      rcases attachedDevice_eq_ok (runs_outcome_iff.1 ha).2.symm with holder | ⟨_, idle, _⟩
      · rw [detached] at holder
        cases holder
      · exact ⟨⟨rfl, rfl⟩, volume, described, detached, idle⟩
    · exact absurd (poses_bind_pure_iff.1 hp) not_poses_settings

theorem guard_detachDisk {vmId diskId disk vm : ResourceId}
    (h : (m.detachDisk vmId diskId).Poses past (.provider (.detachVolume disk vm))) :
    (disk = diskId ∧ vm = vmId) ∧
      ∃ volume, Trace.FirstAnswer (.describeVolume disk) (.ok (some volume)) past ∧
        volume.attachedVm = some vm := by
  obtain ⟨looked, rest, seen, rfl, hvm, hp⟩ :=
    (m.calls_requireVm vmId).poses_bind h (by simp) (by simp)
  obtain ⟨before, after, volume, rfl, hvolume, hp⟩ :=
    (m.calls_requireVolume diskId).poses_bind hp (by simp) (by simp)
  have described := firstAnswer_of_requireBoth hvm hvolume after
  dsimp only at hp
  split at hp
  · exact absurd hp not_poses_throw_bind
  rename_i attached
  have asked : (m.call (.detachVolume diskId vmId)).Poses after
      (.provider (.detachVolume disk vm)) := by
    refine poses_of_bind hp fun _ later hp => ?_
    obtain ⟨_, _, _, _, _, hp⟩ :=
      (m.calls_waitVolume diskId _).poses_bind hp (by simp) (by simp)
    rcases poses_bind_iff.1 hp with hp | ⟨_, _, settings, _, _, hp⟩
    · exact not_poses_settings hp
    · split at hp
      · exact not_poses_settings hp
      · exact not_poses_pure hp
  obtain ⟨rfl, rfl⟩ := ProviderCall.detachVolume.inj (eq_of_poses_call asked (by simp))
  exact ⟨⟨rfl, rfl⟩, volume, described, Decidable.not_not.1 attached⟩

/-- Changes of a volume are asked for by the command that is about it, and nothing is in the way. -/
theorem guarded (m : Manager) (command : Command) : command.Guarded m where
  deleteVolume {past disk} posed := by
    have among := (m.issues_perform command posed rfl).1
    cases command with
    | deleteDisk id => exact guard_deleteDisk (poses_bind_pure_iff.1 posed)
    | _ => simp [Command.mutations] at among
  attachVolume {past disk vm} posed := by
    have among := (m.issues_perform command posed rfl).1
    cases command with
    | attachDisk vmId diskId =>
      exact (guard_attachDisk (poses_bind_pure_iff.1 (poses_bind_pure_iff.1 posed))).2
    | _ => simp [Command.mutations] at among
  detachVolume {past disk vm} posed := by
    have among := (m.issues_perform command posed rfl).1
    cases command with
    | detachDisk vmId diskId => exact (guard_detachDisk (poses_bind_pure_iff.1 posed)).2
    | _ => simp [Command.mutations] at among

/-! ## Confirmations -/

/-- What is seen after a call was accepted confirms it. -/
theorem confirms_of_seen {reply : c.Reply} {good : Program.Event Action Action.Answer → Prop}
    {before waited : Trace} (seen : ∃ e ∈ waited, good e) (after : Trace) :
    Trace.Confirms c reply good (before ++ ⟨.provider c, .ok reply⟩ :: (waited ++ after)) := by
  obtain ⟨e, he, hgood⟩ := seen
  exact ⟨before, waited ++ after, rfl, e, List.mem_append_left after he, hgood⟩

/-- A wait for one state that is not absence has seen it. -/
theorem seen_of_waitVm {vm : ResourceId} {target : VmState} (present : target ≠ .noExist)
    (h : (m.waitVm vm [target]).Runs trace (.ok ())) :
    ∃ e ∈ trace, Reports (.describeVm vm) (stateOf VmInfo.state) (· = target) e := by
  rcases reports_of_waitVm h with ⟨e, he, report⟩ | ⟨absent, _⟩
  · exact ⟨e, he, report.mono fun seen among => List.mem_singleton.1 among⟩
  · exact absurd (List.mem_singleton.1 absent).symm present

theorem seen_of_waitVolume {disk : ResourceId} {target : VolumeState} (present : target ≠ .noExist)
    (h : (m.waitVolume disk [target]).Runs trace (.ok ())) :
    ∃ e ∈ trace, Reports (.describeVolume disk) (stateOf VolumeInfo.state) (· = target) e := by
  rcases reports_of_waitVolume h with ⟨e, he, report⟩ | ⟨absent, _⟩
  · exact ⟨e, he, report.mono fun seen among => List.mem_singleton.1 among⟩
  · exact absurd (List.mem_singleton.1 absent).symm present

theorem seen_of_waitSnapshot {snapshot : ResourceId} {target : SnapshotState}
    (present : target ≠ .noExist) (h : (m.waitSnapshot snapshot [target]).Runs trace (.ok ())) :
    ∃ e ∈ trace, Reports (.describeSnapshot snapshot) (stateOf SnapshotInfo.state)
      (· = target) e := by
  rcases reports_of_waitSnapshot h with ⟨e, he, report⟩ | ⟨absent, _⟩
  · exact ⟨e, he, report.mono fun seen among => List.mem_singleton.1 among⟩
  · exact absurd (List.mem_singleton.1 absent).symm present

theorem confirms_createDisk {sizeMib : Nat} {disk : ResourceId}
    (h : (m.createDisk sizeMib).Runs trace (.ok disk)) :
    ∃ params, trace.Confirms (.createVolume params) disk
      (Reports (.describeVolume disk) (stateOf VolumeInfo.state) (· = .available)) := by
  obtain ⟨checked, _, sizeGib, rfl, _, hn⟩ := runs_bind_ok_iff.1 h
  obtain ⟨named, _, fresh, rfl, _, hc⟩ := runs_bind_ok_iff.1 hn
  obtain ⟨called, id, _, rfl, hw⟩ := runs_call_bind_ok hc
  obtain ⟨waited, rest, _, rfl, hw, hr⟩ := runs_bind_ok_iff.1 hw
  obtain rfl : disk = id := Except.ok.inj (runs_pure_iff.1 hr).2
  have seen := seen_of_waitVolume (by simp) hw
  exact ⟨_, ((confirms_of_seen seen rest).after named).after checked⟩

theorem confirms_snapshotDisk {disk snapshot : ResourceId}
    (h : (m.snapshotDisk disk).Runs trace (.ok snapshot)) :
    ∃ name, trace.Confirms (.createSnapshot disk name) snapshot
      (Reports (.describeSnapshot snapshot) (stateOf SnapshotInfo.state) (· = .available)) := by
  obtain ⟨looked, _, _, rfl, _, hn⟩ := runs_bind_ok_iff.1 h
  obtain ⟨named, _, fresh, rfl, _, hc⟩ := runs_bind_ok_iff.1 hn
  obtain ⟨called, id, _, rfl, hw⟩ := runs_call_bind_ok hc
  obtain ⟨waited, rest, _, rfl, hw, hr⟩ := runs_bind_ok_iff.1 hw
  obtain rfl : snapshot = id := Except.ok.inj (runs_pure_iff.1 hr).2
  have seen := seen_of_waitSnapshot (by simp) hw
  exact ⟨_, ((confirms_of_seen seen rest).after named).after looked⟩

theorem confirms_createVm {request : VmRequest} {vm : ResourceId}
    (h : (m.createVm request).Runs trace (.ok vm)) :
    ∃ params, trace.Confirms (.runInstance params) vm
      (Reports (.describeVm vm) (stateOf VmInfo.state) (· = .running)) := by
  obtain ⟨named, _, fresh, rfl, _, hroles⟩ := runs_bind_ok_iff.1 h
  obtain ⟨classified, _, roles, rfl, _, hparams⟩ := runs_bind_ok_iff.1 hroles
  obtain ⟨prepared, _, params, rfl, _, hc⟩ := runs_bind_ok_iff.1 hparams
  obtain ⟨called, id, _, rfl, hw⟩ := runs_call_bind_ok hc
  obtain ⟨waited, rest, _, rfl, hw, hr⟩ := runs_bind_ok_iff.1 hw
  -- The id that is returned at the very end is the one of the call.
  obtain ⟨_, _, _, _, _, hr⟩ := runs_bind_ok_iff.1 hr
  obtain ⟨_, _, _, _, _, hr⟩ := runs_bind_ok_iff.1 hr
  obtain ⟨_, _, _, _, _, hr⟩ := runs_bind_ok_iff.1 hr
  obtain rfl : vm = id := Except.ok.inj (runs_pure_iff.1 hr).2
  rcases runs_tryCatch_iff.1 hw with ⟨_, hw, _⟩ | ⟨_, _, _, _, _, hfailed⟩
  · have seen := seen_of_waitVm (by simp) hw
    exact ⟨_, (((confirms_of_seen seen rest).after prepared).after classified).after named⟩
  · obtain ⟨_, _, _, _, _, hthrown⟩ := runs_bind_ok_iff.1 hfailed
    cases (runs_throw_iff.1 hthrown).2

theorem confirms_rebootVm {vm : ResourceId} (h : (m.rebootVm vm).Runs trace (.ok ())) :
    trace.Confirms (.restartInstance vm) ()
      (Reports (.describeVm vm) (stateOf VmInfo.state) (· = .running)) := by
  obtain ⟨looked, _, _, rfl, _, hc⟩ := runs_bind_ok_iff.1 h
  obtain ⟨called, _, waited, rfl, hw⟩ := runs_call_bind_ok hc
  have seen := seen_of_waitVm (by simp) hw
  exact Trace.Confirms.after ⟨called, waited, rfl, seen⟩ looked

theorem confirms_detachDisk {vm disk : ResourceId}
    (h : (m.detachDisk vm disk).Runs trace (.ok ())) :
    trace.Confirms (.detachVolume disk vm) ()
      (Reports (.describeVolume disk) (stateOf VolumeInfo.state) (· = .available)) := by
  obtain ⟨looked, _, _, rfl, _, hvolume⟩ := runs_bind_ok_iff.1 h
  obtain ⟨found, _, volume, rfl, _, hc⟩ := runs_bind_ok_iff.1 hvolume
  dsimp only at hc
  split at hc
  · cases (runs_throw_bind_iff.1 hc).2
  obtain ⟨called, _, _, rfl, hw⟩ := runs_call_bind_ok hc
  obtain ⟨waited, rest, _, rfl, hw, hr⟩ := runs_bind_ok_iff.1 hw
  have seen := seen_of_waitVolume (by simp) hw
  exact ((confirms_of_seen seen rest).after found).after looked

theorem confirms_attachDisk {vm disk : ResourceId} {device : String}
    (h : (m.attachDisk vm disk).Runs trace (.ok device)) :
    (∃ volume, Trace.FirstAnswer (.describeVolume disk) (.ok (some volume)) trace ∧
        volume.attachedVm = some vm) ∨
      trace.Confirms (.attachVolume disk vm) ()
        (Reports (.describeVolume disk) (stateOf VolumeInfo.state) (· = .inUse)) := by
  obtain ⟨looked, _, seenVm, rfl, hvm, hrest⟩ := runs_bind_ok_iff.1 h
  obtain ⟨found, rest, volume, rfl, hvolume, hread⟩ := runs_bind_ok_iff.1 hrest
  have described := firstAnswer_of_requireBoth hvm hvolume rest
  obtain ⟨read, _, settings, rfl, _, hknown⟩ := runs_bind_ok_iff.1 hread
  obtain ⟨known, _, attached, rfl, ha, hnext⟩ := runs_bind_ok_iff.1 hknown
  rcases attachedDevice_eq_ok (runs_outcome_iff.1 ha).2.symm with holder | ⟨detached, _, rfl⟩
  · exact .inl ⟨volume, described, holder⟩
  · dsimp only at hnext
    split at hnext
    · cases (runs_throw_iff.1 hnext).2
    · rw [detached] at hnext
      obtain ⟨called, _, rfl, hw⟩ := runs_requestAttach_bind_ok hnext
      obtain ⟨waited, after, _, rfl, hw, _⟩ := runs_bind_ok_iff.1 hw
      have seen := seen_of_waitVolume (by simp) hw
      exact .inr (((((confirms_of_seen seen after).after known).after read).after found).after
        looked)

/-- A description that comes to nothing ends the removal. -/
theorem removed_of_gone {σ : Type} [IsState σ] {description removal : ProviderCall}
    {state : description.Reply → σ} {reply : removal.Reply} {absent : Prop} {described : Trace}
    (h : described.FirstReports description state (IsState.isGone · = true) ∨
      absent ∧ described.Misread description) (rest : Trace) :
    Trace.Removed description state removal reply (described ++ rest) ∨
      Trace.Misread description (described ++ rest) := by
  rcases h with first | ⟨-, misread⟩
  · exact .inl (.inl (first.append rest))
  · exact .inr (misread.within [] rest)

/-- A removal that was accepted ends with a report of it, or with what reads as one. -/
theorem removed_of_seen {σ : Type} [IsState σ] {description removal : ProviderCall}
    {state : description.Reply → σ} {reply : removal.Reply} {described called after : Trace}
    (h : (∃ e ∈ after, Reports description state (IsState.isGone · = true) e) ∨
      after.Misread description) :
    Trace.Removed description state removal reply
        (described ++ (called ++ ⟨.provider removal, .ok reply⟩ :: after)) ∨
      Trace.Misread description
        (described ++ (called ++ ⟨.provider removal, .ok reply⟩ :: after)) := by
  rcases h with seen | misread
  · exact .inl (.inr (Trace.Confirms.after ⟨called, after, rfl, seen⟩ described))
  · have within := misread.within (described ++ (called ++ [⟨.provider removal, .ok reply⟩])) []
    simp only [List.append_assoc, List.append_nil, List.singleton_append] at within
    exact .inr within

/-- A wait that accepts only states that count as absence ends with a report of one. -/
theorem gone_of_reports {σ : Type} [IsState σ] {description : ProviderCall}
    {state : description.Reply → σ} {targets : List σ}
    (gone : ∀ seen ∈ targets, IsState.isGone seen = true)
    (h : (∃ e ∈ trace, Reports description state (· ∈ targets) e) ∨
      IsState.absent ∈ targets ∧ trace.Misread description) (after : Trace) :
    (∃ e ∈ trace ++ after, Reports description state (IsState.isGone · = true) e) ∨
      Trace.Misread description (trace ++ after) := by
  rcases h with ⟨e, he, report⟩ | ⟨-, misread⟩
  · exact .inl ⟨e, List.mem_append_left after he, report.mono gone⟩
  · exact .inr (misread.within [] after)

theorem removed_deleteVm {vm : ResourceId} (h : (m.deleteVm vm).Runs trace (.ok ())) :
    trace.Removed (.describeVm vm) (stateOf VmInfo.state) (.terminateInstance vm) () ∨
      trace.Misread (.describeVm vm) := by
  obtain ⟨described, rest, found, rfl, hd, hf⟩ := runs_bind_ok_iff.1 h
  by_cases gone : (stateOf VmInfo.state found).isGone = true
  · exact removed_of_gone (firstReports_of_describeVm hd gone) rest
  cases found with
  | none => exact absurd rfl gone
  | some info =>
    dsimp only at hf
    split at hf
    · rename_i absent
      exact absurd absent gone
    · obtain ⟨called, _, _, rfl, hw⟩ := runs_call_bind_ok hf
      obtain ⟨waited, after, _, rfl, hw, _⟩ := runs_bind_ok_iff.1 hw
      exact removed_of_seen (gone_of_reports (by decide) (reports_of_waitVm hw) after)

theorem removed_deleteDisk {disk : ResourceId} (h : (m.deleteDisk disk).Runs trace (.ok ())) :
    trace.Removed (.describeVolume disk) (stateOf VolumeInfo.state) (.deleteVolume disk) () ∨
      trace.Misread (.describeVolume disk) := by
  obtain ⟨described, rest, found, rfl, hd, hf⟩ := runs_bind_ok_iff.1 h
  by_cases gone : (stateOf VolumeInfo.state found).isGone = true
  · exact removed_of_gone (firstReports_of_describeVolume hd gone) rest
  cases found with
  | none => exact absurd rfl gone
  | some info =>
    dsimp only at hf
    split at hf
    · rename_i absent
      exact absurd absent gone
    split at hf
    · cases (runs_throw_bind_iff.1 hf).2
    · obtain ⟨called, _, waited, rfl, hw⟩ := runs_call_bind_ok hf
      have gone := gone_of_reports (by decide) (reports_of_waitVolume hw) []
      rw [List.append_nil] at gone
      exact removed_of_seen gone

theorem removed_deleteSnapshot {snapshot : ResourceId}
    (h : (m.deleteSnapshot snapshot).Runs trace (.ok ())) :
    trace.Removed (.describeSnapshot snapshot) (stateOf SnapshotInfo.state)
        (.deleteSnapshot snapshot) () ∨
      trace.Misread (.describeSnapshot snapshot) := by
  obtain ⟨described, rest, found, rfl, hd, hf⟩ := runs_bind_ok_iff.1 h
  by_cases gone : (stateOf SnapshotInfo.state found).isGone = true
  · exact removed_of_gone (firstReports_of_describeSnapshot hd gone) rest
  cases found with
  | none => exact absurd rfl gone
  | some info =>
    dsimp only at hf
    split at hf
    · rename_i absent
      exact absurd absent gone
    · obtain ⟨called, _, waited, rfl, hw⟩ := runs_call_bind_ok hf
      have gone := gone_of_reports (by decide) (reports_of_waitSnapshot hw) []
      rw [List.append_nil] at gone
      exact removed_of_seen gone

/-- Verbs that succeed have seen that what they asked for has happened. -/
theorem confirmed (m : Manager) : m.Confirmed where
  createDisk := confirms_createDisk
  snapshotDisk := confirms_snapshotDisk
  createVm := confirms_createVm
  rebootVm := confirms_rebootVm
  deleteVm := removed_deleteVm
  deleteDisk := removed_deleteDisk
  deleteSnapshot := removed_deleteSnapshot
  attachDisk := confirms_attachDisk
  detachDisk := confirms_detachDisk

/-- **Verbs look before and after.**  No command asks for a change of a volume but after it has seen
that the volume is fit for it, and no verb succeeds but after it has seen the change; verbs that
remove something may have misread a refresh of the credentials that failed. -/
theorem guarded_and_confirmed (m : Manager) :
    (∀ command : Command, command.Guarded m) ∧ m.Confirmed :=
  ⟨m.guarded, m.confirmed⟩

/-- The credentials cannot be refreshed, since nobody of this name is known; so deleting a VM
succeeds although no description has reported it gone and nobody has asked for its end. -/
theorem deleteVm_misread : ∃ trace, (small.deleteVm ⟨"i-1"⟩).Runs trace (.ok ()) ∧
    ¬trace.Removed (.describeVm ⟨"i-1"⟩) (stateOf VmInfo.state)
      (.terminateInstance ⟨"i-1"⟩) () := by
  refine ⟨[⟨.provider (.describeVm ⟨"i-1"⟩), .error (.unauthorized "expired")⟩,
    ⟨.provider .refreshCredentials, .error (.notFound "no such user")⟩],
    .ask _ (.ask _ (.done _)), ?_⟩
  rintro (⟨answer, seen, first, -, -⟩ | ⟨before, after, course, -⟩)
  · -- Neither event is a final answer of the description.
    cases first with
    | here _ final => exact final
    | later _ rest =>
      cases rest with
      | later _ nothing => cases nothing
  · -- No call asks for the end of the VM.
    have asked : ⟨.provider (.terminateInstance ⟨"i-1"⟩), .ok ()⟩ ∈
        before ++ ⟨.provider (.terminateInstance ⟨"i-1"⟩), .ok ()⟩ :: after := by simp
    rw [← course] at asked
    simp at asked

end Manager

end CloudLifecycle

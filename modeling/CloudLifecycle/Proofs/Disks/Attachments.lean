import CloudLifecycle.Proofs.Backend.Confirmation
import Mathlib.Logic.Function.Basic

/-!
# Attached disks

A faithful backend knows of every disk which VM it is attached to.  It tells so when the disk is
described, and changes it only where it accepts to attach or to detach the disk; and every VM keeps
its name.  `attached.Follows names trace later` says that the answers of a trace are those of such a
backend, which knows the attachments `attached` at first and `later` at the end.

A verb asks for at most one such change, so a whole run makes none or one: attaching makes a disk
attached that was free (`Manager.attachDisk_follows`), detaching one free that was attached to
the VM (`Manager.detachDisk_follows`).
-/

set_option autoImplicit false

namespace CloudLifecycle

/-- The VM that each disk is attached to. -/
abbrev Attachments : Type := ResourceId → Option ResourceId

namespace Attachments

/-- The attachments after an event. -/
def after (attached : Attachments) : Program.Event Action Action.Answer → Attachments
  | ⟨.provider (.attachVolume disk vm), .ok _⟩ => Function.update attached disk (some vm)
  | ⟨.provider (.detachVolume disk _), .ok _⟩ => Function.update attached disk none
  | _ => attached

/-- What the event tells is the case. -/
structure Tells (names : ResourceId → String) (attached : Attachments)
    (e : Program.Event Action Action.Answer) : Prop where
  attachedVm {disk : ResourceId} {volume : VolumeInfo}
    (h : e = ⟨.provider (.describeVolume disk), .ok (some volume)⟩) :
    volume.attachedVm = attached disk
  name {id : ResourceId} {vm : VmInfo}
    (h : e = ⟨.provider (.describeVm id), .ok (some vm)⟩) : vm.name = names id

/-- The answers of the trace are those of a backend that keeps to what it has accepted. -/
inductive Follows (names : ResourceId → String) : Attachments → Trace → Attachments → Prop where
  | nil (attached : Attachments) : Follows names attached [] attached
  | cons {attached later : Attachments} {e : Program.Event Action Action.Answer} {trace : Trace}
      (tells : attached.Tells names e) (rest : Follows names (attached.after e) trace later) :
      Follows names attached (e :: trace) later

end Attachments

/-- Nothing in the trace attaches or detaches a disk. -/
def Trace.Still (trace : Trace) : Prop :=
  ∀ disk vm, ⟨.provider (.attachVolume disk vm), .ok ()⟩ ∉ trace ∧
    ⟨.provider (.detachVolume disk vm), .ok ()⟩ ∉ trace

namespace Attachments

variable {names : ResourceId → String} {attached later : Attachments} {trace more : Trace}
  {e : Program.Event Action Action.Answer}

/-- Events that describe neither a VM nor a volume tell nothing. -/
theorem tells_of_silent {c : Action} {answer : c.Answer}
    (vm : ∀ id, c ≠ .provider (.describeVm id))
    (volume : ∀ id, c ≠ .provider (.describeVolume id)) :
    attached.Tells names ⟨c, answer⟩ where
  attachedVm h := absurd (congrArg Program.Event.question h) (volume _)
  name h := absurd (congrArg Program.Event.question h) (vm _)

theorem tells_vm {id : ResourceId} {vm : VmInfo} (h : vm.name = names id) :
    attached.Tells names ⟨.provider (.describeVm id), .ok (some vm)⟩ where
  attachedVm described := nomatch described
  name described := by
    cases described
    exact h

theorem tells_volume {disk : ResourceId} {volume : VolumeInfo}
    (h : volume.attachedVm = attached disk) :
    attached.Tells names ⟨.provider (.describeVolume disk), .ok (some volume)⟩ where
  attachedVm described := by
    cases described
    exact h
  name described := nomatch described

theorem after_attach (attached : Attachments) (disk vm : ResourceId) (reply : Unit) :
    attached.after ⟨.provider (.attachVolume disk vm), .ok reply⟩ =
      Function.update attached disk (some vm) := rfl

theorem after_detach (attached : Attachments) (disk vm : ResourceId) (reply : Unit) :
    attached.after ⟨.provider (.detachVolume disk vm), .ok reply⟩ =
      Function.update attached disk none := rfl

theorem after_of_still (still : Trace.Still [e]) : attached.after e = attached := by
  unfold after
  split
  · rename_i disk vm reply
    exact absurd (List.mem_singleton_self _) (still disk vm).1
  · rename_i disk vm reply
    exact absurd (List.mem_singleton_self _) (still disk vm).2
  · rfl

theorem follows_nil_iff : Follows names attached [] later ↔ attached = later := by
  constructor
  · rintro ⟨⟩
    rfl
  · rintro rfl
    exact .nil attached

theorem follows_cons_iff : Follows names attached (e :: trace) later ↔
    ∃ next, (attached.Tells names e ∧ next = attached.after e) ∧
      Follows names next trace later := by
  constructor
  · rintro (_ | ⟨tells, rest⟩)
    exact ⟨_, ⟨tells, rfl⟩, rest⟩
  · rintro ⟨next, ⟨tells, rfl⟩, rest⟩
    exact .cons tells rest

theorem follows_append_iff : Follows names attached (trace ++ more) later ↔
    ∃ middle, Follows names attached trace middle ∧ Follows names middle more later :=
  Trace.along_append_iff follows_nil_iff follows_cons_iff

namespace Follows

/-- Where nothing is attached or detached, all is told of the same attachments. -/
theorem still (h : Follows names attached trace later) (still : trace.Still) :
    later = attached ∧ ∀ e ∈ trace, attached.Tells names e := by
  induction h with
  | nil attached => exact ⟨rfl, fun e he => nomatch he⟩
  | @cons attached later e trace tells rest ih =>
    have first : Trace.Still [e] := fun disk vm =>
      ⟨fun he => (still disk vm).1 (List.mem_singleton.1 he ▸ List.mem_cons_self),
        fun he => (still disk vm).2 (List.mem_singleton.1 he ▸ List.mem_cons_self)⟩
    have others : trace.Still := fun disk vm =>
      ⟨fun he => (still disk vm).1 (List.mem_cons_of_mem e he),
        fun he => (still disk vm).2 (List.mem_cons_of_mem e he)⟩
    obtain ⟨rfl, told⟩ := ih others
    rw [after_of_still first] at told
    refine ⟨after_of_still first, fun other he => ?_⟩
    rcases List.mem_cons.1 he with rfl | he
    · exact tells
    · exact told other he

/-- A VM that was described has its name. -/
theorem name (h : Follows names attached trace later) {id : ResourceId} {vm : VmInfo}
    (described : ⟨.provider (.describeVm id), .ok (some vm)⟩ ∈ trace) : vm.name = names id := by
  induction h with
  | nil attached => cases described
  | cons tells _ ih =>
    rcases List.mem_cons.1 described with same | later
    · exact tells.name same.symm
    · exact ih later

/-- Where one event attaches or detaches a disk, all that was told before it is of the same
attachments. -/
theorem once {before rest : Trace} (h : Follows names attached (before ++ e :: rest) later)
    (hbefore : before.Still) (hrest : rest.Still) :
    later = attached.after e ∧ ∀ other ∈ before, attached.Tells names other := by
  obtain ⟨middle, hb, hr⟩ := follows_append_iff.1 h
  obtain ⟨rfl, told⟩ := hb.still hbefore
  cases hr with
  | cons _ rest => exact ⟨(rest.still hrest).1, told⟩

end Follows

end Attachments

namespace Manager

open Attachments

variable {m : Manager} {names : ResourceId → String} {attached later : Attachments}
  {trace : Trace} {vmId diskId : ResourceId}

/-- A verb that changes other things attaches and detaches nothing. -/
theorem follows_of_issues {α : Type} {verb : Verb α} {kinds : List Mutation}
    (hv : verb.Issues kinds) (hattach : .attach ∉ kinds) (hdetach : .detach ∉ kinds)
    {result : Except CpiError α} (h : verb.Runs trace result)
    (hf : attached.Follows names trace later) :
    later = attached ∧ ∀ e ∈ trace, attached.Tells names e := by
  refine hf.still fun disk vm => ⟨fun made => ?_, fun made => ?_⟩
  · exact hv.fresh_of_runs h hattach _ made _ rfl rfl
  · exact hv.fresh_of_runs h hdetach _ made _ rfl rfl

/-- **Attaching** leaves all attachments, or attaches the disk, which was free before.  If it
succeeds then the disk is attached. -/
theorem attachDisk_follows {result : Except CpiError String}
    (h : (m.attachDisk vmId diskId).Runs trace result)
    (hf : attached.Follows names trace later) :
    (later = attached ∨
      attached diskId = none ∧ later = Function.update attached diskId (some vmId)) ∧
    ∀ device, result = .ok device → later diskId = some vmId := by
  have issues := m.issues_attachDisk vmId diskId
  have undetached {part : Trace} (among : part ⊆ trace) (disk vm : ResourceId) :
      ⟨.provider (.detachVolume disk vm), .ok ()⟩ ∉ part := fun made =>
    issues.fresh_of_runs h (by simp) _ (among made) _ rfl rfl
  rcases issues.accepted_once h .attach with unattached |
    ⟨before, c, reply, rest, rfl, attaching, posed, once⟩
  · obtain ⟨rfl, told⟩ := hf.still fun disk vm =>
      ⟨unattached (.attachVolume disk vm) () rfl, undetached (List.Subset.refl _) disk vm⟩
    refine ⟨.inl rfl, ?_⟩
    rintro device rfl
    rcases confirms_attachDisk h with ⟨volume, first, holder⟩ | ⟨before, rest, rfl, -⟩
    · rw [← (told _ first.mem).attachedVm rfl]
      exact holder
    · exact absurd (by simp) (unattached (.attachVolume diskId vmId) () rfl)
  · cases c with
    | attachVolume disk vm =>
      obtain ⟨⟨rfl, rfl⟩, volume, first, free, -⟩ := guard_attachDisk posed
      obtain ⟨rfl, told⟩ := hf.once
        (fun disk vm => ⟨(once (.attachVolume disk vm) () rfl).1, undetached (by simp) disk vm⟩)
        (fun disk vm => ⟨(once (.attachVolume disk vm) () rfl).2, undetached (by simp) disk vm⟩)
      rw [after_attach]
      refine ⟨.inr ⟨?_, rfl⟩, fun _ _ => by simp⟩
      rw [← (told _ first.mem).attachedVm rfl]
      exact free
    | _ => cases attaching

/-- **Detaching** leaves all attachments, and then nothing was accepted, or it frees the disk, which
was attached to this VM before. -/
theorem detachDisk_follows {result : Except CpiError Unit}
    (h : (m.detachDisk vmId diskId).Runs trace result)
    (hf : attached.Follows names trace later) :
    (later = attached ∧ ∃ e, result = .error e) ∨
      attached diskId = some vmId ∧ later = Function.update attached diskId none ∧
        ⟨.provider (.detachVolume diskId vmId), .ok ()⟩ ∈ trace := by
  have issues := m.issues_detachDisk vmId diskId
  have unattached {part : Trace} (among : part ⊆ trace) (disk vm : ResourceId) :
      ⟨.provider (.attachVolume disk vm), .ok ()⟩ ∉ part := fun made =>
    issues.fresh_of_runs h (by simp) _ (among made) _ rfl rfl
  rcases issues.accepted_once h .detach with undetached |
    ⟨before, c, reply, rest, rfl, detaching, posed, once⟩
  · obtain ⟨rfl, told⟩ := hf.still fun disk vm =>
      ⟨unattached (List.Subset.refl _) disk vm, undetached (.detachVolume disk vm) () rfl⟩
    refine .inl ⟨rfl, ?_⟩
    cases result with
    | error e => exact ⟨e, rfl⟩
    | ok _ =>
      obtain ⟨before, rest, rfl, -⟩ := confirms_detachDisk h
      exact absurd (by simp) (undetached (.detachVolume diskId vmId) () rfl)
  · cases c with
    | detachVolume disk vm =>
      obtain ⟨⟨rfl, rfl⟩, volume, first, holder⟩ := guard_detachDisk posed
      obtain ⟨rfl, told⟩ := hf.once
        (fun disk vm => ⟨unattached (by simp) disk vm, (once (.detachVolume disk vm) () rfl).1⟩)
        (fun disk vm => ⟨unattached (by simp) disk vm, (once (.detachVolume disk vm) () rfl).2⟩)
      refine .inr ⟨?_, after_detach _ _ _ _, by simp⟩
      rw [← (told _ first.mem).attachedVm rfl]
      exact holder
    | _ => cases detaching

end Manager

end CloudLifecycle

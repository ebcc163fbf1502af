import CloudLifecycle.Proofs.Backend.Reissue
import CloudLifecycle.Proofs.Store.Stage

/-!
# Changes are made at most once

A command asks for the changes of its table `Command.mutations`, each kind at one place.  So a
change that was accepted is never asked for again, and one that was asked for is asked for again
only right after it was refused (`Manager.perform_atMostOnce`).  This holds at every moment of a run
and whatever is answered: in particular after a failure that leaves open whether the change was
made.
-/

set_option autoImplicit false

namespace CloudLifecycle

/-- The kinds of changes that a command may ask for. -/
def Command.mutations : Command → List Mutation
  | .createVm _ => [.run, .terminate, .bindAddress, .restart, .associate, .dissociate]
  | .deleteVm _ => [.terminate]
  | .rebootVm _ => [.restart]
  | .configureNetworks _ _ => [.bindAddress, .restart, .associate, .dissociate]
  | .createDisk _ => [.createVolume]
  | .deleteDisk _ => [.deleteVolume]
  | .attachDisk _ _ => [.attach]
  | .detachDisk _ _ => [.detach]
  | .snapshotDisk _ => [.createSnapshot]
  | .deleteSnapshot _ => [.deleteSnapshot]
  | .deleteStemcell _ => [.deleteImage]
  | .info | .currentVmId | .createStemcell _ | .hasVm _ | .setVmMetadata | .hasDisk _
  | .getDisks _ => []

namespace Manager

open Verb

variable (m : Manager)

/-! ## The parts of the verbs -/

theorem issues_call {c : ProviderCall} {kind : Mutation} (mutates : c.mutation? = some kind) :
    (m.call c).Issues [kind] :=
  issues_of_reissues mutates fun _ _ posed => Retry.reissues_call (poses_mapError_iff.1 posed)

theorem issues_requestAttach (vm disk : ResourceId) :
    (m.requestAttach vm disk).Issues [.attach] :=
  issues_of_reissues (c := .attachVolume disk vm) rfl fun _ _ posed =>
    Retry.reissues_rounds rfl _ (poses_mapError_iff.1 posed)

theorem issues_giveUp (vm : ResourceId) : (m.giveUp vm).Issues [.terminate] := by
  refine issues_of_reissues (c := .terminateInstance vm) rfl fun past c posed => ?_
  rcases Program.poses_bind_iff.1 (poses_lift_iff.1 posed) with asked | ⟨_, _, _, _, _, nothing⟩
  · exact Retry.reissues_call asked
  · exact absurd nothing Program.not_poses_done

theorem issues_freshName : Issues [] (ExceptT.lift Task.freshName : Verb String) :=
  (calls_lift (S := fun _ => False) Task.calls_freshName).issues fun _ impossible =>
    impossible.elim

theorem issues_outcome {α : Type} (outcome : Except CpiError α) :
    Issues [] (ExceptT.mk (pure outcome) : Verb α) :=
  (calls_outcome (S := fun _ => False) outcome).issues fun _ impossible => impossible.elim

/-- Checking a request for a new VM changes nothing. -/
theorem issues_prepareVm (name : String) (roles : NetworkRoles) (request : VmRequest) :
    (m.prepareVm name roles request).Issues [] := by
  refine (m.calls_prepareVm name roles request).issues fun c preparing => ?_
  cases c with
  | listSecurityGroups | describeImage _ | listInstanceTypes _ | findKeyPairs _ => rfl
  | _ => exact preparing.elim

/-- A new VM that does not come up is terminated once. -/
theorem issues_awaitCreated (vm : ResourceId) : (m.awaitCreated vm).Issues [.terminate] := by
  refine ((m.calls_waitVm vm _).looks rfl).tryCatch (fun e => ?_) (by simp)
  exact (m.issues_giveUp vm).andThen fun _ => issues_throw

theorem issues_applyPrimary (primary : PrimaryNetwork) (vm : VmInfo) :
    (m.applyPrimary primary vm).Issues [.bindAddress, .restart] := by
  unfold applyPrimary
  split
  · refine (m.issues_call rfl).bind (fun _ => ?_) (by decide)
    exact (m.issues_call rfl).andThen fun _ => (m.calls_waitVm _ _).looks rfl
  · exact issues_pure

theorem issues_associateVip (vip : VipNetwork) (vm : VmInfo) :
    (m.associateVip vip vm).Issues [.associate] := by
  refine ((m.calls_describeFloatingIp _).looks rfl).after fun found => ?_
  split
  · exact issues_throw
  · split
    · split
      · exact issues_pure
      · exact issues_throw
    · exact m.issues_call rfl

theorem issues_dissociateStaleVip (vm : VmInfo) :
    (m.dissociateStaleVip vm).Issues [.dissociate] := by
  unfold dissociateStaleVip
  split
  · exact issues_pure
  · refine ((m.calls_describeFloatingIp _).looks rfl).after fun found => ?_
    split
    · exact issues_pure
    · exact m.issues_call rfl

theorem issues_applyNetworks (roles : NetworkRoles) (vm : VmInfo) :
    (m.applyNetworks roles vm).Issues [.bindAddress, .restart, .associate, .dissociate] := by
  refine (m.issues_applyPrimary _ vm).bind
    (fun _ => (?floating : Issues [.associate, .dissociate] _)) (by decide)
  split
  · exact (m.issues_associateVip _ vm).mono (by decide)
  · exact (m.issues_dissociateStaleVip vm).mono (by decide)

/-! ## Verbs -/

theorem issues_createVm (request : VmRequest) : (m.createVm request).Issues
    [.run, .terminate, .bindAddress, .restart, .associate, .dissociate] := by
  refine issues_freshName.after fun fresh => (issues_outcome _).after fun roles => ?_
  refine (m.issues_prepareVm _ roles request).after fun params => ?_
  refine (m.issues_call rfl).bind (fun id => ?_) (by decide)
  refine (m.issues_awaitCreated id).bind (fun _ => ?_) (by decide)
  refine ((m.calls_requireVm id).looks rfl).after fun vm => ?_
  refine (m.issues_applyNetworks roles vm).andThen fun _ => ?_
  exact (issues_settings _).after fun _ => issues_pure

theorem issues_deleteVm (id : ResourceId) : (m.deleteVm id).Issues [.terminate] := by
  refine ((m.calls_describeVm id).looks rfl).after fun found => ?_
  cases found with
  | none => exact issues_pure
  | some vm =>
    dsimp only
    split
    · exact issues_pure
    · refine (m.issues_call rfl).andThen fun _ => ?_
      refine ((m.calls_waitVm _ _).looks rfl).after fun _ => ?_
      refine (issues_settings _).tryCatch (fun e => ?_) fun _ impossible => (by simp at impossible)
      split
      · exact issues_pure
      · exact issues_throw

theorem issues_configureNetworks (id : ResourceId) (networks : NetworkSpec) :
    (m.configureNetworks id networks).Issues
      [.bindAddress, .restart, .associate, .dissociate] := by
  refine ((m.calls_requireVm id).looks rfl).after fun vm => (issues_outcome _).after fun roles => ?_
  refine ((m.calls_resolveSecurityGroups _).looks rfl).after fun desired => ?_
  have applying : Issues [.bindAddress, .restart, .associate, .dissociate] (do
      m.applyNetworks roles vm
      let settings ← Verb.settings (.read vm.name)
      Verb.settings (.update vm.name { settings with networks })) := by
    refine (m.issues_applyNetworks roles vm).andThen fun _ => ?_
    exact (issues_settings _).after fun settings => issues_settings _
  dsimp only
  split
  · exact issues_throw_bind
  · split
    · split
      · exact issues_throw_bind
      · exact applying
    · exact applying

theorem issues_rebootVm (id : ResourceId) : (m.rebootVm id).Issues [.restart] := by
  refine (((m.calls_requireVm id).looks rfl).after fun _ => issues_pure).after fun _ => ?_
  exact (m.issues_call rfl).andThen fun _ => (m.calls_waitVm _ _).looks rfl

theorem issues_createDisk (sizeMib : Nat) : (m.createDisk sizeMib).Issues [.createVolume] := by
  refine (issues_outcome _).after fun gib => issues_freshName.after fun fresh => ?_
  refine (m.issues_call rfl).andThen fun id => ?_
  exact ((m.calls_waitVolume _ _).looks rfl).after fun _ => issues_pure

theorem issues_deleteDisk (id : ResourceId) : (m.deleteDisk id).Issues [.deleteVolume] := by
  refine ((m.calls_describeVolume id).looks rfl).after fun found => ?_
  cases found with
  | none => exact issues_pure
  | some volume =>
    dsimp only
    split
    · exact issues_pure
    · split
      · exact issues_throw_bind
      · exact (m.issues_call rfl).andThen fun _ => (m.calls_waitVolume _ _).looks rfl

theorem issues_attachDisk (vm disk : ResourceId) : (m.attachDisk vm disk).Issues [.attach] := by
  refine ((m.calls_requireVm vm).looks rfl).after fun seen => ?_
  refine ((m.calls_requireVolume disk).looks rfl).after fun volume => ?_
  refine (issues_settings _).after fun settings => (issues_outcome _).after fun attached => ?_
  cases attached with
  | some device => exact issues_pure
  | none =>
    dsimp only
    split
    · exact issues_throw
    · rename_i device _
      have record : Issues [] (do
          Verb.settings (.update seen.name (recordDevice settings disk device))
          return device) := (issues_settings _).after fun _ => issues_pure
      split
      · refine (m.issues_requestAttach vm disk).andThen fun _ => ?_
        exact ((m.calls_waitVolume _ _).looks rfl).after fun _ => record
      · exact record.mono (List.nil_subset _)

theorem issues_detachDisk (vm disk : ResourceId) : (m.detachDisk vm disk).Issues [.detach] := by
  refine ((m.calls_requireVm vm).looks rfl).after fun seen => ?_
  refine ((m.calls_requireVolume disk).looks rfl).after fun volume => ?_
  dsimp only
  split
  · exact issues_throw_bind
  · refine (m.issues_call rfl).andThen fun _ => ?_
    refine ((m.calls_waitVolume _ _).looks rfl).after fun _ => ?_
    refine (issues_settings _).after fun settings => ?_
    split
    · exact issues_settings _
    · exact issues_pure

theorem issues_getDisks (vm : ResourceId) : (m.getDisks vm).Issues [] := by
  refine ((m.calls_requireVm vm).looks rfl).after fun seen => ?_
  exact (issues_settings _).after fun settings => issues_pure

theorem issues_snapshotDisk (disk : ResourceId) :
    (m.snapshotDisk disk).Issues [.createSnapshot] := by
  refine (((m.calls_requireVolume disk).looks rfl).after fun _ => issues_pure).after fun _ => ?_
  refine issues_freshName.after fun fresh => ?_
  refine (m.issues_call rfl).andThen fun id => ?_
  exact ((m.calls_waitSnapshot _ _).looks rfl).after fun _ => issues_pure

theorem issues_deleteSnapshot (id : ResourceId) :
    (m.deleteSnapshot id).Issues [.deleteSnapshot] := by
  refine ((m.calls_describeSnapshot id).looks rfl).after fun found => ?_
  cases found with
  | none => exact issues_pure
  | some snapshot =>
    dsimp only
    split
    · exact issues_pure
    · exact (m.issues_call rfl).andThen fun _ => (m.calls_waitSnapshot _ _).looks rfl

theorem issues_createStemcell (properties : StemcellProperties) :
    (m.createStemcell properties).Issues [] := by
  unfold createStemcell
  split
  · exact ((m.calls_requireImage _).looks rfl).after fun _ => issues_pure
  · dsimp only
    split
    · exact issues_throw_bind
    · refine ((m.calls_call (.findImageByName properties.name)).looks rfl).after fun images => ?_
      cases images with
      | nil => exact issues_throw
      | cons image _ => exact issues_pure

theorem issues_deleteStemcell (id : ResourceId) : (m.deleteStemcell id).Issues [.deleteImage] := by
  refine ((m.calls_describeImage id).looks rfl).after fun found => ?_
  cases found with
  | none => exact issues_pure
  | some image => exact m.issues_call rfl

/-- **A command asks for the changes of its table, each one first or right after its refusal.** -/
theorem issues_perform (command : Command) : (m.perform command).Issues command.mutations := by
  have returns {α : Type} {verb : Verb α} {f : α → Json} {kinds : List Mutation}
      (hv : verb.Issues kinds) : Issues kinds (do return f (← verb) : Verb Json) :=
    hv.andThen fun _ => issues_pure
  cases command with
  | info | setVmMetadata => exact issues_pure
  | currentVmId =>
    have quiet : m.currentVmId.Issues [] :=
      (m.calls_currentVmId (S := fun _ => False)).issues fun _ impossible => impossible.elim
    exact returns quiet
  | createStemcell properties => exact returns (m.issues_createStemcell properties)
  | deleteStemcell id => exact returns (m.issues_deleteStemcell id)
  | createVm request => exact returns (m.issues_createVm request)
  | deleteVm id => exact returns (m.issues_deleteVm id)
  | hasVm id => exact returns (((m.calls_describeVm id).looks rfl).after fun _ => issues_pure)
  | rebootVm id => exact returns (m.issues_rebootVm id)
  | configureNetworks id networks => exact returns (m.issues_configureNetworks id networks)
  | createDisk sizeMib => exact returns (m.issues_createDisk sizeMib)
  | deleteDisk id => exact returns (m.issues_deleteDisk id)
  | hasDisk id => exact returns (((m.calls_describeVolume id).looks rfl).after fun _ => issues_pure)
  | attachDisk vm disk => exact returns ((m.issues_attachDisk vm disk).andThen fun _ => issues_pure)
  | detachDisk vm disk => exact returns (m.issues_detachDisk vm disk)
  | getDisks vm => exact returns (m.issues_getDisks vm)
  | snapshotDisk disk => exact returns (m.issues_snapshotDisk disk)
  | deleteSnapshot id => exact returns (m.issues_deleteSnapshot id)

/-- **Changes are made at most once.**  Whenever a command asks for a change, none of this kind was
accepted before, and whatever was asked for before is the same call and was refused each time.  It
is the first one of its kind, or it follows right after its own refusal and the repair of it. -/
theorem perform_atMostOnce {command : Command} {past : Trace} {c : ProviderCall}
    (posed : (m.perform command).Poses past (.provider c)) (mutates : c.isMutating = true) :
    ∃ kind ∈ command.mutations, c.mutation? = some kind ∧
      (∀ other reply, other.mutation? = some kind → ⟨.provider other, .ok reply⟩ ∉ past) ∧
      (∀ other answer, other.mutation? = some kind → ⟨.provider other, answer⟩ ∈ past →
        other = c ∧ ∃ repair, ProviderRefusal other answer repair) ∧
      (past.Fresh kind ∨ past.Refused c) := by
  rw [← c.isSome_mutation?] at mutates
  obtain ⟨kind, hkind⟩ := Option.isSome_iff_exists.1 mutates
  have issues := m.issues_perform command
  obtain ⟨among, start⟩ := issues posed hkind
  refine ⟨kind, among, hkind, ?accepted, ?refused, start⟩
  case accepted =>
    intro other reply same accepted
    obtain ⟨-, repair, refusal⟩ := issues.refused_before posed hkind same accepted
    exact refusal.ne_ok reply rfl
  case refused =>
    intro other answer same made
    exact issues.refused_before posed hkind same made

/-- A volume that another operation holds at first is attached with the second call. -/
theorem perform_atMostOnce_conflict :
    let attach : ProviderCall := .attachVolume ⟨"d-1"⟩ ⟨"i-1"⟩
    ∃ past, (small.perform (.attachDisk ⟨"i-1"⟩ ⟨"d-1"⟩)).Poses past (.provider attach) ∧
      attach.isMutating = true ∧ ⟨.provider attach, .error (.conflict "busy")⟩ ∈ past ∧
      ∃ kind ∈ (Command.attachDisk ⟨"i-1"⟩ ⟨"d-1"⟩).mutations, attach.mutation? = some kind ∧
        (∀ other reply, other.mutation? = some kind → ⟨.provider other, .ok reply⟩ ∉ past) ∧
        (∀ other answer, other.mutation? = some kind → ⟨.provider other, answer⟩ ∈ past →
          other = attach ∧ ∃ repair, ProviderRefusal other answer repair) ∧
        (past.Fresh kind ∨ past.Refused attach) := by
  intro attach
  let vm : VmInfo := ⟨⟨"i-1"⟩, "vm-1", .running, none, [], none⟩
  let volume : VolumeInfo := ⟨⟨"d-1"⟩, "disk-1", .available, 1, none⟩
  let past : Trace := [⟨.provider (.describeVm ⟨"i-1"⟩), .ok (some vm)⟩,
    ⟨.provider (.describeVolume ⟨"d-1"⟩), .ok (some volume)⟩,
    ⟨.settings (.read "vm-1"), .ok (.initial "vm-1" "agent" Dict.empty none)⟩,
    ⟨.provider attach, .error (.conflict "busy")⟩, ⟨.sleep attachPause, ()⟩]
  have posed : (small.perform (.attachDisk ⟨"i-1"⟩ ⟨"d-1"⟩)).Poses past (.provider attach) :=
    .later _ (.later _ (.later _ (.later _ (.later _ .now))))
  exact ⟨past, posed, rfl, by simp [past], small.perform_atMostOnce posed rfl⟩

end Manager

end CloudLifecycle

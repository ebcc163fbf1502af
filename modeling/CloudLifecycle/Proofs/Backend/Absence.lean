import CloudLifecycle.Proofs.Runs.Alike
import CloudLifecycle.Proofs.Runs.Dialogue
import CloudLifecycle.Proofs.Runs.Manager
import CloudLifecycle.Proofs.Store.Stage

/-!
# Two spellings of absence

Whatever a backend says of a resource that it does not have, that there is nothing or that it was
not found, a verb goes on in the same way.  No verb makes a description in any other way than by
`Retry.describe`, so each one is blind (`Manager.blind_carryOut`), and so is a dialogue in which the
results so far decide on the next command.  In two surroundings that differ in the spelling only, a
dialogue has the same result, leaves the same state and takes the same actions
(`Manager.conduct_alike`).
-/

set_option autoImplicit false

namespace CloudLifecycle

namespace Manager

variable (m : Manager)

/-! ## The parts of the verbs -/

open Verb

theorem blind_describeVm (id : ResourceId) : (m.describeVm id).Blind :=
  blind_mapError (Retry.blind_describe (.ask fun _ _ => .done)) _

theorem blind_describeVolume (id : ResourceId) : (m.describeVolume id).Blind :=
  blind_mapError (Retry.blind_describe (.ask fun _ _ => .done)) _

theorem blind_describeSnapshot (id : ResourceId) : (m.describeSnapshot id).Blind :=
  blind_mapError (Retry.blind_describe (.ask fun _ _ => .done)) _

theorem blind_describeImage (id : ResourceId) : (m.describeImage id).Blind :=
  blind_mapError (Retry.blind_describe (.ask fun _ _ => .done)) _

theorem blind_describeFloatingIp (address : String) : (m.describeFloatingIp address).Blind :=
  blind_mapError (Retry.blind_describe (.ask fun _ _ => .done)) _

variable {m}

/-- A call that is no description is blind. -/
theorem blind_call {c : ProviderCall} (plain : (Action.provider c).Plain) : (m.call c).Blind :=
  (m.calls_call c).blind fun _ e => e ▸ plain

variable (m)

theorem blind_requireVm (id : ResourceId) : (m.requireVm id).Blind := by
  refine (m.blind_describeVm id).bind fun found => ?_
  cases found with
  | none => exact blind_throw _
  | some vm =>
    dsimp only
    split
    · exact blind_throw _
    · exact blind_pure _

theorem blind_requireVolume (id : ResourceId) : (m.requireVolume id).Blind := by
  refine (m.blind_describeVolume id).bind fun found => ?_
  cases found with
  | none => exact blind_throw _
  | some volume =>
    dsimp only
    split
    · exact blind_throw _
    · exact blind_pure _

theorem blind_requireImage (id : ResourceId) : (m.requireImage id).Blind := by
  refine (m.blind_describeImage id).bind fun found => ?_
  cases found with
  | none => exact blind_throw _
  | some image => exact blind_pure _

theorem blind_waitVm (id : ResourceId) (targets : List VmState) : (m.waitVm id targets).Blind :=
  (m.options.waiter.blind_wait _ _ _
    ((m.blind_describeVm id).bind fun _ => blind_pure _)).discard

theorem blind_waitVolume (id : ResourceId) (targets : List VolumeState) :
    (m.waitVolume id targets).Blind :=
  (m.options.waiter.blind_wait _ _ _
    ((m.blind_describeVolume id).bind fun _ => blind_pure _)).discard

theorem blind_waitSnapshot (id : ResourceId) (targets : List SnapshotState) :
    (m.waitSnapshot id targets).Blind :=
  (m.options.waiter.blind_wait _ _ _
    ((m.blind_describeSnapshot id).bind fun _ => blind_pure _)).discard

theorem blind_resolveSecurityGroups (names : List String) :
    (m.resolveSecurityGroups names).Blind :=
  (blind_call fun _ _ => id).bind fun _ => blind_outcome _

theorem blind_applyNetworks (roles : NetworkRoles) (vm : VmInfo) :
    (m.applyNetworks roles vm).Blind := by
  refine Blind.bind ?primary fun _ => ?vip
  case primary =>
    unfold applyPrimary
    split
    · refine (blind_call fun _ _ => id).bind fun _ => ?_
      exact (blind_call fun _ _ => id).bind fun _ => m.blind_waitVm _ _
    · exact blind_pure _
  case vip =>
    split
    · refine (m.blind_describeFloatingIp _).bind fun found => ?_
      split
      · exact blind_throw _
      · split
        · split
          · exact blind_pure _
          · exact blind_throw _
        · exact blind_call fun _ _ => id
    · unfold dissociateStaleVip
      split
      · exact blind_pure _
      · refine (m.blind_describeFloatingIp _).bind fun found => ?_
        split
        · exact blind_pure _
        · exact blind_call fun _ _ => id

/-! ## The verbs -/

theorem blind_prepareVm (name : String) (roles : NetworkRoles) (request : VmRequest) :
    (m.prepareVm name roles request).Blind := by
  refine (m.blind_resolveSecurityGroups _).bind fun groups => ?_
  refine Blind.bind ?limit fun _ => ?_
  case limit =>
    unfold checkGroupLimit
    split
    · exact blind_pure _
    · split
      · exact blind_throw _
      · exact blind_pure _
  refine (m.blind_requireImage _).bind fun image => ?_
  refine Blind.bind ?offered fun _ => ?_
  case offered =>
    refine (blind_call fun _ _ => id).bind fun offered => ?_
    split
    · exact blind_throw _
    · exact blind_pure _
  refine Blind.bind ?pair fun pair => blind_pure _
  case pair =>
    unfold resolveKeyPair
    split
    · exact blind_throw _
    · refine (blind_call fun _ _ => id).bind fun pairs => ?_
      split
      · exact blind_pure _
      · exact blind_throw _

theorem blind_awaitCreated (vm : ResourceId) : (m.awaitCreated vm).Blind := by
  refine (m.blind_waitVm vm _).tryCatch fun e => ?_
  exact ((m.calls_giveUp vm).blind fun _ e => e ▸ fun _ _ => id).bind fun _ => blind_throw _

theorem blind_createVm (request : VmRequest) : (m.createVm request).Blind := by
  refine blind_freshName.bind fun fresh => (blind_outcome _).bind fun roles => ?_
  refine (m.blind_prepareVm _ _ _).bind fun params => ?_
  refine (blind_call fun _ _ => id).bind fun id => ?_
  refine (m.blind_awaitCreated id).bind fun _ => (m.blind_requireVm id).bind fun vm => ?_
  refine (m.blind_applyNetworks _ _).bind fun _ => ?_
  exact (blind_settings _).bind fun _ => blind_pure _

theorem blind_deleteVm (vm : ResourceId) : (m.deleteVm vm).Blind := by
  refine (m.blind_describeVm vm).bind fun found => ?_
  cases found with
  | none => exact blind_pure _
  | some info =>
    dsimp only
    split
    · exact blind_pure _
    · refine (blind_call fun _ _ => id).bind fun _ => (m.blind_waitVm vm _).bind fun _ => ?_
      refine (blind_settings _).tryCatch fun e => ?_
      split
      · exact blind_pure _
      · exact blind_throw _

theorem blind_rebootVm (vm : ResourceId) : (m.rebootVm vm).Blind :=
  (m.blind_requireVm vm).discard.bind fun _ =>
    (blind_call fun _ _ => id).bind fun _ => m.blind_waitVm _ _

theorem blind_configureNetworks (id : ResourceId) (networks : NetworkSpec) :
    (m.configureNetworks id networks).Blind := by
  rw [configureNetworks_eq]
  refine (m.blind_requireVm id).bind fun vm => (blind_outcome _).bind fun roles => ?_
  refine (m.blind_resolveSecurityGroups _).bind fun desired => (blind_outcome _).bind fun _ => ?_
  refine (m.blind_applyNetworks roles vm).bind fun _ => ?_
  exact (blind_settings _).bind fun _ => blind_settings _

theorem blind_createDisk (sizeMib : Nat) : (m.createDisk sizeMib).Blind := by
  refine (blind_outcome _).bind fun gib => blind_freshName.bind fun fresh => ?_
  refine (blind_call fun _ _ => id).bind fun id => ?_
  exact (m.blind_waitVolume _ _).bind fun _ => blind_pure _

theorem blind_deleteDisk (disk : ResourceId) : (m.deleteDisk disk).Blind := by
  refine (m.blind_describeVolume disk).bind fun found => ?_
  cases found with
  | none => exact blind_pure _
  | some volume =>
    dsimp only
    split
    · exact blind_pure _
    · split
      · exact blind_throw_bind _ _
      · exact (blind_call fun _ _ => id).bind fun _ => m.blind_waitVolume _ _

theorem blind_requestAttach (vm disk : ResourceId) : (m.requestAttach vm disk).Blind := by
  refine Calls.blind (S := (· = .attachVolume disk vm)) ?_ fun _ e => e ▸ fun _ _ => id
  exact calls_mapError (Retry.calls_roundsLeft (Retry.calls_call _ (Task.calls_provider _)) _) _

theorem blind_attachDisk (vm disk : ResourceId) : (m.attachDisk vm disk).Blind := by
  refine (m.blind_requireVm vm).bind fun info => (m.blind_requireVolume disk).bind fun volume => ?_
  refine (blind_settings _).bind fun settings => (blind_outcome _).bind fun known => ?_
  cases known with
  | some device => exact blind_pure _
  | none =>
    dsimp only
    split
    · exact blind_throw _
    · have record {device : String} : Blind (do
          Verb.settings (.update info.name (recordDevice settings disk device))
          return device) :=
        (blind_settings _).bind fun _ => blind_pure _
      split
      · refine (m.blind_requestAttach vm disk).bind fun _ => ?_
        exact (m.blind_waitVolume _ _).bind fun _ => record
      · exact record

theorem blind_detachDisk (vm disk : ResourceId) : (m.detachDisk vm disk).Blind := by
  refine (m.blind_requireVm vm).bind fun info => (m.blind_requireVolume disk).bind fun volume => ?_
  dsimp only
  split
  · exact blind_throw_bind _ _
  · refine (blind_call fun _ _ => id).bind fun _ => (m.blind_waitVolume _ _).bind fun _ => ?_
    refine (blind_settings _).bind fun settings => ?_
    split
    · exact blind_settings _
    · exact blind_pure _

theorem blind_getDisks (vm : ResourceId) : (m.getDisks vm).Blind :=
  (m.blind_requireVm vm).bind fun _ => (blind_settings _).bind fun _ => blind_pure _

theorem blind_snapshotDisk (disk : ResourceId) : (m.snapshotDisk disk).Blind := by
  refine (m.blind_requireVolume disk).discard.bind fun _ => blind_freshName.bind fun fresh => ?_
  refine (blind_call fun _ _ => id).bind fun id => ?_
  exact (m.blind_waitSnapshot _ _).bind fun _ => blind_pure _

theorem blind_deleteSnapshot (snapshot : ResourceId) : (m.deleteSnapshot snapshot).Blind := by
  refine (m.blind_describeSnapshot snapshot).bind fun found => ?_
  cases found with
  | none => exact blind_pure _
  | some info =>
    dsimp only
    split
    · exact blind_pure _
    · exact (blind_call fun _ _ => id).bind fun _ => m.blind_waitSnapshot _ _

theorem blind_createStemcell (properties : StemcellProperties) :
    (m.createStemcell properties).Blind := by
  unfold createStemcell
  split
  · exact (m.blind_requireImage _).bind fun _ => blind_pure _
  · dsimp only
    split
    · exact blind_throw _
    · refine (blind_call fun _ _ => id).bind fun images => ?_
      cases images with
      | nil => exact blind_throw _
      | cons image _ => exact blind_pure _

theorem blind_deleteStemcell (image : ResourceId) : (m.deleteStemcell image).Blind := by
  refine (m.blind_describeImage image).bind fun found => ?_
  cases found with
  | none => exact blind_pure _
  | some _ => exact blind_call fun _ _ => id

/-! ## Commands and dialogues -/

/-- **No verb tells the two spellings of absence from one another.** -/
theorem blind_carryOut (command : Command) : (m.carryOut command).Blind := by
  cases command with
  | info | setVmMetadata => exact blind_pure _
  | currentVmId => exact (calls_currentVmId (S := fun _ => False) m).blind fun _ => False.elim
  | createStemcell properties => exact m.blind_createStemcell properties
  | deleteStemcell id => exact m.blind_deleteStemcell id
  | createVm request => exact m.blind_createVm request
  | deleteVm id => exact m.blind_deleteVm id
  | hasVm id => exact (m.blind_describeVm id).bind fun _ => blind_pure _
  | rebootVm id => exact m.blind_rebootVm id
  | configureNetworks id networks => exact m.blind_configureNetworks id networks
  | createDisk sizeMib => exact m.blind_createDisk sizeMib
  | deleteDisk id => exact m.blind_deleteDisk id
  | hasDisk id => exact (m.blind_describeVolume id).bind fun _ => blind_pure _
  | attachDisk vm disk => exact m.blind_attachDisk vm disk
  | detachDisk vm disk => exact m.blind_detachDisk vm disk
  | getDisks vm => exact m.blind_getDisks vm
  | snapshotDisk disk => exact m.blind_snapshotDisk disk
  | deleteSnapshot id => exact m.blind_deleteSnapshot id

theorem blind_conduct {α : Type} (dialogue : Dialogue α) : (m.conduct dialogue).Blind := by
  induction dialogue with
  | done value => exact .done rfl
  | ask command next ih => exact Task.Blind.bind (m.blind_carryOut command) ih

/-- **Two spellings of absence are indistinguishable.**  In surroundings that differ only in the way
in which a description says that there is nothing, a dialogue has the same result, leaves the same
state and takes the same actions, with answers that are the same but for these spellings. -/
theorem conduct_alike {α ω : Type} (dialogue : Dialogue α)
    {s s' : Surroundings Action Action.Answer ω} (alike : s.Alike s') (start : ω) :
    s.run (m.conduct dialogue) start = s'.run (m.conduct dialogue) start ∧
      Trace.Alike (s.events (m.conduct dialogue) start) (s'.events (m.conduct dialogue) start) := by
  have blind := m.blind_conduct dialogue
  obtain ⟨-, -, events⟩ := Program.Similar.run_alike blind alike start
  exact ⟨blind.run_eq alike start, events⟩

/-- A dialogue that deletes a VM, looks for it and tries to restart it. -/
def farewell (vm : ResourceId) :
    Dialogue (Except CpiError Unit × Except CpiError Bool × Except CpiError Unit) :=
  .ask (.deleteVm vm) fun deleted => .ask (.hasVm vm) fun there => .ask (.rebootVm vm)
    fun rebooted => .done (deleted, there, rebooted)

/-- The VM is described once, and after that it is absent in either spelling. -/
theorem conduct_alike_farewell :
    let stage := Stage.small [("describe_vm", [⟨.zero, false, .value (.object [])⟩,
      ⟨.zero, false, .value .null⟩])]
    let refusing := Stage.surroundings.refusing "no such VM"
    Stage.surroundings.Alike refusing ∧
    Stage.surroundings.run (small.conduct (farewell ⟨"i-1"⟩)) stage =
      refusing.run (small.conduct (farewell ⟨"i-1"⟩)) stage ∧
    Trace.Alike (Stage.surroundings.events (small.conduct (farewell ⟨"i-1"⟩)) stage)
      (refusing.events (small.conduct (farewell ⟨"i-1"⟩)) stage) ∧
    (refusing.run (small.conduct (farewell ⟨"i-1"⟩)) stage).1 =
      some (.ok (), .ok false, .error (.notFound .vm "i-1")) := by
  intro stage refusing
  have alike : Stage.surroundings.Alike refusing := Stage.surroundings.alike_refusing _
  obtain ⟨run, events⟩ := small.conduct_alike (farewell ⟨"i-1"⟩) alike stage
  exact ⟨alike, run, events, by rfl⟩

end Manager

end CloudLifecycle

import CloudLifecycle.Proofs.Network.Classification
import CloudLifecycle.Proofs.Runs.Denials
import CloudLifecycle.Proofs.Runs.Dialogue
import CloudLifecycle.Proofs.Runs.Manager
import CloudLifecycle.Proofs.Runs.Playing
import CloudLifecycle.Proofs.Store.Stage

/-!
# What exists

Every verb on a VM or a volume looks it up first.  What it makes of the outcome is the same for all
of them: `Finding.of` tells whether the resource is absent, present or unknown.  If it is absent,
the verbs that ask for it and those that remove it are over with success and those that require it
report it as absent; if nothing could be found out, all fail for that cause.  Either way nothing is
done after the look (`Manager.SettlesVm`, `Manager.SettlesVolume`).  If the resource is present it
is removed where it can be, and no verb that requires it reports it as absent
(`Manager.AdmitsVm`, `Manager.AdmitsVolume`).
-/

set_option autoImplicit false

namespace CloudLifecycle

/-! ## Findings -/

/-- What the outcome of a description says about a resource. -/
inductive Finding (α : Type) where
  | absent
  | present (info : α)
  | unknown (cause : ProviderError)

/-- A resource that was not found is absent, and so is one in a state that counts as absence. -/
def Finding.of {α : Type} (gone : α → Bool) : ProviderResult (Option α) → Finding α
  | .ok none => .absent
  | .ok (some info) => if gone info then .absent else .present info
  | .error (.notFound _) => .absent
  | .error cause => .unknown cause

section Decides

variable {ω α β : Type} (s : Surroundings Action Action.Answer ω) (verb : Verb β) (start : ω)
  (looked : Trace) (middle : ω)

/-- After the look the verb has ended as it does for an absent resource, it goes on with what was
found, or it has failed because nothing could be found out. -/
def Verb.Decides (denied : Except CpiError β) (goOn : α → Verb β) : Finding α → Prop
  | .absent => s.Leads verb.run start looked (.done denied) middle
  | .present info => s.Leads verb.run start looked (goOn info).run middle
  | .unknown cause => s.Leads verb.run start looked (.done (.error (.provider cause))) middle

variable {s start looked middle}

/-- A verb decides by the description that it begins with. -/
theorem Verb.decides_of_described {describe : Verb (Option α)} {gone : α → Bool}
    {outcome : ProviderResult (Option α)}
    (described : s.Leads describe.run start looked
      (.done ((Retry.absentIfNotFound outcome).mapError .provider)) middle)
    {f : Option α → Verb β} {denied : Except CpiError β} {goOn : α → Verb β}
    (hnone : f none = ExceptT.mk (pure denied))
    (hgone : ∀ info, gone info = true → f (some info) = ExceptT.mk (pure denied))
    (hthere : ∀ info, gone info = false → f (some info) = goOn info) :
    (describe >>= f).Decides s start looked middle denied goOn (Finding.of gone outcome) := by
  cases outcome with
  | ok found =>
    have next : s.Leads (describe >>= f).run start looked (f found).run middle :=
      leads_bind described
    cases found with
    | none =>
      rw [hnone] at next
      exact next
    | some info =>
      cases state : gone info with
      | true =>
        have found : Finding.of gone (.ok (some info)) = .absent := if_pos state
        rw [hgone info state] at next
        rw [found]
        exact next
      | false =>
        have found : Finding.of gone (.ok (some info)) = .present info := if_neg (by simp [state])
        rw [hthere info state] at next
        rw [found]
        exact next
  | error cause =>
    cases cause with
    | notFound text =>
      have next : s.Leads (describe >>= f).run start looked (f none).run middle :=
        leads_bind described
      rw [hnone] at next
      exact next
    | unauthorized _ | rateLimited _ _ | conflict _ | badRequest _ | serverError _ | transport _
    | decode _ => exact leads_bind_error described

end Decides

/-! ## Looks -/

/-- The VM that a command requires. -/
def Command.requiredVm? : Command → Option ResourceId
  | .rebootVm vm | .configureNetworks vm _ | .attachDisk vm _ | .detachDisk vm _ | .getDisks vm =>
    some vm
  | _ => none

namespace Manager

open Verb

variable (m : Manager)

/-- The look at a VM with all its repetitions. -/
def lookAtVm (vm : ResourceId) : Task (ProviderResult (Option VmInfo)) :=
  Retry.call m.options.retry (Task.provider (.describeVm vm))

/-- The look at a volume with all its repetitions. -/
def lookAtVolume (disk : ResourceId) : Task (ProviderResult (Option VolumeInfo)) :=
  Retry.call m.options.retry (Task.provider (.describeVolume disk))

/-- What the look at a VM found. -/
def foundVm : ProviderResult (Option VmInfo) → Finding VmInfo := .of (·.state.isGone)

/-- What the look at a volume found. -/
def foundVolume : ProviderResult (Option VolumeInfo) → Finding VolumeInfo := .of (·.state.isGone)

section Looks

variable {m} {ω : Type} {s : Surroundings Action Action.Answer ω} {start middle : ω}
  {looked : Trace}

theorem leads_describeVm {vm : ResourceId} {outcome : ProviderResult (Option VmInfo)}
    (look : s.Leads (m.lookAtVm vm) start looked (.done outcome) middle) :
    s.Leads (m.describeVm vm).run start looked
      (.done ((Retry.absentIfNotFound outcome).mapError .provider)) middle := by
  have described : s.Leads (Retry.describe m.options.retry (Task.provider (.describeVm vm))) start
      looked (.done (Retry.absentIfNotFound outcome)) middle := look.bind
  exact described.bind

theorem leads_describeVolume {disk : ResourceId} {outcome : ProviderResult (Option VolumeInfo)}
    (look : s.Leads (m.lookAtVolume disk) start looked (.done outcome) middle) :
    s.Leads (m.describeVolume disk).run start looked
      (.done ((Retry.absentIfNotFound outcome).mapError .provider)) middle := by
  have described : s.Leads (Retry.describe m.options.retry (Task.provider (.describeVolume disk)))
      start looked (.done (Retry.absentIfNotFound outcome)) middle := look.bind
  exact described.bind

theorem decides_hasVm {vm : ResourceId} {outcome : ProviderResult (Option VmInfo)}
    (look : s.Leads (m.lookAtVm vm) start looked (.done outcome) middle) :
    (m.hasVm vm).Decides s start looked middle (.ok false) (fun _ => pure true)
      (foundVm outcome) :=
  decides_of_described (leads_describeVm look) rfl (fun _ gone => congrArg (fun b => pure !b) gone)
    (fun _ there => congrArg (fun b => pure !b) there)

theorem decides_deleteVm {vm : ResourceId} {outcome : ProviderResult (Option VmInfo)}
    (look : s.Leads (m.lookAtVm vm) start looked (.done outcome) middle) :
    (m.deleteVm vm).Decides s start looked middle (.ok ())
      (fun info => do
        m.call (.terminateInstance vm)
        m.waitVm vm [.terminated, .ceased, .noExist]
        dropSettings info.name) (foundVm outcome) :=
  decides_of_described (leads_describeVm look) rfl (fun _ gone => if_pos gone)
    (fun _ there => if_neg (Bool.not_eq_true _ ▸ there))

theorem decides_requireVm {vm : ResourceId} {outcome : ProviderResult (Option VmInfo)}
    (look : s.Leads (m.lookAtVm vm) start looked (.done outcome) middle) :
    (m.requireVm vm).Decides s start looked middle (.error (.notFound .vm vm.text)) pure
      (foundVm outcome) :=
  decides_of_described (leads_describeVm look) rfl (fun _ gone => if_pos gone)
    (fun _ there => if_neg (Bool.not_eq_true _ ▸ there))

theorem decides_hasDisk {disk : ResourceId} {outcome : ProviderResult (Option VolumeInfo)}
    (look : s.Leads (m.lookAtVolume disk) start looked (.done outcome) middle) :
    (m.hasDisk disk).Decides s start looked middle (.ok false) (fun _ => pure true)
      (foundVolume outcome) :=
  decides_of_described (leads_describeVolume look) rfl
    (fun _ gone => congrArg (fun b => pure !b) gone)
    (fun _ there => congrArg (fun b => pure !b) there)

theorem decides_deleteDisk {disk : ResourceId} {outcome : ProviderResult (Option VolumeInfo)}
    (look : s.Leads (m.lookAtVolume disk) start looked (.done outcome) middle) :
    (m.deleteDisk disk).Decides s start looked middle (.ok ())
      (fun info => do
        if info.state ≠ .available then
          throw (.cloudError ("Cannot delete volume `" ++ disk.text ++ "', state is "
            ++ info.state.text))
        m.call (.deleteVolume disk)
        m.waitVolume disk [.deleted, .ceased, .noExist]) (foundVolume outcome) :=
  decides_of_described (leads_describeVolume look) rfl (fun _ gone => if_pos gone)
    (fun _ there => if_neg (Bool.not_eq_true _ ▸ there))

theorem decides_requireVolume {disk : ResourceId} {outcome : ProviderResult (Option VolumeInfo)}
    (look : s.Leads (m.lookAtVolume disk) start looked (.done outcome) middle) :
    (m.requireVolume disk).Decides s start looked middle (.error (.notFound .volume disk.text)) pure
      (foundVolume outcome) :=
  decides_of_described (leads_describeVolume look) rfl (fun _ gone => if_pos gone)
    (fun _ there => if_neg (Bool.not_eq_true _ ▸ there))

end Looks

/-! ## What requires a resource -/

theorem configureNetworks_looksUp (vm : ResourceId) (networks : NetworkSpec) :
    ∃ next, m.configureNetworks vm networks = m.requireVm vm >>= next ∧
      ∀ info, (next info).Spares .vm := by
  refine ⟨_, m.configureNetworks_eq vm networks, fun info => ?_⟩
  have classified : ∀ id, NetworkRoles.classify networks ≠ .error (.notFound .vm id) := by
    intro id h
    obtain ⟨text, he⟩ := NetworkRoles.blamesSpec_classify networks _ h
    cases he
  refine (spares_outcome classified).bind fun roles => ?_
  refine (m.spares_resolveSecurityGroups _ (by decide)).bind fun desired => ?_
  have unfit {names : List String} :
      ∀ id, fitNetworks names desired roles info ≠ .error (.notFound .vm id) := by
    intro id h
    unfold fitNetworks at h
    split at h
    · cases h
    · split at h
      · cases h
      · split at h <;> cases h
  refine (spares_outcome unfit).bind fun _ => ?_
  refine (m.spares_applyNetworks roles info (by decide)).bind fun _ => ?_
  exact (spares_settings _).bind fun _ => spares_settings _

theorem attachDisk_looksUp (vm disk : ResourceId) :
    ∃ next : VmInfo → VolumeInfo → Verb String, m.attachDisk vm disk =
        (m.requireVm vm >>= fun info => m.requireVolume disk >>= next info) ∧
      ∀ kind info volume, (next info volume).Spares kind := by
  refine ⟨_, rfl, fun kind info volume => ?_⟩
  refine (spares_settings _).bind fun settings => ?_
  have known : ∀ id, attachedDevice vm disk volume settings ≠ .error (.notFound kind id) := by
    intro id h
    unfold attachedDevice at h
    split at h
    · split at h <;> cases h
    · split at h <;> cases h
  refine (spares_outcome known).bind fun known => ?_
  cases known with
  | some device => exact spares_pure _
  | none =>
    dsimp only
    split
    · exact spares_throw fun _ h => nomatch h
    · exact m.avoids_attachAs foreign_notFound vm disk info volume settings _

theorem detachDisk_looksUp (vm disk : ResourceId) :
    ∃ next : VmInfo → VolumeInfo → Verb Unit, m.detachDisk vm disk =
        (m.requireVm vm >>= fun info => m.requireVolume disk >>= next info) ∧
      ∀ kind info volume, (next info volume).Spares kind := by
  refine ⟨_, rfl, fun kind info volume => ?_⟩
  dsimp only
  split
  · refine spares_throw_bind (fun _ h => ?_) _
    cases h
  · refine (m.spares_call _).bind fun _ => (m.spares_waitVolume _ _).bind fun _ => ?_
    refine (spares_settings _).bind fun settings => ?_
    split
    · exact spares_settings _
    · exact spares_pure _

/-- A command that requires a VM looks it up, and does not call it absent after it was found. -/
theorem carryOut_looksUp {command : Command} {vm : ResourceId}
    (h : command.requiredVm? = some vm) :
    ∃ next : VmInfo → Verb command.Result, m.carryOut command = m.requireVm vm >>= next ∧
      ∀ info, (next info).Spares .vm := by
  cases command with
  | rebootVm id =>
    obtain rfl := Option.some.inj h
    refine ⟨_, discard_bind (m.requireVm id) _, fun info => ?_⟩
    exact (m.spares_call _).bind fun _ => m.spares_waitVm _ _
  | configureNetworks id networks =>
    obtain rfl := Option.some.inj h
    exact m.configureNetworks_looksUp id networks
  | attachDisk id disk =>
    obtain rfl := Option.some.inj h
    obtain ⟨next, same, spares⟩ := m.attachDisk_looksUp id disk
    exact ⟨_, same, fun info => (m.spares_requireVolume disk (by decide)).bind (spares .vm info)⟩
  | detachDisk id disk =>
    obtain rfl := Option.some.inj h
    obtain ⟨next, same, spares⟩ := m.detachDisk_looksUp id disk
    exact ⟨_, same, fun info => (m.spares_requireVolume disk (by decide)).bind (spares .vm info)⟩
  | getDisks id =>
    obtain rfl := Option.some.inj h
    exact ⟨_, rfl, fun info => (spares_settings _).bind fun _ => spares_pure _⟩
  | _ => cases h

theorem snapshotDisk_looksUp (disk : ResourceId) :
    ∃ next, m.snapshotDisk disk = m.requireVolume disk >>= next ∧
      ∀ volume, (next volume).Spares .volume := by
  refine ⟨_, discard_bind (m.requireVolume disk) _, fun volume => ?_⟩
  refine (spares_lift _).bind fun fresh => (m.spares_call _).bind fun id => ?_
  exact (m.spares_waitSnapshot _ _).bind fun _ => spares_pure _

/-! ## Verdicts -/

section Verdicts

variable {ω : Type} (s : Surroundings Action Action.Answer ω)

/-- After the look at the VM the verbs on it are over, with these results. -/
structure SettlesVm (vm : ResourceId) (start : ω) (looked : Trace) (middle : ω)
    (there : Except CpiError Bool) (removed : Except CpiError Unit) (cause : CpiError) : Prop where
  has : s.Leads (m.hasVm vm).run start looked (.done there) middle
  delete : s.Leads (m.deleteVm vm).run start looked (.done removed) middle
  require (command : Command) (requires : command.requiredVm? = some vm) :
    s.Leads (m.carryOut command).run start looked (.done (.error cause)) middle

/-- The look at the VM has found it: it exists, it is about to be terminated where it shall be
removed, and a command that requires it does not call it absent. -/
structure AdmitsVm (vm : ResourceId) (start : ω) (looked : Trace) (middle : ω) : Prop where
  has : s.Leads (m.hasVm vm).run start looked (.done (.ok true)) middle
  delete : ∃ next, s.Leads (m.deleteVm vm).run start looked
    (.ask (.provider (.terminateInstance vm)) next) middle
  require (command : Command) (requires : command.requiredVm? = some vm) :
    (s.run (m.carryOut command).run start).1 ≠ some (.error (.notFound .vm vm.text))

/-- The command has come to its look at the volume, at once or after a look that found its VM. -/
inductive ReachesVolume (disk : ResourceId) (start : ω) : Command → ω → Trace → Prop where
  | snapshot : ReachesVolume disk start (.snapshotDisk disk) start []
  | attach {vm : ResourceId} {first : ω} {earlier : Trace}
      {outcome : ProviderResult (Option VmInfo)} {info : VmInfo}
      (look : s.Leads (m.lookAtVm vm) first earlier (.done outcome) start)
      (found : foundVm outcome = .present info) :
      ReachesVolume disk start (.attachDisk vm disk) first earlier
  | detach {vm : ResourceId} {first : ω} {earlier : Trace}
      {outcome : ProviderResult (Option VmInfo)} {info : VmInfo}
      (look : s.Leads (m.lookAtVm vm) first earlier (.done outcome) start)
      (found : foundVm outcome = .present info) :
      ReachesVolume disk start (.detachDisk vm disk) first earlier

/-- After the look at the volume the verbs on it are over, with these results. -/
structure SettlesVolume (disk : ResourceId) (start : ω) (looked : Trace) (middle : ω)
    (there : Except CpiError Bool) (removed : Except CpiError Unit) (cause : CpiError) : Prop where
  has : s.Leads (m.hasDisk disk).run start looked (.done there) middle
  delete : s.Leads (m.deleteDisk disk).run start looked (.done removed) middle
  require (command : Command) (first : ω) (earlier : Trace)
    (reaches : m.ReachesVolume s disk start command first earlier) :
    s.Leads (m.carryOut command).run first (earlier ++ looked) (.done (.error cause)) middle

/-- The look at the volume has found it in some state: it exists, it is about to be deleted if it is
available and else the removal is refused, and a command that requires it does not call it
absent. -/
structure AdmitsVolume (disk : ResourceId) (start : ω) (looked : Trace) (middle : ω)
    (state : VolumeState) : Prop where
  has : s.Leads (m.hasDisk disk).run start looked (.done (.ok true)) middle
  delete (available : state = .available) : ∃ next, s.Leads (m.deleteDisk disk).run start looked
    (.ask (.provider (.deleteVolume disk)) next) middle
  refuse (other : state ≠ .available) : ∃ text, s.Leads (m.deleteDisk disk).run start looked
    (.done (.error (.cloudError text))) middle
  require (command : Command) (first : ω) (earlier : Trace)
    (reaches : m.ReachesVolume s disk start command first earlier) :
    (s.run (m.carryOut command).run first).1 ≠ some (.error (.notFound .volume disk.text))

/-- What the verbs on a VM make of what the look at it found: it is denied by all of them, admitted
by all of them, or all of them fail for the cause of the look. -/
def AgreeOnVm (vm : ResourceId) (start : ω) (looked : Trace) (middle : ω) : Finding VmInfo → Prop
  | .absent => m.SettlesVm s vm start looked middle (.ok false) (.ok ()) (.notFound .vm vm.text)
  | .present _ => m.AdmitsVm s vm start looked middle
  | .unknown cause => m.SettlesVm s vm start looked middle (.error (.provider cause))
      (.error (.provider cause)) (.provider cause)

/-- What the verbs on a volume make of what the look at it found. -/
def AgreeOnVolume (disk : ResourceId) (start : ω) (looked : Trace) (middle : ω) :
    Finding VolumeInfo → Prop
  | .absent =>
    m.SettlesVolume s disk start looked middle (.ok false) (.ok ()) (.notFound .volume disk.text)
  | .present info => m.AdmitsVolume s disk start looked middle info.state
  | .unknown cause => m.SettlesVolume s disk start looked middle (.error (.provider cause))
      (.error (.provider cause)) (.provider cause)

variable {s} {start middle : ω} {looked : Trace}

/-- A call is asked for at once. -/
theorem call_bind_eq_ask {β : Type} (c : ProviderCall) (f : c.Reply → Verb β) :
    ∃ next, (m.call c >>= f).run = .ask (.provider c) next := by
  unfold call Retry.call
  cases m.options.retry.maxAttempts - 1 <;> exact ⟨_, rfl⟩

/-- A command that reaches its look at a volume goes on from there, and does not call the volume
absent after it was found. -/
theorem ReachesVolume.leads {disk : ResourceId} {command : Command} {first : ω} {earlier : Trace}
    (h : m.ReachesVolume s disk start command first earlier) :
    ∃ next : VolumeInfo → Verb command.Result,
      s.Leads (m.carryOut command).run first earlier (m.requireVolume disk >>= next).run start ∧
        ∀ volume, (next volume).Spares .volume := by
  have arrives {α : Type} {vm : ResourceId} {outcome : ProviderResult (Option VmInfo)}
      {info : VmInfo} (look : s.Leads (m.lookAtVm vm) first earlier (.done outcome) start)
      (found : foundVm outcome = .present info) (next : VmInfo → Verb α) :
      s.Leads (m.requireVm vm >>= next).run first earlier (next info).run start := by
    have decided := decides_requireVm look
    rw [found] at decided
    exact leads_bind decided
  cases h with
  | snapshot =>
    obtain ⟨next, same, spares⟩ := m.snapshotDisk_looksUp disk
    refine ⟨next, ?_, spares⟩
    rw [← same]
    exact .refl _ _
  | attach look found =>
    obtain ⟨next, same, spares⟩ := m.attachDisk_looksUp _ disk
    have led := arrives look found fun info => m.requireVolume disk >>= next info
    rw [← same] at led
    exact ⟨_, led, spares .volume _⟩
  | detach look found =>
    obtain ⟨next, same, spares⟩ := m.detachDisk_looksUp _ disk
    have led := arrives look found fun info => m.requireVolume disk >>= next info
    rw [← same] at led
    exact ⟨_, led, spares .volume _⟩

theorem agreeOnVm_of_look {vm : ResourceId} {outcome : ProviderResult (Option VmInfo)}
    (look : s.Leads (m.lookAtVm vm) start looked (.done outcome) middle) :
    m.AgreeOnVm s vm start looked middle (foundVm outcome) := by
  have has := decides_hasVm look
  have delete := decides_deleteVm look
  have require := decides_requireVm look
  generalize foundVm outcome = found at has delete require ⊢
  cases found with
  | absent | unknown cause =>
    refine ⟨has, delete, fun command requires => ?_⟩
    obtain ⟨next, same, -⟩ := m.carryOut_looksUp requires
    rw [same]
    exact leads_bind_error require
  | present info =>
    refine ⟨has, ?_, fun command requires => ?_⟩
    · obtain ⟨next, asks⟩ := m.call_bind_eq_ask (.terminateInstance vm) fun _ => do
        m.waitVm vm [.terminated, .ceased, .noExist]
        dropSettings info.name
      exact ⟨next, asks ▸ delete⟩
    · obtain ⟨next, same, spares⟩ := m.carryOut_looksUp requires
      have found : s.Leads (m.requireVm vm >>= next).run start looked (next info).run middle :=
        leads_bind require
      rw [same, found.run]
      exact (spares info).run_ne s middle vm.text

theorem agreeOnVolume_of_look {disk : ResourceId} {outcome : ProviderResult (Option VolumeInfo)}
    (look : s.Leads (m.lookAtVolume disk) start looked (.done outcome) middle) :
    m.AgreeOnVolume s disk start looked middle (foundVolume outcome) := by
  have has := decides_hasDisk look
  have delete := decides_deleteDisk look
  have require := decides_requireVolume look
  generalize foundVolume outcome = found at has delete require ⊢
  cases found with
  | absent | unknown cause =>
    refine ⟨has, delete, fun command first earlier reaches => ?_⟩
    obtain ⟨next, led, -⟩ := reaches.leads
    exact led.trans (leads_bind_error require)
  | present info =>
    refine ⟨has, fun available => ?_, fun other => ?_, fun command first earlier reaches => ?_⟩
    · obtain ⟨next, asks⟩ := m.call_bind_eq_ask (.deleteVolume disk) fun _ =>
        m.waitVolume disk [.deleted, .ceased, .noExist]
      rw [Decides, if_neg (Decidable.not_not.2 available)] at delete
      exact ⟨next, asks ▸ delete⟩
    · rw [Decides, if_pos other] at delete
      exact ⟨_, delete⟩
    · obtain ⟨next, led, spares⟩ := reaches.leads
      have found : s.Leads (m.requireVolume disk >>= next).run start looked (next info).run
          middle := leads_bind require
      rw [led.run, found.run]
      exact (spares info).run_ne s middle disk.text

/-- **All verbs agree on what exists.**  What the look at a VM or at a volume finds, with all its
repetitions, decides for every verb on it: the resource is denied by all of them, with nothing done
after the look, it is admitted by all of them, or all of them fail for the cause of the look. -/
theorem verbs_agree (s : Surroundings Action Action.Answer ω) (start middle : ω) (looked : Trace) :
    (∀ vm outcome, s.Leads (m.lookAtVm vm) start looked (.done outcome) middle →
      m.AgreeOnVm s vm start looked middle (foundVm outcome)) ∧
    ∀ disk outcome, s.Leads (m.lookAtVolume disk) start looked (.done outcome) middle →
      m.AgreeOnVolume s disk start looked middle (foundVolume outcome) :=
  ⟨fun _ _ look => m.agreeOnVm_of_look look, fun _ _ look => m.agreeOnVolume_of_look look⟩

end Verdicts

/-- The VM is reported as terminated at the second attempt, and the volume as available. -/
theorem verbs_agree_terminated :
    let stage := Stage.small [("describe_vm", [
      ⟨.zero, false, .refused (.unauthorized "expired")⟩,
      ⟨.zero, false, .value (.object [("state", .text "terminated")])⟩])]
    let lookVm := small.lookAtVm ⟨"i-1"⟩
    let lookVolume := small.lookAtVolume ⟨"vol-1"⟩
    let vm : VmInfo := ⟨⟨"i-1"⟩, "", .terminated, none, [], none⟩
    let volume : VolumeInfo := ⟨⟨"vol-1"⟩, "", .available, 0, none⟩
    (Stage.surroundings.Leads lookVm stage (Stage.surroundings.events lookVm stage)
        (.done (.ok (some vm))) (stage.play lookVm).2 ∧
      small.SettlesVm Stage.surroundings ⟨"i-1"⟩ stage (Stage.surroundings.events lookVm stage)
        (stage.play lookVm).2 (.ok false) (.ok ()) (.notFound .vm "i-1")) ∧
    Stage.surroundings.Leads lookVolume stage (Stage.surroundings.events lookVolume stage)
        (.done (.ok (some volume))) (stage.play lookVolume).2 ∧
      small.AdmitsVolume Stage.surroundings ⟨"vol-1"⟩ stage
        (Stage.surroundings.events lookVolume stage) (stage.play lookVolume).2 .available := by
  intro stage lookVm lookVolume vm volume
  have looked : Stage.surroundings.Leads lookVm stage _ (.done (.ok (some vm))) _ := .of_run rfl
  have lookedVolume : Stage.surroundings.Leads lookVolume stage _ (.done (.ok (some volume))) _ :=
    .of_run rfl
  exact ⟨⟨looked, (small.verbs_agree _ _ _ _).1 _ _ looked⟩, lookedVolume,
    (small.verbs_agree _ _ _ _).2 _ _ lookedVolume⟩

end Manager

end CloudLifecycle

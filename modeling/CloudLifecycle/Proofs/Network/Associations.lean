import CloudLifecycle.Proofs.Network.Requested
import CloudLifecycle.Proofs.Runs.Manager
import CloudLifecycle.Proofs.Runs.Reports
import CloudLifecycle.Proofs.Store.Serves
import Mathlib.Data.Set.Subsingleton
import Mathlib.Logic.Function.Basic

/-!
# Floating addresses and the VMs that have them

A faithful backend knows of every floating address which VM it is associated with, if any.  It tells
so when the address is described, reports an address with a VM that has one, and changes an
association only where it accepts to associate or to dissociate the address.
`held.Follows addressOf trace later` says that the answers of a trace are those of such a backend,
which knows the associations `held` at first and `later` at the end.

Changing the networks of a VM associates the address that was asked for, or it takes the reported
one away where none was asked for, or it leaves all associations (`Manager.readdressed_of_runs`).
-/

set_option autoImplicit false

namespace CloudLifecycle

/-- The VM that each floating address is associated with. -/
abbrev Associations : Type := String → Option ResourceId

namespace Associations

/-- The floating addresses of a VM. -/
def ofVm (held : Associations) (vm : ResourceId) : Set String := {address | held address = some vm}

variable (addressOf : ResourceId → String)

/-- The associations after the backend has accepted a call. -/
def changed (held : Associations) : ProviderCall → Associations
  | .associateFloatingIp floatingIp vm => Function.update held (addressOf floatingIp) (some vm)
  | .dissociateFloatingIp floatingIp => Function.update held (addressOf floatingIp) none
  | _ => held

/-- The associations after an event. -/
def after (held : Associations) : Program.Event Action Action.Answer → Associations
  | ⟨.provider c, .ok _⟩ => held.changed addressOf c
  | _ => held

/-- What the event tells is the case. -/
structure Tells (held : Associations) (e : Program.Event Action Action.Answer) : Prop where
  vm {id : ResourceId} {info : VmInfo}
    (h : e = ⟨.provider (.describeVm id), .ok (some info)⟩) :
    info.id = id ∧
      ((held.ofVm id).Nonempty → ∃ address ∈ held.ofVm id, info.floatingIp = some address)
  floatingIp {address : String} {info : FloatingIpInfo}
    (h : e = ⟨.provider (.describeFloatingIp address), .ok (some info)⟩) :
    addressOf info.id = address ∧ info.associatedVm = held address
  absent {address : String} {answer : ProviderResult (Option FloatingIpInfo)}
    (h : e = ⟨.provider (.describeFloatingIp address), answer⟩)
    (nothing : answer = .ok none ∨ ∃ text, answer = .error (.notFound text)) : held address = none

/-- The answers of the trace are those of a backend that keeps to what it has accepted. -/
inductive Follows : Associations → Trace → Associations → Prop where
  | nil (held : Associations) : Follows held [] held
  | cons {held later : Associations} {e : Program.Event Action Action.Answer} {trace : Trace}
      (tells : held.Tells addressOf e) (rest : Follows (held.after addressOf e) trace later) :
      Follows held (e :: trace) later

end Associations

/-- The call has no effect on floating addresses. -/
def ProviderCall.LeavesAddresses (c : ProviderCall) : Prop :=
  ∀ addressOf (held : Associations), held.changed addressOf c = held

namespace Associations

section Basics

variable {addressOf : ResourceId → String} {held later : Associations} {trace more : Trace}

/-- Events that describe neither a VM nor a floating address tell nothing. -/
theorem tells_of_silent {action : Action} {answer : action.Answer}
    (vm : ∀ id, action ≠ .provider (.describeVm id))
    (floatingIp : ∀ address, action ≠ .provider (.describeFloatingIp address)) :
    held.Tells addressOf ⟨action, answer⟩ where
  vm h := absurd (congrArg Program.Event.question h) (vm _)
  floatingIp h := absurd (congrArg Program.Event.question h) (floatingIp _)
  absent h := absurd (congrArg Program.Event.question h) (floatingIp _)

theorem tells_vm {id : ResourceId} {info : VmInfo} (own : info.id = id)
    (reported : (held.ofVm id).Nonempty →
      ∃ address ∈ held.ofVm id, info.floatingIp = some address) :
    held.Tells addressOf ⟨.provider (.describeVm id), .ok (some info)⟩ where
  vm h := by
    cases h
    exact ⟨own, reported⟩
  floatingIp h := nomatch h
  absent h := nomatch h

theorem tells_floatingIp {address : String} {info : FloatingIpInfo}
    (own : addressOf info.id = address) (associated : info.associatedVm = held address) :
    held.Tells addressOf ⟨.provider (.describeFloatingIp address), .ok (some info)⟩ where
  vm h := nomatch h
  floatingIp h := by
    cases h
    exact ⟨own, associated⟩
  absent h nothing := by
    cases h
    rcases nothing with nothing | ⟨text, nothing⟩ <;> cases nothing

theorem follows_nil_iff : Follows addressOf held [] later ↔ held = later := by
  constructor
  · rintro ⟨⟩
    rfl
  · rintro rfl
    exact .nil held

theorem follows_cons_iff {e : Program.Event Action Action.Answer} :
    Follows addressOf held (e :: trace) later ↔
      ∃ next, (held.Tells addressOf e ∧ next = held.after addressOf e) ∧
        Follows addressOf next trace later := by
  constructor
  · rintro (_ | ⟨tells, rest⟩)
    exact ⟨_, ⟨tells, rfl⟩, rest⟩
  · rintro ⟨next, ⟨tells, rfl⟩, rest⟩
    exact .cons tells rest

theorem follows_append_iff : Follows addressOf held (trace ++ more) later ↔
    ∃ middle, Follows addressOf held trace middle ∧ Follows addressOf middle more later :=
  Trace.along_append_iff follows_nil_iff follows_cons_iff

theorem ofVm_update_some (held : Associations) (ip : String) (vm : ResourceId) :
    ofVm (Function.update held ip (some vm)) vm = insert ip (held.ofVm vm) := by
  ext address
  by_cases same : address = ip <;> simp [ofVm, same]

theorem ofVm_update_none (held : Associations) (ip : String) (vm : ResourceId) :
    ofVm (Function.update held ip none) vm = held.ofVm vm \ {ip} := by
  ext address
  by_cases same : address = ip <;> simp [ofVm, same]

/-- What was accepted before changes nothing any more. -/
theorem changed_changed (held : Associations) (c : ProviderCall) :
    (held.changed addressOf c).changed addressOf c = held.changed addressOf c := by
  cases c with
  | associateFloatingIp _ _ | dissociateFloatingIp _ => exact Function.update_idem _ _ _
  | _ => rfl

/-- An event changes nothing, or it is the acceptance of a call and changes what this call does. -/
theorem after_cases (addressOf : ResourceId → String) (held : Associations)
    (e : Program.Event Action Action.Answer) :
    held.after addressOf e = held ∨ ∃ c reply, e = ⟨.provider c, .ok reply⟩ ∧
      held.after addressOf e = held.changed addressOf c := by
  unfold after
  split
  · rename_i c reply
    exact .inr ⟨c, reply, rfl, rfl⟩
  · exact .inl rfl

namespace Follows

/-- Where no call has an effect, all is told of the same associations. -/
theorem still (h : Follows addressOf held trace later)
    (calls : trace.CallsIn ProviderCall.LeavesAddresses) :
    later = held ∧ ∀ e ∈ trace, held.Tells addressOf e := by
  induction h with
  | nil held => exact ⟨rfl, fun e he => nomatch he⟩
  | @cons held later e trace tells rest ih =>
    have same : held.after addressOf e = held := by
      rcases after_cases addressOf held e with same | ⟨c, reply, rfl, change⟩
      · exact same
      · rcases calls _ List.mem_cons_self c rfl with rfl | called
        · exact change
        · exact change.trans (called addressOf held)
    obtain ⟨rfl, told⟩ := ih fun other he => calls other (List.mem_cons_of_mem e he)
    rw [same] at told
    refine ⟨same, fun other he => ?_⟩
    rcases List.mem_cons.1 he with rfl | he
    · exact tells
    · exact told other he

/-- Where one call is made over and over, it is accepted and has its effect, or it has none. -/
theorem ofCall {c : ProviderCall} (h : Follows addressOf held trace later)
    (calls : trace.CallsIn (· = c)) :
    later = held.changed addressOf c ∨
      later = held ∧ ∀ reply, ⟨.provider c, .ok reply⟩ ∉ trace := by
  induction h with
  | nil held => exact .inr ⟨rfl, fun reply he => nomatch he⟩
  | @cons held later e trace tells rest ih =>
    have ih := ih fun other he => calls other (List.mem_cons_of_mem e he)
    by_cases accepted : ∃ reply, e = ⟨.provider c, .ok reply⟩
    · obtain ⟨reply, rfl⟩ := accepted
      refine .inl ?_
      rcases ih with rfl | ⟨rfl, -⟩
      · exact changed_changed held c
      · rfl
    · have same : held.after addressOf e = held := by
        rcases after_cases addressOf held e with same | ⟨other, reply, rfl, change⟩
        · exact same
        · rcases calls _ List.mem_cons_self other rfl with rfl | rfl
          · exact change
          · exact absurd ⟨reply, rfl⟩ accepted
      rw [same] at ih
      refine ih.imp_right fun ⟨kept, unmade⟩ => ⟨kept, fun reply he => ?_⟩
      rcases List.mem_cons.1 he with he | he
      · exact accepted ⟨reply, he.symm⟩
      · exact unmade reply he

end Follows

end Basics

end Associations

/-! ## Steps of the verb -/

variable {α β : Type} {addressOf : ResourceId → String} {held later : Associations} {trace : Trace}

/-- After a verb whose calls have no effect on floating addresses, the next one starts with the same
associations, of which all was told. -/
theorem Verb.Calls.follows_bind {verb : Verb α} {f : α → Verb β}
    (hv : verb.Calls ProviderCall.LeavesAddresses) {result : Except CpiError β}
    (h : (verb >>= f).Runs trace result) (hf : held.Follows addressOf trace later) :
    (∃ e, result = .error e) ∧ later = held ∨
      ∃ first rest a, trace = first ++ rest ∧ verb.Runs first (.ok a) ∧
        (∀ e ∈ first, held.Tells addressOf e) ∧ (f a).Runs rest result ∧
        held.Follows addressOf rest later := by
  rcases Verb.runs_bind_iff.1 h with ⟨e, hr, rfl⟩ | ⟨first, rest, a, rfl, hr, hrest⟩
  · exact .inl ⟨⟨e, rfl⟩, (hf.still (hv.callsIn hr)).1⟩
  · obtain ⟨middle, hfirst, follows⟩ := Associations.follows_append_iff.1 hf
    obtain ⟨rfl, told⟩ := hfirst.still (hv.callsIn hr)
    exact .inr ⟨first, rest, a, rfl, hr, told, hrest, follows⟩

namespace Manager

open Verb Associations

variable {m : Manager}

theorem runs_describeFloatingIp {address : String}
    {result : Except CpiError (Option FloatingIpInfo)}
    (h : (m.describeFloatingIp address).Runs trace result) :
    ∃ outcome, Repeats m.options.retry (.describeFloatingIp address) true 0 trace outcome ∧
      result = (Retry.absentIfNotFound outcome).mapError .provider := by
  obtain ⟨found, hd, rfl⟩ := Verb.runs_mapError_iff.1 h
  obtain ⟨outcome, hc, rfl⟩ := Retry.runs_describe hd
  exact ⟨outcome, Retry.repeats_of_runs hc, rfl⟩

/-- A floating address is described as it is; it is described as absent where it is associated with
no VM or the answer was misread. -/
theorem told_of_describeFloatingIp {address : String} {found : Option FloatingIpInfo}
    (h : (m.describeFloatingIp address).Runs trace (.ok found))
    (told : ∀ e ∈ trace, held.Tells addressOf e) :
    match found with
    | some info => addressOf info.id = address ∧ info.associatedVm = held address
    | none => held address = none ∨ trace.Misread (.describeFloatingIp address) := by
  obtain ⟨outcome, repeats, ho⟩ := runs_describeFloatingIp h
  have described := Verb.mapError_eq_ok_iff.1 ho.symm
  cases found with
  | some info =>
    have reply := Retry.absentIfNotFound_eq_some_iff.1 described
    exact (told _ (repeats.firstReply (by simp) reply).mem).floatingIp rfl
  | none =>
    have nothing : outcome = .ok none ∨ ∃ text, outcome = .error (.notFound text) := by
      unfold Retry.absentIfNotFound at described
      split at described
      · rename_i text
        exact .inr ⟨text, rfl⟩
      · exact .inl described
    have final : Retry.Final outcome := by
      rcases nothing with rfl | ⟨text, rfl⟩ <;> trivial
    rcases repeats.settles (by simp) final with answered | ⟨cause, rfl, unrefreshed⟩
    · exact .inl ((told _ answered.mem).absent rfl nothing)
    · rcases nothing with nothing | ⟨text, nothing⟩
      · cases nothing
      · obtain rfl := Except.error.inj nothing
        exact .inr ⟨text, unrefreshed⟩

/-- A call has its effect, or it fails without one. -/
theorem follows_call {c : ProviderCall} (hc : c ≠ .refreshCredentials)
    {result : Except CpiError c.Reply} (h : (m.call c).Runs trace result)
    (hf : held.Follows addressOf trace later) :
    later = held.changed addressOf c ∨ (∃ e, result = .error e) ∧ later = held := by
  rcases hf.ofCall ((m.calls_call c).callsIn h) with change | ⟨kept, unaccepted⟩
  · exact .inl change
  · cases result with
    | error e => exact .inr ⟨⟨e, rfl⟩, kept⟩
    | ok reply => exact absurd (firstReply_of_call hc h).mem (unaccepted reply)

/-- A verb that makes one call only has no effect if the call has none. -/
theorem leaves_of_calls {verb : Verb α} {c : ProviderCall} (h : verb.Calls (· = c))
    (leaves : c.LeavesAddresses) : verb.Calls ProviderCall.LeavesAddresses :=
  h.mono fun _ e => e ▸ leaves

theorem leaves_describeFloatingIp (m : Manager) (address : String) :
    (m.describeFloatingIp address).Calls ProviderCall.LeavesAddresses :=
  leaves_of_calls (m.calls_describeFloatingIp address) fun _ _ => rfl

/-- The address of a vip network is the VM's already, or it was free and becomes the VM's, or the
verb fails without an effect. -/
theorem follows_associateVip {vip : VipNetwork} {vm : VmInfo} {result : Except CpiError Unit}
    (h : (m.associateVip vip vm).Runs trace result) (hf : held.Follows addressOf trace later) :
    (∃ e, result = .error e) ∧ later = held ∨ held vip.ip = some vm.id ∧ later = held ∨
      held vip.ip = none ∧ later = Function.update held vip.ip (some vm.id) := by
  rcases (m.leaves_describeFloatingIp vip.ip).follows_bind h hf with
    failed | ⟨first, rest, found, rfl, described, told, h, hf⟩
  · exact .inl failed
  have tells := told_of_describeFloatingIp described told
  cases found with
  | none =>
    obtain ⟨rfl, rfl⟩ := runs_throw_iff.1 h
    cases hf
    exact .inl ⟨⟨_, rfl⟩, rfl⟩
  | some info =>
    obtain ⟨own, associated⟩ := tells
    dsimp only at h
    split at h
    · rename_i holder hholder
      split at h
      · rename_i same
        obtain ⟨rfl, rfl⟩ := runs_pure_iff.1 h
        cases hf
        exact .inr (.inl ⟨associated.symm.trans (same ▸ hholder), rfl⟩)
      · obtain ⟨rfl, rfl⟩ := runs_throw_iff.1 h
        cases hf
        exact .inl ⟨⟨_, rfl⟩, rfl⟩
    · rename_i free
      rcases follows_call (by simp) h hf with change | failed
      · refine .inr (.inr ⟨associated.symm.trans free, ?_⟩)
        rw [change, ← own]
        rfl
      · exact .inl failed

/-- The address that the VM was reported with is taken away, or it is nobody's or its description
was misread, or the verb fails without an effect. -/
theorem follows_dissociateStaleVip {vm : VmInfo} {result : Except CpiError Unit}
    (h : (m.dissociateStaleVip vm).Runs trace result) (hf : held.Follows addressOf trace later) :
    (∃ e, result = .error e) ∧ later = held ∨
      (∀ address, vm.floatingIp = some address →
        held address = none ∨ trace.Misread (.describeFloatingIp address)) ∧ later = held ∨
      ∃ address, vm.floatingIp = some address ∧ later = Function.update held address none := by
  unfold dissociateStaleVip at h
  split at h
  · rename_i unreported
    obtain ⟨rfl, rfl⟩ := runs_pure_iff.1 h
    cases hf
    refine .inr (.inl ⟨fun address reported => ?_, rfl⟩)
    cases unreported.symm.trans reported
  rename_i address reported
  rcases (m.leaves_describeFloatingIp address).follows_bind h hf with
    failed | ⟨first, rest, found, rfl, described, told, h, hf⟩
  · exact .inl failed
  have tells := told_of_describeFloatingIp described told
  cases found with
  | none =>
    obtain ⟨rfl, rfl⟩ := runs_pure_iff.1 h
    cases hf
    refine .inr (.inl ⟨fun other same => ?_, rfl⟩)
    obtain rfl := Option.some.inj (reported.symm.trans same)
    rw [List.append_nil]
    exact tells
  | some info =>
    obtain ⟨own, -⟩ := tells
    rcases follows_call (by simp) h hf with change | failed
    · refine .inr (.inr ⟨address, reported, ?_⟩)
      rw [change, ← own]
      rfl
    · exact .inl failed

/-- What a change of networks does to the floating addresses of the VM. -/
inductive Readdressed (vm : ResourceId) (networks : NetworkSpec) (held : Associations)
    (trace : Trace) : Except CpiError Unit → Associations → Prop where
  | failed (e : CpiError) : Readdressed vm networks held trace (.error e) held
  | kept {ip : String} {result : Except CpiError Unit}
      (asks : ∀ other, networks.AsksVip other ↔ other = ip) (own : held ip = some vm) :
      Readdressed vm networks held trace result held
  | associated {ip : String} {result : Except CpiError Unit}
      (asks : ∀ other, networks.AsksVip other ↔ other = ip) (free : held ip = none) :
      Readdressed vm networks held trace result (Function.update held ip (some vm))
  | spared {result : Except CpiError Unit} (asks : ∀ ip, ¬networks.AsksVip ip)
      (misread : (held.ofVm vm).Nonempty → ∃ address, trace.Misread (.describeFloatingIp address)) :
      Readdressed vm networks held trace result held
  | dissociated {address : String} {result : Except CpiError Unit}
      (asks : ∀ ip, ¬networks.AsksVip ip)
      (reported : (held.ofVm vm).Nonempty → held address = some vm) :
      Readdressed vm networks held trace result (Function.update held address none)

namespace Readdressed

variable {vm : ResourceId} {networks : NetworkSpec} {result step : Except CpiError Unit}

theorem ofFailed (h : (∃ e, result = .error e) ∧ later = held) :
    Readdressed vm networks held trace result later := by
  obtain ⟨⟨e, rfl⟩, rfl⟩ := h
  exact .failed e

/-- A step of a longer run does to the addresses what the run does. -/
theorem within (h : Readdressed vm networks held trace step later) (before after : Trace)
    (fails : ∀ e, step = .error e → ∃ e', result = .error e') :
    Readdressed vm networks held (before ++ trace ++ after) result later := by
  cases h with
  | failed e =>
    obtain ⟨e', rfl⟩ := fails e rfl
    exact .failed e'
  | kept asks own => exact .kept asks own
  | associated asks free => exact .associated asks free
  | spared asks misread =>
    refine .spared asks fun some => ?_
    obtain ⟨address, misread⟩ := misread some
    exact ⟨address, misread.within before after⟩
  | dissociated asks reported => exact .dissociated asks reported

end Readdressed

theorem leaves_applyPrimary (m : Manager) (primary : PrimaryNetwork) (vm : VmInfo) :
    (m.applyPrimary primary vm).Calls ProviderCall.LeavesAddresses := by
  unfold applyPrimary
  split
  · refine (leaves_of_calls (m.calls_call _) fun _ _ => rfl).bind fun _ => ?_
    refine (leaves_of_calls (m.calls_call _) fun _ _ => rfl).bind fun _ => ?_
    exact leaves_of_calls (m.calls_waitVm _ _) fun _ _ => rfl
  · exact calls_pure _

theorem readdressed_of_applyNetworks {networks : NetworkSpec} {roles : NetworkRoles} {vm : VmInfo}
    {result : Except CpiError Unit} (h : (m.applyNetworks roles vm).Runs trace result)
    (hf : held.Follows addressOf trace later)
    (classified : NetworkRoles.classify networks = .ok roles)
    (reported : (held.ofVm vm.id).Nonempty →
      ∃ address ∈ held.ofVm vm.id, vm.floatingIp = some address) :
    Readdressed vm.id networks held trace result later := by
  have asks := NetworkRoles.vip_of_classify classified
  rcases (m.leaves_applyPrimary _ _).follows_bind h hf with
    failed | ⟨first, rest, _, rfl, -, -, h, hf⟩
  · exact .ofFailed failed
  have stepped : Readdressed vm.id networks held rest result later := by
    cases vip : roles.vip with
    | some network =>
      rw [vip] at h asks
      have asks (other : String) : networks.AsksVip other ↔ other = network.ip := by
        rw [asks]
        simp [eq_comm]
      rcases follows_associateVip h hf with failed | ⟨own, rfl⟩ | ⟨free, rfl⟩
      · exact .ofFailed failed
      · exact .kept asks own
      · exact .associated asks free
    | none =>
      rw [vip] at h asks
      have asks (ip : String) : ¬networks.AsksVip ip := by
        rw [asks]
        simp
      rcases follows_dissociateStaleVip h hf with failed | ⟨misread, rfl⟩ | ⟨address, same, rfl⟩
      · exact .ofFailed failed
      · refine .spared asks fun some => ?_
        obtain ⟨address, own, same⟩ := reported some
        rcases misread address same with free | misread
        · cases free.symm.trans own
        · exact ⟨address, misread⟩
      · refine .dissociated asks fun some => ?_
        obtain ⟨other, own, same'⟩ := reported some
        obtain rfl := Option.some.inj (same.symm.trans same')
        exact own
  have whole := stepped.within first [] fun e he => ⟨e, he⟩
  rwa [List.append_nil] at whole

/-- Storing the networks has no effect on floating addresses. -/
theorem leaves_storeNetworks {vm : VmInfo} {networks : NetworkSpec} {result : Except CpiError Unit}
    (h : (storeNetworks vm networks).Runs trace result) :
    trace.CallsIn ProviderCall.LeavesAddresses := by
  have one {c : SettingsCall} {part : Trace} {answer : Except CpiError c.Reply}
      (h : (Verb.settings c).Runs part answer) : part.CallsIn ProviderCall.LeavesAddresses := by
    obtain ⟨given, rfl, -⟩ := runs_settings_iff.1 h
    intro e he other hc
    rw [List.mem_singleton.1 he] at hc
    cases hc
  rcases runs_bind_iff.1 h with ⟨e, read, -⟩ | ⟨first, rest, settings, rfl, read, updated⟩
  · exact one read
  · exact (one read).append (one updated)

/-- **A change of networks** associates the address that it asks for or takes the reported one
away, if anything, and it is told of what was the case before. -/
theorem readdressed_of_runs {vm : ResourceId} {networks : NetworkSpec}
    {result : Except CpiError Unit} (h : (m.configureNetworks vm networks).Runs trace result)
    (hf : held.Follows addressOf trace later) :
    Readdressed vm networks held trace result later := by
  rw [configureNetworks_eq] at h
  rcases (leaves_of_calls (m.calls_requireVm vm) fun _ _ => rfl).follows_bind h hf with
    failed | ⟨looked, rest, info, rfl, required, told, ran, follows⟩
  · exact .ofFailed failed
  obtain ⟨rfl, reported⟩ := (told _ (firstReply_of_requireVm required).1.mem).vm rfl
  clear h hf
  rcases (calls_outcome (NetworkRoles.classify networks)).follows_bind ran follows with
    failed | ⟨sorted, rest, roles, rfl, classified, -, ran, follows⟩
  · exact .ofFailed failed
  obtain ⟨-, classified⟩ := runs_outcome_iff.1 classified
  rcases (leaves_of_calls (m.calls_resolveSecurityGroups _) fun _ _ => rfl).follows_bind ran follows
    with failed | ⟨resolved, rest, desired, rfl, -, -, ran, follows⟩
  · exact .ofFailed failed
  rcases (calls_outcome (fitNetworks _ desired roles info)).follows_bind ran follows with
    failed | ⟨fitted, rest, _, rfl, -, -, ran, follows⟩
  · exact .ofFailed failed
  have changed : Readdressed info.id networks held rest result later := by
    rcases runs_bind_iff.1 ran with ⟨e, applied, rfl⟩ | ⟨applying, storing, _, rfl, applied, stored⟩
    · exact readdressed_of_applyNetworks applied follows classified.symm reported
    · obtain ⟨middle, hf, kept⟩ := follows_append_iff.1 follows
      obtain ⟨rfl, -⟩ := kept.still (leaves_storeNetworks stored)
      have step := readdressed_of_applyNetworks applied hf classified.symm reported
      exact step.within [] storing fun e he => nomatch he
  have whole := changed.within (looked ++ (sorted ++ (resolved ++ fitted))) [] fun e he => ⟨e, he⟩
  simpa using whole

end Manager

end CloudLifecycle

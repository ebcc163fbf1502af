import CloudLifecycle.Proofs.Runs.Dialogue
import CloudLifecycle.Proofs.Store.Effects
import CloudLifecycle.Rehearsal.Script

/-!
# Whose settings a verb uses

A verb on a VM finds out the name of the VM first and uses the settings under this name and no
others, whatever the backend and the settings store answer (`Manager.keeps_carryOut`).  This is said
by `Verb.Keeps`: of all answers that are possible, the verb goes on with operations on the allowed
keys only, and what it gives satisfies a condition.
-/

set_option autoImplicit false

namespace CloudLifecycle

namespace Program

variable {Q : Type} {A : Q → Type} {α β : Type}

/-- As long as its answers are possible, the program asks only what is allowed, and the value that
it ends with satisfies the condition. -/
inductive Keeps (allowed : Q → Prop) (possible : (question : Q) → A question → Prop)
    (post : α → Prop) : Program Q A α → Prop where
  | done {value : α} (h : post value) : Keeps allowed possible post (.done value)
  | ask {question : Q} {next : A question → Program Q A α} (h : allowed question)
      (rest : ∀ answer, possible question answer → Keeps allowed possible post (next answer)) :
      Keeps allowed possible post (.ask question next)

namespace Keeps

variable {allowed : Q → Prop} {possible : (question : Q) → A question → Prop} {mid : α → Prop}
  {post : β → Prop}

theorem bind {p : Program Q A α} {f : α → Program Q A β} (hp : Keeps allowed possible mid p)
    (hf : ∀ a, mid a → Keeps allowed possible post (f a)) :
    Keeps allowed possible post (p.bind f) := by
  induction hp with
  | done h => exact hf _ h
  | ask h _ ih => exact .ask h ih

theorem mono {post' : β → Prop} {p : Program Q A β} (hp : Keeps allowed possible post p)
    (h : ∀ b, post b → post' b) : Keeps allowed possible post' p := by
  induction hp with
  | done own => exact .done (h _ own)
  | ask own _ ih => exact .ask own ih

/-- What all runs with possible answers end with is what the program ends with. -/
theorem of_asks {p : Program Q A β} (h : p.Asks allowed)
    (ends : ∀ events b, p.Runs events b →
      (∀ e ∈ events, possible e.question e.answer) → post b) :
    Keeps allowed possible post p := by
  induction h with
  | done value => exact .done (ends [] value (.done value) (by simp))
  | @ask question next own _ ih =>
    refine .ask own fun answer given => ih answer fun events b run all => ?_
    refine ends _ b (.ask answer run) fun e he => ?_
    rcases List.mem_cons.1 he with rfl | he
    · exact given
    · exact all e he

end Keeps

end Program

/-- Operations on settings are under keys of the set. -/
def Action.UsesKeys (K : String → Prop) : Action → Prop
  | .settings call => K call.key
  | _ => True

theorem Action.Within.usesKeys {S : ProviderCall → Prop} (K : String → Prop) :
    ∀ action, Action.Within S action → Action.UsesKeys K action
  | .settings _, impossible => impossible.elim
  | .provider _, _ | .lookUpSelf, _ | .recallSelf, _ | .rememberSelf _, _ | .lockSelf, _
  | .unlockSelf, _ | .sleep _, _ | .clock, _ | .cancelled, _ | .freshName, _ | .abort, _ => trivial

namespace Verb

section Keeps

variable {α β : Type} {K : String → Prop}
  {possible : (action : Action) → action.Answer → Prop} {mid : α → Prop} {post : β → Prop}

/-- As long as its answers are possible, the verb uses only settings under keys of the set, and what
it gives satisfies the condition. -/
def Keeps (K : String → Prop) (possible : (action : Action) → action.Answer → Prop)
    (post : β → Prop) (verb : Verb β) : Prop :=
  Program.Keeps (Action.UsesKeys K) possible (fun result => ∀ b, result = .ok b → post b) verb.run

theorem keeps_pure {b : β} (h : post b) : Keeps K possible post (pure b) :=
  .done fun _ same => Except.ok.inj same ▸ h

theorem keeps_throw (e : CpiError) : Keeps K possible post (throw e) :=
  .done fun _ same => nomatch same

theorem Keeps.bind {verb : Verb α} {f : α → Verb β} (hv : verb.Keeps K possible mid)
    (hf : ∀ a, mid a → (f a).Keeps K possible post) : Keeps K possible post (verb >>= f) := by
  refine Program.Keeps.bind hv fun first own => ?_
  cases first with
  | error e => exact .done fun _ same => nomatch same
  | ok a => exact hf a (own a rfl)

/-- A verb that only makes calls uses no settings at all. -/
theorem Calls.keeps {S : ProviderCall → Prop} {verb : Verb β} (h : verb.Calls S) :
    verb.Keeps K possible fun _ => True :=
  Program.Keeps.of_asks (Program.Asks.mono (Action.Within.usesKeys K) h) fun _ _ _ _ _ _ => trivial

/-- After such a verb the next one goes on. -/
theorem Calls.keeps_bind {S : ProviderCall → Prop} {verb : Verb α} {f : α → Verb β}
    (h : verb.Calls S) (hf : ∀ a, (f a).Keeps K possible post) :
    Keeps K possible post (verb >>= f) :=
  h.keeps.bind fun a _ => hf a

theorem keeps_settings (call : SettingsCall) (h : K call.key) :
    (settings call).Keeps K possible fun _ => True :=
  Program.Keeps.bind (.ask h fun _ _ => .done trivial) fun _ _ => .done fun _ _ => trivial

end Keeps

end Verb

/-- The VM that a command is about, if it uses the settings of a VM that there is. -/
def Command.vm? : Command → Option ResourceId
  | .deleteVm vm | .configureNetworks vm _ | .attachDisk vm _ | .detachDisk vm _ | .getDisks vm =>
    some vm
  | _ => none

namespace Manager

open Verb

variable (m : Manager) {K : String → Prop} {possible : (action : Action) → action.Answer → Prop}
  {vmId : ResourceId}

theorem keeps_dropSettings {key : String} (own : K key) :
    (dropSettings key).Keeps K possible fun _ => True := by
  refine Program.Keeps.bind (keeps_settings (.delete key) own) fun first _ => ?_
  cases first with
  | ok _ => exact keeps_pure trivial
  | error e =>
    dsimp only
    split
    · exact keeps_pure trivial
    · exact keeps_throw _

section Named

variable
  (named : ∀ vm : VmInfo, possible (.provider (.describeVm vmId)) (.ok (some vm)) → K vm.name)

include named

theorem keeps_describeVm :
    (m.describeVm vmId).Keeps K possible fun found => ∀ vm, found = some vm → K vm.name := by
  refine Program.Keeps.of_asks
    (Program.Asks.mono (Action.Within.usesKeys K) (m.calls_describeVm vmId)) ?_
  rintro events _ run all _ rfl vm rfl
  exact named vm (all _ (firstReply_of_describeVm run).mem)

theorem keeps_requireVm : (m.requireVm vmId).Keeps K possible fun vm => K vm.name := by
  refine (m.keeps_describeVm named).bind fun found own => ?_
  cases found with
  | none => exact keeps_throw _
  | some vm =>
    dsimp only
    split
    · exact keeps_throw _
    · exact keeps_pure (own vm rfl)

theorem keeps_attachDisk (diskId : ResourceId) :
    (m.attachDisk vmId diskId).Keeps K possible fun _ => True := by
  refine (m.keeps_requireVm named).bind fun vm own => ?_
  refine (m.calls_requireVolume diskId).keeps_bind fun volume => ?_
  refine (keeps_settings (.read vm.name) own).bind fun settings _ => ?_
  refine (calls_outcome (S := fun _ => True) _).keeps_bind fun known => ?_
  cases known with
  | some device => exact keeps_pure trivial
  | none =>
    dsimp only
    split
    · exact keeps_throw _
    · rename_i device _
      have store : Keeps K possible (fun _ : String => True) (do
          Verb.settings (.update vm.name (recordDevice settings diskId device))
          return device) :=
        (keeps_settings (.update vm.name _) own).bind fun _ _ => keeps_pure trivial
      split
      · refine (calls_requestAttach vmId diskId).keeps_bind fun _ => ?_
        exact (m.calls_waitVolume diskId [.inUse]).keeps_bind fun _ => store
      · exact store

theorem keeps_detachDisk (diskId : ResourceId) :
    (m.detachDisk vmId diskId).Keeps K possible fun _ => True := by
  refine (m.keeps_requireVm named).bind fun vm own => ?_
  refine (m.calls_requireVolume diskId).keeps_bind fun volume => ?_
  have detach : Keeps K possible (fun _ : Unit => True) (do
      m.call (.detachVolume diskId vmId)
      m.waitVolume diskId [.available]
      let settings ← Verb.settings (.read vm.name)
      if settings.disks.persistent.contains diskId.text then
        Verb.settings (.update vm.name (forgetDevice settings diskId))) := by
    refine (m.calls_call _).keeps_bind fun _ => ?_
    refine (m.calls_waitVolume diskId [.available]).keeps_bind fun _ => ?_
    refine (keeps_settings (.read vm.name) own).bind fun settings _ => ?_
    split
    · exact keeps_settings (.update vm.name _) own
    · exact keeps_pure trivial
  dsimp only
  split
  · exact (calls_throw (S := fun _ => True) _).keeps_bind fun _ => detach
  · exact detach

theorem keeps_getDisks : (m.getDisks vmId).Keeps K possible fun _ => True := by
  refine (m.keeps_requireVm named).bind fun vm own => ?_
  exact (keeps_settings (.read vm.name) own).bind fun settings _ => keeps_pure trivial

theorem keeps_configureNetworks (networks : NetworkSpec) :
    (m.configureNetworks vmId networks).Keeps K possible fun _ => True := by
  rw [configureNetworks_eq]
  refine (m.keeps_requireVm named).bind fun vm own => ?_
  refine (calls_outcome (S := fun _ => True) _).keeps_bind fun roles => ?_
  refine (m.calls_resolveSecurityGroups _).keeps_bind fun desired => ?_
  refine (calls_outcome (S := fun _ => True) _).keeps_bind fun _ => ?_
  refine (m.calls_applyNetworks roles vm).keeps_bind fun _ => ?_
  exact (keeps_settings (.read vm.name) own).bind fun settings _ =>
    keeps_settings (.update vm.name _) own

theorem keeps_deleteVm : (m.deleteVm vmId).Keeps K possible fun _ => True := by
  refine (m.keeps_describeVm named).bind fun found own => ?_
  cases found with
  | none => exact keeps_pure trivial
  | some vm =>
    have remove : Keeps K possible (fun _ : Unit => True) (do
        m.call (.terminateInstance vmId)
        m.waitVm vmId [.terminated, .ceased, .noExist]
        dropSettings vm.name) := by
      refine (m.calls_call _).keeps_bind fun _ => ?_
      exact (m.calls_waitVm vmId _).keeps_bind fun _ => keeps_dropSettings (own vm rfl)
    dsimp only
    split
    · exact keeps_pure trivial
    · exact remove

/-- **A command on a VM uses the settings of this VM and no others.** -/
theorem keeps_carryOut {command : Command} (h : command.vm? = some vmId) :
    (m.carryOut command).Keeps K possible fun _ => True := by
  cases command with
  | deleteVm id =>
    obtain rfl := Option.some.inj h
    exact m.keeps_deleteVm named
  | configureNetworks id networks =>
    obtain rfl := Option.some.inj h
    exact m.keeps_configureNetworks named networks
  | attachDisk id disk =>
    obtain rfl := Option.some.inj h
    exact m.keeps_attachDisk named disk
  | detachDisk id disk =>
    obtain rfl := Option.some.inj h
    exact m.keeps_detachDisk named disk
  | getDisks id =>
    obtain rfl := Option.some.inj h
    exact m.keeps_getDisks named
  | _ => cases h

end Named

end Manager

end CloudLifecycle

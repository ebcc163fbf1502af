import CloudLifecycle.Lifecycle.Disk
import CloudLifecycle.Lifecycle.Vm
import CloudLifecycle.Proofs.Runs.Wait

/-!
# What verbs do not report

`Verb.Avoids blame verb` says that in no run the verb fails for one of these causes, a family of
errors.  Calls, operations on the settings store and waits fail for causes of their own
(`Verb.Foreign`), and what looks a resource up reports its own kind only.

`Verb.Spares kind verb` is the case of the errors that say that a resource of this kind is absent.
-/

set_option autoImplicit false

namespace CloudLifecycle

namespace Verb

/-- The verb never fails for one of these causes. -/
def Avoids {α ι : Type} (blame : ι → CpiError) (verb : Verb α) : Prop :=
  ∀ trace i, ¬verb.Runs trace (.error (blame i))

/-- The verb never reports a resource of this kind as absent. -/
def Spares {α : Type} (kind : ResourceKind) (verb : Verb α) : Prop :=
  ∀ trace id, ¬verb.Runs trace (.error (.notFound kind id))

/-- Neither a call nor an operation on the settings store nor a wait fails so. -/
def Foreign {ι : Type} (blame : ι → CpiError) : Prop :=
  ∀ i, match blame i with
    | .provider _ | .settings _ | .timeout _ _ _ | .terminalState _ _ _ _ | .cancelled => False
    | _ => True

variable {α β ι : Type} {blame : ι → CpiError} {kind : ResourceKind} {verb : Verb α}

theorem foreign_notFound : Foreign (CpiError.notFound kind) := fun _ => trivial

theorem foreign_notSupported : Foreign CpiError.notSupported := fun _ => trivial

namespace Foreign

theorem ne_provider (h : Foreign blame) (cause : ProviderError) (i : ι) :
    .provider cause ≠ blame i := by
  intro same
  have foreign := h i
  rw [← same] at foreign
  exact foreign

theorem ne_settings (h : Foreign blame) (cause : SettingsError) (i : ι) :
    .settings cause ≠ blame i := by
  intro same
  have foreign := h i
  rw [← same] at foreign
  exact foreign

end Foreign

theorem avoids_outcome {outcome : Except CpiError α} (h : ∀ i, outcome ≠ .error (blame i)) :
    Avoids blame (ExceptT.mk (pure outcome) : Verb α) :=
  fun _ i ran => h i (runs_outcome_iff.1 ran).2.symm

theorem avoids_pure (a : α) : Avoids blame (pure a : Verb α) := avoids_outcome fun _ h => nomatch h

theorem avoids_throw {e : CpiError} (h : ∀ i, e ≠ blame i) : Avoids blame (throw e : Verb α) :=
  avoids_outcome fun i he => h i (Except.error.inj he)

/-- Failures that are renamed are reported as what they are. -/
theorem avoids_mapError {ε : Type} {task : Task (Except ε α)} {f : ε → CpiError}
    (h : ∀ e i, f e ≠ blame i) :
    Avoids blame (ExceptT.mk do return (← task).mapError f : Verb α) := by
  intro trace i ran
  obtain ⟨outcome, _, he⟩ := runs_mapError_iff.1 ran
  cases outcome with
  | ok a => cases he
  | error e => exact h e i (Except.error.inj he).symm

theorem avoids_settings (foreign : Foreign blame) (c : SettingsCall) : (settings c).Avoids blame :=
  avoids_mapError foreign.ne_settings

namespace Avoids

theorem bind {f : α → Verb β} (hv : verb.Avoids blame) (hf : ∀ a, (f a).Avoids blame) :
    Avoids blame (verb >>= f) := by
  intro trace i ran
  rcases runs_bind_iff.1 ran with ⟨e, hrun, he⟩ | ⟨before, after, a, rfl, _, hrun⟩
  · obtain rfl := Except.error.inj he
    exact hv trace i hrun
  · exact hf a after i hrun

theorem discard (hv : verb.Avoids blame) : Avoids blame (discard verb) :=
  hv.bind fun _ => avoids_pure _

/-- What is looked up and has to be there is reported as missing at most. -/
theorem required {describe : Verb (Option α)} {demand : Option α → Verb α} {isGone : α → Bool}
    {missing : CpiError} (hv : describe.Avoids blame) (absent : demand none = throw missing)
    (found : ∀ a, demand (some a) = if isGone a then throw missing else pure a)
    (other : ∀ i, missing ≠ blame i) : Avoids blame (describe >>= demand) := by
  refine hv.bind fun seen => ?_
  cases seen with
  | none => exact absent ▸ avoids_throw other
  | some a =>
    rw [found]
    split
    · exact avoids_throw other
    · exact avoids_pure _

/-- What fails for a cause that its first part avoids has got beyond this part. -/
theorem runs_bind_iff {f : α → Verb β} (hv : verb.Avoids blame) {trace : Trace} {i : ι} :
    Runs (verb >>= f) trace (.error (blame i)) ↔
      ∃ before after a, trace = before ++ after ∧ verb.Runs before (.ok a) ∧
        (f a).Runs after (.error (blame i)) := by
  refine Verb.runs_bind_iff.trans ⟨?_, .inr⟩
  rintro (⟨e, hrun, he⟩ | further)
  · obtain rfl := Except.error.inj he
    exact absurd hrun (hv trace i)
  · exact further

end Avoids

theorem spares_outcome {outcome : Except CpiError α}
    (h : ∀ id, outcome ≠ .error (.notFound kind id)) :
    Spares kind (ExceptT.mk (pure outcome) : Verb α) :=
  avoids_outcome h

theorem spares_pure (a : α) : Spares kind (pure a : Verb α) := avoids_pure a

theorem spares_throw {e : CpiError} (h : ∀ id, e ≠ .notFound kind id) :
    Spares kind (throw e : Verb α) :=
  avoids_throw h

/-- What would come after a failure does not matter. -/
theorem spares_throw_bind {e : CpiError} (h : ∀ id, e ≠ .notFound kind id) (f : α → Verb β) :
    Spares kind (throw e >>= f) :=
  spares_throw h

theorem spares_lift (task : Task α) : Spares kind (ExceptT.lift task : Verb α) := by
  intro trace id ran
  obtain ⟨_, _, he⟩ := runs_lift_iff.1 ran
  cases he

theorem spares_settings (c : SettingsCall) : Spares kind (settings c) :=
  avoids_settings foreign_notFound c

namespace Spares

theorem bind {f : α → Verb β} (hv : verb.Spares kind) (hf : ∀ a, (f a).Spares kind) :
    Spares kind (verb >>= f) :=
  Avoids.bind hv hf

/-- In surroundings the verb comes to another end, or to none. -/
theorem run_ne (hv : verb.Spares kind) {ω : Type} (s : Surroundings Action Action.Answer ω)
    (start : ω) (id : String) : (s.run verb.run start).1 ≠ some (.error (.notFound kind id)) :=
  fun h => hv _ id (s.runs_events _ _ _ h)

end Spares

end Verb

/-- A wait reports what it polls, or why it ends. -/
theorem Waiter.avoids_wait {σ ι : Type} [IsState σ] [DecidableEq σ] {blame : ι → CpiError}
    (foreign : Verb.Foreign blame) (w : Waiter) {waited : ResourceKind} {id : String}
    {targets : List σ} {fetch : Verb σ} (h : fetch.Avoids blame) :
    (w.wait waited id targets fetch).Avoids blame := by
  intro trace i ran
  obtain ⟨started, rest, -, polls⟩ := Waiter.polls_of_runs ran
  clear ran
  have foreign := foreign i
  generalize hresult : (.error (blame i) : Except CpiError σ) = result at polls
  induction polls with
  | cancelled | late _ | terminal _ _ _ =>
    rw [Except.error.inj hresult] at foreign
    exact foreign
  | reached _ _ _ _ => cases hresult
  | failed _ fetched =>
    obtain rfl := Except.error.inj hresult
    exact h _ _ fetched
  | again _ _ _ _ _ ih => exact ih hresult

namespace Manager

variable (m : Manager) {ι : Type} {blame : ι → CpiError} {kind : ResourceKind}

open Verb

/-! ## Parts of the verbs -/

theorem avoids_call (foreign : Foreign blame) (c : ProviderCall) : (m.call c).Avoids blame :=
  avoids_mapError foreign.ne_provider

theorem avoids_describeVm (foreign : Foreign blame) (id : ResourceId) :
    (m.describeVm id).Avoids blame :=
  avoids_mapError foreign.ne_provider

theorem avoids_describeVolume (foreign : Foreign blame) (id : ResourceId) :
    (m.describeVolume id).Avoids blame :=
  avoids_mapError foreign.ne_provider

theorem avoids_describeSnapshot (foreign : Foreign blame) (id : ResourceId) :
    (m.describeSnapshot id).Avoids blame :=
  avoids_mapError foreign.ne_provider

theorem avoids_describeFloatingIp (foreign : Foreign blame) (address : String) :
    (m.describeFloatingIp address).Avoids blame :=
  avoids_mapError foreign.ne_provider

theorem avoids_waitVm (foreign : Foreign blame) (id : ResourceId) (targets : List VmState) :
    (m.waitVm id targets).Avoids blame :=
  (m.options.waiter.avoids_wait foreign
    ((m.avoids_describeVm foreign id).bind fun _ => avoids_pure _)).discard

theorem avoids_waitVolume (foreign : Foreign blame) (id : ResourceId)
    (targets : List VolumeState) : (m.waitVolume id targets).Avoids blame :=
  (m.options.waiter.avoids_wait foreign
    ((m.avoids_describeVolume foreign id).bind fun _ => avoids_pure _)).discard

theorem avoids_requireVm (foreign : Foreign blame) {id : ResourceId}
    (other : ∀ i, .notFound .vm id.text ≠ blame i) : (m.requireVm id).Avoids blame :=
  (m.avoids_describeVm foreign id).required rfl (fun _ => rfl) other

theorem avoids_requireVolume (foreign : Foreign blame) {id : ResourceId}
    (other : ∀ i, .notFound .volume id.text ≠ blame i) : (m.requireVolume id).Avoids blame :=
  (m.avoids_describeVolume foreign id).required rfl (fun _ => rfl) other

theorem avoids_requestAttach (foreign : Foreign blame) (vm disk : ResourceId) :
    (m.requestAttach vm disk).Avoids blame :=
  avoids_mapError foreign.ne_provider

/-- With a device at hand, attaching reports failures of its calls and of the settings store. -/
theorem avoids_attachAs (foreign : Foreign blame) (vm disk : ResourceId) (info : VmInfo)
    (volume : VolumeInfo) (settings : AgentSettings) (device : String) : Avoids blame (do
      if volume.attachedVm.isNone then
        m.requestAttach vm disk
        m.waitVolume disk [.inUse]
      Verb.settings (.update info.name (recordDevice settings disk device))
      return device) := by
  have records : Avoids blame (do
      Verb.settings (.update info.name (recordDevice settings disk device))
      return device) :=
    (avoids_settings foreign _).bind fun _ => avoids_pure _
  dsimp only
  split
  · exact (m.avoids_requestAttach foreign vm disk).bind fun _ =>
      (m.avoids_waitVolume foreign disk _).bind fun _ => records
  · exact records

theorem spares_call (c : ProviderCall) : (m.call c).Spares kind :=
  m.avoids_call foreign_notFound c

theorem spares_waitVm (id : ResourceId) (targets : List VmState) :
    (m.waitVm id targets).Spares kind :=
  m.avoids_waitVm foreign_notFound id targets

theorem spares_waitVolume (id : ResourceId) (targets : List VolumeState) :
    (m.waitVolume id targets).Spares kind :=
  m.avoids_waitVolume foreign_notFound id targets

theorem spares_waitSnapshot (id : ResourceId) (targets : List SnapshotState) :
    (m.waitSnapshot id targets).Spares kind :=
  (m.options.waiter.avoids_wait foreign_notFound
    ((m.avoids_describeSnapshot foreign_notFound id).bind fun _ => avoids_pure _)).discard

theorem spares_requireVolume (id : ResourceId) (other : kind ≠ .volume) :
    (m.requireVolume id).Spares kind :=
  m.avoids_requireVolume foreign_notFound fun _ h => other (CpiError.notFound.inj h).1.symm

/-- A list whose items are read one after another fails as one of them does. -/
theorem exists_of_mapM_error {α β ε : Type} {f : α → Except ε β} {items : List α} {e : ε}
    (h : items.mapM f = .error e) : ∃ item ∈ items, f item = .error e := by
  induction items with
  | nil => cases h
  | cons item items ih =>
    rw [List.mapM_cons] at h
    cases first : f item with
    | error cause =>
      rw [first] at h
      obtain rfl := Except.error.inj h
      exact ⟨item, List.mem_cons_self, first⟩
    | ok b =>
      cases rest : items.mapM f with
      | ok bs =>
        rw [first, rest] at h
        cases h
      | error cause =>
        rw [first, rest] at h
        obtain rfl := Except.error.inj h
        obtain ⟨other, mem, failed⟩ := ih rest
        exact ⟨other, List.mem_cons_of_mem item mem, failed⟩

theorem spares_resolveSecurityGroups (names : List String) (other : kind ≠ .securityGroup) :
    (m.resolveSecurityGroups names).Spares kind := by
  refine (m.spares_call _).bind fun existing => spares_outcome fun id => ?_
  intro h
  obtain ⟨name, -, missing⟩ := exists_of_mapM_error h
  split at missing
  · cases missing
  · exact other (CpiError.notFound.inj (Except.error.inj missing)).1.symm

/-- Applying networks reports absent and foreign floating addresses, and failures of its calls. -/
theorem avoids_applyNetworks (foreign : Foreign blame) (roles : NetworkRoles) (vm : VmInfo)
    (absent : ∀ address i, .notFound .floatingIp address ≠ blame i)
    (taken : ∀ text i, .cloudError text ≠ blame i) : (m.applyNetworks roles vm).Avoids blame := by
  refine Avoids.bind ?primary fun _ => ?vip
  case primary =>
    unfold applyPrimary
    split
    · refine (m.avoids_call foreign _).bind fun _ => (m.avoids_call foreign _).bind fun _ => ?_
      exact m.avoids_waitVm foreign _ _
    · exact avoids_pure _
  case vip =>
    split
    · refine (m.avoids_describeFloatingIp foreign _).bind fun found => ?_
      split
      · exact avoids_throw (absent _)
      · split
        · split
          · exact avoids_pure _
          · exact avoids_throw (taken _)
        · exact m.avoids_call foreign _
    · unfold dissociateStaleVip
      split
      · exact avoids_pure _
      · refine (m.avoids_describeFloatingIp foreign _).bind fun found => ?_
        split
        · exact avoids_pure _
        · exact m.avoids_call foreign _

theorem spares_applyNetworks (roles : NetworkRoles) (vm : VmInfo) (other : kind ≠ .floatingIp) :
    (m.applyNetworks roles vm).Spares kind :=
  m.avoids_applyNetworks foreign_notFound roles vm
    (fun _ _ h => other (CpiError.notFound.inj h).1.symm) fun _ _ h => nomatch h

end Manager

end CloudLifecycle

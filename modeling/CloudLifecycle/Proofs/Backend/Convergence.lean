import CloudLifecycle.Proofs.Runs.Deadline
import CloudLifecycle.Proofs.Store.Frame

/-!
# Removals that see the resource gone

A removal describes the resource, asks for its end and then looks until the resource is gone.
`Waiter.Watch.Removal` says that all of this goes well up to the first look that finds it gone: the
removing call is accepted, and no look is cancelled, late or unanswered.  Such a removal succeeds
exactly if none of the looks before has found the resource failed (`Manager.removals_converge`); a
look that does ends it at once, as it ends every other wait.  The state that the resource was in
before does not matter.  The settings of a VM are dropped after the last look, and it is up to the
store whether this fails.
-/

set_option autoImplicit false

namespace CloudLifecycle

namespace Waiter.Watch

variable {σ α ω : Type} [IsState σ] {w : Waiter} {fetch : Verb σ}

/-- What a removal meets.  Its first description finds a resource that is there, its call is
accepted, and the looks from then on find the states `seen`, of which the last one is the first that
counts as absence. -/
structure Removal (watch : w.Watch fetch ω) (describe : Verb (Option α)) (state : α → σ)
    (remove : Verb Unit) (start middle : ω) (found : α) (seen : Nat → σ) (n : Nat) : Prop where
  accepted : ∃ first looked called,
    watch.Leads describe.run start looked (.done (.ok (some found))) first ∧
      watch.Leads remove.run first called (.done (.ok ())) middle
  present : IsState.isGone (state found) = false
  fetches : ∀ i ≤ n, watch.Fetches middle i
  outcome : ∀ i ≤ n, watch.outcome (watch.look middle i) = .ok (seen i)
  earlier : ∀ i < n, IsState.isGone (seen i) = false
  gone : IsState.isGone (seen n) = true
  /-- A wait that does not pause takes that many looks. -/
  patient : w.interval = Duration.zero → n < w.patience

namespace Removal

variable {watch : w.Watch fetch ω} {describe : Verb (Option α)} {state : α → σ}
  {remove : Verb Unit} {start middle : ω} {found : α} {seen : Nat → σ} {i n : Nat}
  {targets : List σ}

/-- As long as the resource is neither gone nor failed, the wait goes on. -/
theorem goesOn (removal : watch.Removal describe state remove start middle found seen n)
    (onlyGone : ∀ s, s ∈ targets ↔ IsState.isGone s = true)
    (healthy : IsState.isFailure (seen i) = false) (hi : i < n) :
    watch.GoesOn middle targets i := by
  have within : i ≤ n := Nat.le_of_lt hi
  refine ⟨removal.fetches i within, seen i, removal.outcome i within, healthy, ?_⟩
  rw [onlyGone, removal.earlier i hi]
  exact Bool.false_ne_true

variable [DecidableEq σ]

/-- Where no look before has found the resource failed, the wait comes to the look that finds it
gone. -/
theorem leads_wait (removal : watch.Removal describe state remove start middle found seen n)
    (onlyGone : ∀ s, s ∈ targets ↔ IsState.isGone s = true)
    (sound : ∀ s : σ, IsState.isGone s = true → IsState.isFailure s = false)
    (healthy : ∀ i < n, IsState.isFailure (seen i) = false) (kind : ResourceKind) (id : String) :
    ∃ waited, watch.Leads (w.wait kind id targets fetch).run middle waited (.done (.ok (seen n)))
      (watch.fetched (watch.look middle n)) := by
  have goesOn : ∀ i < n, watch.GoesOn middle targets i :=
    fun i hi => removal.goesOn onlyGone (healthy i hi) hi
  have target := (onlyGone (seen n)).2 removal.gone
  have fetches := removal.fetches n le_rfl
  have outcome := removal.outcome n le_rfl
  have ends : watch.EndsAt middle kind id targets n (.ok (seen n)) :=
    ⟨.reached fetches outcome (sound _ removal.gone) target,
      fun i hi other => (goesOn i hi).not_verdict kind id other⟩
  obtain ⟨left, looked⟩ := leads_looks kind id goesOn (ends.lt_budget_iff.2 removal.patient)
  have last := leads_reached kind id fetches outcome (sound _ removal.gone) target left
  exact ⟨_, looked.trans last⟩

/-- The first look that finds the resource failed ends the wait. -/
theorem leads_wait_failed (removal : watch.Removal describe state remove start middle found seen n)
    (onlyGone : ∀ s, s ∈ targets ↔ IsState.isGone s = true) (hi : i < n)
    (failed : IsState.isFailure (seen i) = true)
    (first : ∀ j < i, IsState.isFailure (seen j) = false) (kind : ResourceKind) (id : String) :
    ∃ waited final, watch.Leads (w.wait kind id targets fetch).run middle waited
      (.done (.error (.terminalState kind id (IsState.text (seen i))
        (targets.map IsState.text)))) final := by
  have goesOn : ∀ j < i, watch.GoesOn middle targets j :=
    fun j hj => removal.goesOn onlyGone (first j hj) (Nat.lt_trans hj hi)
  have within : i ≤ n := Nat.le_of_lt hi
  have ends : watch.EndsAt middle kind id targets i (.error (.terminalState kind id
      (IsState.text (seen i)) (targets.map IsState.text))) :=
    ⟨.terminal (removal.fetches i within) (removal.outcome i within) failed,
      fun j hj other => (goesOn j hj).not_verdict kind id other⟩
  have enough : i < w.budget :=
    ends.lt_budget_iff.2 fun still => Nat.lt_trans hi (removal.patient still)
  obtain ⟨final, leads⟩ := ends.leads enough
  exact ⟨_, final, leads⟩

end Removal

end Waiter.Watch

namespace Manager

open Verb Waiter.Watch

variable {m : Manager} {id : ResourceId} {ω : Type} {start middle : ω} {n : Nat}

/-! ## VMs -/

/-- What dropping settings comes to, by the answer of the store. -/
def dropped : Except SettingsError Unit → Except CpiError Unit
  | .ok () | .error (.notFound _) => .ok ()
  | .error cause => .error (.settings cause)

theorem leads_dropSettings {s : Surroundings Action Action.Answer ω} {key : String}
    {answer : Except SettingsError Unit} {state last : ω}
    (stored : s.answer (.settings (.delete key)) state = (some answer, last)) :
    s.Leads (dropSettings key).run state [⟨.settings (.delete key), answer⟩]
      (.done (dropped answer)) last := by
  cases answer with
  | ok reply => exact .ask stored
  | error cause => cases cause <;> exact .ask stored

/-- A VM is in a target state of the wait exactly if it is gone. -/
theorem mem_targets_vm (s : VmState) :
    s ∈ [VmState.terminated, .ceased, .noExist] ↔ IsState.isGone s = true := by
  cases s <;> decide

theorem isFailure_eq_false_iff_vm (s : VmState) : IsState.isFailure s = false ↔ s ≠ .error := by
  cases s <;> decide

theorem healthy_of_gone_vm (s : VmState) (gone : IsState.isGone s = true) :
    IsState.isFailure s = false := by
  cases s <;> first | rfl | cases gone

section Vm

variable {watch : m.options.waiter.Watch (m.vmState id) ω} {vm : VmInfo} {seen : Nat → VmState}

/-- Once the VM was found and its end was asked for, the deletion is a wait and then the removal of
the settings.  The store has not been asked for anything so far. -/
theorem leads_accepted_vm (removal : watch.Removal (m.describeVm id) VmInfo.state
      (m.call (.terminateInstance id)) start middle vm seen n) :
    ∃ events, watch.Leads (m.deleteVm id).run start events
        (m.waitVm id [.terminated, .ceased, .noExist] >>= fun _ => dropSettings vm.name).run
        middle ∧
      ∀ before after : SettingsStore, before.Serves events after → after = before := by
  obtain ⟨first, looked, called, described, accepted⟩ := removal.accepted
  refine ⟨looked ++ called, (leads_bind described).trans ?_, fun before after served => ?_⟩
  · have present : vm.state.isGone = false := removal.present
    dsimp only
    rw [if_neg (Bool.eq_false_iff.1 present)]
    exact leads_bind accepted
  · obtain ⟨between, hs, hs'⟩ := SettingsStore.serves_append_iff.1 served
    rw [(m.calls_call _).serves (runs_of_leads accepted) hs',
      (m.calls_describeVm id).serves (runs_of_leads described) hs]

/-- A deletion that has seen the VM gone removes the settings. -/
theorem leads_gone_vm (removal : watch.Removal (m.describeVm id) VmInfo.state
      (m.call (.terminateInstance id)) start middle vm seen n)
    (healthy : ∀ i < n, seen i ≠ .error) :
    ∃ events, watch.Leads (m.deleteVm id).run start events (dropSettings vm.name).run
        (watch.fetched (watch.look middle n)) ∧
      ∀ before after : SettingsStore, before.Serves events after → after = before := by
  obtain ⟨asked, accepted, quiet⟩ := leads_accepted_vm removal
  obtain ⟨looks, wait⟩ := removal.leads_wait mem_targets_vm healthy_of_gone_vm
    (fun i hi => (isFailure_eq_false_iff_vm _).2 (healthy i hi)) .vm id.text
  have waited : watch.Leads (m.waitVm id [.terminated, .ceased, .noExist]).run middle looks
      (.done (.ok ())) (watch.fetched (watch.look middle n)) := leads_bind wait
  refine ⟨asked ++ looks, accepted.trans (leads_bind waited), fun before after served => ?_⟩
  obtain ⟨between, hs, hs'⟩ := SettingsStore.serves_append_iff.1 served
  rw [(m.calls_waitVm id _).serves (runs_of_leads waited) hs', quiet _ _ hs]

/-- So it comes to what the store answers. -/
theorem run_deleteVm_gone (removal : watch.Removal (m.describeVm id) VmInfo.state
      (m.call (.terminateInstance id)) start middle vm seen n)
    (healthy : ∀ i < n, seen i ≠ .error) {answer : Except SettingsError Unit} {last : ω}
    (stored : watch.answer (.settings (.delete vm.name)) (watch.fetched (watch.look middle n)) =
      (some answer, last)) :
    watch.run (m.deleteVm id).run start = (some (dropped answer), last) ∧
      (answer = .ok () → ∀ before after : SettingsStore,
        before.Serves (watch.events (m.deleteVm id).run start) after →
          after = before.delete vm.name) := by
  obtain ⟨events, waited, quiet⟩ := leads_gone_vm removal healthy
  have ended := waited.trans (leads_dropSettings stored)
  refine ⟨ended.run, ?_⟩
  rintro rfl before after served
  rw [ended.events, Surroundings.events, List.append_nil] at served
  obtain ⟨between, hs, hs'⟩ := SettingsStore.serves_append_iff.1 served
  obtain rfl := quiet _ _ hs
  cases hs'.step with
  | delete _ => rfl
  | elsewhere elsewhere => exact absurd rfl (elsewhere _)

/-- A deletion that sees the VM failed before it sees it gone fails. -/
theorem run_deleteVm_failed (removal : watch.Removal (m.describeVm id) VmInfo.state
      (m.call (.terminateInstance id)) start middle vm seen n) {i : Nat} (hi : i < n)
    (failed : seen i = .error) (first : ∀ j < i, seen j ≠ .error) :
    (watch.run (m.deleteVm id).run start).1 =
      some (.error (.terminalState .vm id.text "error" ["terminated", "ceased", "noexist"])) := by
  obtain ⟨asked, accepted, -⟩ := leads_accepted_vm removal
  obtain ⟨looks, final, wait⟩ := removal.leads_wait_failed mem_targets_vm hi (failed ▸ rfl)
    (fun j hj => (isFailure_eq_false_iff_vm _).2 (first j hj)) .vm id.text
  rw [failed] at wait
  have waited := accepted.trans (leads_bind_error (leads_bind_error wait))
  exact congrArg Prod.fst waited.run

end Vm

/-! ## Snapshots -/

theorem mem_targets_snapshot (s : SnapshotState) :
    s ∈ [SnapshotState.ceased, .deleted, .noExist] ↔ IsState.isGone s = true := by
  cases s <;> decide

theorem isFailure_eq_false_iff_snapshot (s : SnapshotState) :
    IsState.isFailure s = false ↔ s ≠ .error := by
  cases s <;> decide

theorem healthy_of_gone_snapshot (s : SnapshotState) (gone : IsState.isGone s = true) :
    IsState.isFailure s = false := by
  cases s <;> first | rfl | cases gone

section Snapshot

variable {watch : m.options.waiter.Watch (m.snapshotState id) ω} {snapshot : SnapshotInfo}
  {seen : Nat → SnapshotState}

/-- Once the snapshot was found and its end was asked for, the deletion is a wait. -/
theorem leads_accepted_snapshot (removal : watch.Removal (m.describeSnapshot id)
      SnapshotInfo.state (m.call (.deleteSnapshot id)) start middle snapshot seen n) :
    ∃ events, watch.Leads (m.deleteSnapshot id).run start events
      (m.waitSnapshot id [.ceased, .deleted, .noExist]).run middle := by
  obtain ⟨first, looked, called, described, accepted⟩ := removal.accepted
  refine ⟨looked ++ called, (leads_bind described).trans ?_⟩
  have present : snapshot.state.isGone = false := removal.present
  dsimp only
  rw [if_neg (Bool.eq_false_iff.1 present)]
  exact leads_bind accepted

/-- A deletion that has seen the snapshot gone succeeds. -/
theorem run_deleteSnapshot_gone (removal : watch.Removal (m.describeSnapshot id)
      SnapshotInfo.state (m.call (.deleteSnapshot id)) start middle snapshot seen n)
    (healthy : ∀ i < n, seen i ≠ .error) :
    (watch.run (m.deleteSnapshot id).run start).1 = some (.ok ()) := by
  obtain ⟨asked, accepted⟩ := leads_accepted_snapshot removal
  obtain ⟨looks, wait⟩ := removal.leads_wait mem_targets_snapshot healthy_of_gone_snapshot
    (fun i hi => (isFailure_eq_false_iff_snapshot _).2 (healthy i hi)) .snapshot id.text
  have waited := accepted.trans (leads_bind wait)
  exact congrArg Prod.fst waited.run

/-- A deletion that sees the snapshot failed before it sees it gone fails. -/
theorem run_deleteSnapshot_failed (removal : watch.Removal (m.describeSnapshot id)
      SnapshotInfo.state (m.call (.deleteSnapshot id)) start middle snapshot seen n) {i : Nat}
    (hi : i < n) (failed : seen i = .error) (first : ∀ j < i, seen j ≠ .error) :
    (watch.run (m.deleteSnapshot id).run start).1 =
      some (.error (.terminalState .snapshot id.text "error"
        ["ceased", "deleted", "noexist"])) := by
  obtain ⟨asked, accepted⟩ := leads_accepted_snapshot removal
  obtain ⟨looks, final, wait⟩ := removal.leads_wait_failed mem_targets_snapshot hi
    (failed ▸ rfl) (fun j hj => (isFailure_eq_false_iff_snapshot _).2 (first j hj)) .snapshot
    id.text
  rw [failed] at wait
  have waited := accepted.trans (leads_bind_error wait)
  exact congrArg Prod.fst waited.run

end Snapshot

/-! ## Both -/

/-- **Removals converge.**  Take a deletion of a VM or of a snapshot that finds the resource, in
whatever state, whose call is accepted, and whose looks are answered in time up to one that finds
the resource gone.  If none of the looks before finds it failed, a snapshot is deleted with success;
so is a VM unless the store fails to remove its settings, and they are gone if the store has removed
them.  Otherwise the first look that finds the resource failed is reported. -/
theorem removals_converge (m : Manager) (id : ResourceId) {ω : Type} (start middle : ω) (n : Nat) :
    (∀ (watch : m.options.waiter.Watch (m.vmState id) ω) vm seen,
      watch.Removal (m.describeVm id) VmInfo.state (m.call (.terminateInstance id)) start middle vm
        seen n →
      ((∀ i < n, seen i ≠ .error) → ∀ answer last,
        watch.answer (.settings (.delete vm.name)) (watch.fetched (watch.look middle n)) =
          (some answer, last) →
        watch.run (m.deleteVm id).run start = (some (dropped answer), last) ∧
          (answer = .ok () → ∀ before after : SettingsStore,
            before.Serves (watch.events (m.deleteVm id).run start) after →
              after = before.delete vm.name)) ∧
      ∀ i < n, seen i = .error → (∀ j < i, seen j ≠ .error) →
        (watch.run (m.deleteVm id).run start).1 = some (.error
          (.terminalState .vm id.text "error" ["terminated", "ceased", "noexist"]))) ∧
    ∀ (watch : m.options.waiter.Watch (m.snapshotState id) ω) snapshot seen,
      watch.Removal (m.describeSnapshot id) SnapshotInfo.state (m.call (.deleteSnapshot id)) start
        middle snapshot seen n →
      ((∀ i < n, seen i ≠ .error) →
        (watch.run (m.deleteSnapshot id).run start).1 = some (.ok ())) ∧
      ∀ i < n, seen i = .error → (∀ j < i, seen j ≠ .error) →
        (watch.run (m.deleteSnapshot id).run start).1 = some (.error
          (.terminalState .snapshot id.text "error" ["ceased", "deleted", "noexist"])) := by
  constructor
  · intro watch vm seen removal
    constructor
    · intro healthy answer last stored
      exact run_deleteVm_gone removal healthy stored
    · intro i hi failed first
      exact run_deleteVm_failed removal hi failed first
  · intro watch snapshot seen removal
    constructor
    · intro healthy
      exact run_deleteSnapshot_gone removal healthy
    · intro i hi failed first
      exact run_deleteSnapshot_failed removal hi failed first

/-- How often the VM was described, and the time. -/
structure Course where
  described : Nat
  now : Duration

/-- A VM that each description finds in the next state, in a cloud that accepts its end, with a
store that answers the removal of its settings.  Time passes by pauses only. -/
def course (states : Nat → VmState) (stored : Except SettingsError Unit) :
    small.options.waiter.Watch (small.vmState ⟨"i-1"⟩) Course where
  answer
    | .clock, point => (some point.now, point)
    | .cancelled, point => (some false, point)
    | .sleep span, point => (some (), { point with now := point.now + span })
    | .provider (.describeVm id), point =>
      (some (.ok (some ⟨id, "vm-1", states point.described, none, [], none⟩)),
        { point with described := point.described + 1 })
    | .provider (.terminateInstance _), point => (some (.ok ()), point)
    | .settings (.delete _), point => (some stored, point)
    | _, point => (none, point)
  now point := point.now
  flag _ := false
  outcome point := .ok (states point.described)
  fetched point := { point with described := point.described + 1 }
  paused point := { point with now := point.now + Duration.ofSeconds 1 }
  pause := Duration.ofSeconds 1
  answer_clock _ := rfl
  answer_cancelled _ := rfl
  answer_sleep _ := rfl
  run_fetch _ := rfl
  now_fetched _ := Nat.le_refl _
  now_paused _ := rfl
  interval_le := Nat.le_refl _

/-- The VM is in some state, is looked at in another one, and is terminated a second later. -/
def passing (first looked : VmState) : Nat → VmState
  | 0 => first
  | 1 => looked
  | _ => .terminated

theorem removal_course (first looked : VmState) (stored : Except SettingsError Unit)
    (present : first.isGone = false) (still : looked.isGone = false) :
    (course (passing first looked) stored).Removal (small.describeVm ⟨"i-1"⟩) VmInfo.state
      (small.call (.terminateInstance ⟨"i-1"⟩)) ⟨0, Duration.zero⟩ ⟨1, Duration.zero⟩
      ⟨⟨"i-1"⟩, "vm-1", first, none, [], none⟩ (fun i => passing first looked (i + 1)) 1 where
  accepted := ⟨⟨1, Duration.zero⟩, _, _, .of_run rfl, .of_run rfl⟩
  present := present
  fetches i hi := by
    cases i with
    | zero =>
      have early : ¬Duration.ofSeconds 10 < Duration.zero := by decide
      exact ⟨rfl, early⟩
    | succ i =>
      obtain rfl : i = 0 := by omega
      have early : ¬Duration.ofSeconds 10 <
          Duration.zero - Duration.zero + Duration.ofSeconds 1 := by decide
      exact ⟨rfl, early⟩
  outcome i hi := by
    cases i with
    | zero => rfl
    | succ i =>
      obtain rfl : i = 0 := by omega
      rfl
  earlier i hi := by
    obtain rfl : i = 0 := by omega
    exact still
  gone := rfl
  patient still := by cases still

/-- A VM whose boot has failed is deleted, and it stops on the way. -/
theorem removals_converge_stopped :
    (course (passing .error .stopped) (.ok ())).Removal (small.describeVm ⟨"i-1"⟩) VmInfo.state
      (small.call (.terminateInstance ⟨"i-1"⟩)) ⟨0, Duration.zero⟩ ⟨1, Duration.zero⟩
      ⟨⟨"i-1"⟩, "vm-1", .error, none, [], none⟩ (fun i => passing .error .stopped (i + 1)) 1 ∧
    ((course (passing .error .stopped) (.ok ())).run (small.deleteVm ⟨"i-1"⟩).run
      ⟨0, Duration.zero⟩).1 = some (.ok ()) := by
  have removal := removal_course .error .stopped (.ok ()) rfl rfl
  have laws := (removals_converge small ⟨"i-1"⟩ ⟨0, Duration.zero⟩ ⟨1, Duration.zero⟩ 1).1
    (course (passing .error .stopped) (.ok ())) _ _ removal
  have healthy : ∀ i < 1, passing .error .stopped (i + 1) ≠ .error := by
    intro i hi
    obtain rfl : i = 0 := by omega
    decide
  exact ⟨removal, congrArg Prod.fst (laws.1 healthy (.ok ()) _ rfl).1⟩

/-- A VM that is seen failed once on its way is terminated a second later, but its deletion has
failed by then; and a deletion that sees the VM gone fails if the store does. -/
theorem deleteVm_sees_failure :
    ((course (passing .running .error) (.ok ())).Removal (small.describeVm ⟨"i-1"⟩) VmInfo.state
        (small.call (.terminateInstance ⟨"i-1"⟩)) ⟨0, Duration.zero⟩ ⟨1, Duration.zero⟩
        ⟨⟨"i-1"⟩, "vm-1", .running, none, [], none⟩ (fun i => passing .running .error (i + 1)) 1 ∧
      ((course (passing .running .error) (.ok ())).run (small.deleteVm ⟨"i-1"⟩).run
        ⟨0, Duration.zero⟩).1 = some (.error
          (.terminalState .vm "i-1" "error" ["terminated", "ceased", "noexist"]))) ∧
    (course (passing .running .stopped) (.error (.request "refused"))).Removal
        (small.describeVm ⟨"i-1"⟩) VmInfo.state (small.call (.terminateInstance ⟨"i-1"⟩))
        ⟨0, Duration.zero⟩ ⟨1, Duration.zero⟩ ⟨⟨"i-1"⟩, "vm-1", .running, none, [], none⟩
        (fun i => passing .running .stopped (i + 1)) 1 ∧
      ((course (passing .running .stopped) (.error (.request "refused"))).run
        (small.deleteVm ⟨"i-1"⟩).run ⟨0, Duration.zero⟩).1 =
          some (.error (.settings (.request "refused"))) :=
  ⟨⟨removal_course .running .error _ rfl rfl, rfl⟩,
    removal_course .running .stopped _ rfl rfl, rfl⟩

end Manager

end CloudLifecycle

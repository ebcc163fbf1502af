import CloudLifecycle.Proofs.Backend.Reissue
import CloudLifecycle.Proofs.Runs.Reports
import CloudLifecycle.Proofs.Vm.Creation
import CloudLifecycle.Proofs.Vm.Preparation
import Mathlib.Data.List.Basic

/-!
# From the checks to the boot

A creation checks everything before it asks for a VM, and it asks for the VM before it does anything
else.  Where the new VM does not come up the creation terminates it and ends with the cause; the
cause is wrapped, with the id of the VM, if the wait has run out of time or seen a failure.

`Manager.createVm_checks_then_acts` says so of every question that a creation ever poses, so that it
holds of creations that are broken off as well, and of the results of those that come to an end.
-/

set_option autoImplicit false

namespace CloudLifecycle

/-- A wait that ended so has seen that the VM does not come up, or has waited long enough. -/
def CpiError.isBootFailure : CpiError → Bool
  | .timeout _ _ _ | .terminalState _ _ _ _ => true
  | _ => false

namespace Manager

variable {m : Manager} {request : VmRequest} {trace : Trace} {id : ResourceId}

theorem creationError_of_isBootFailure {e : CpiError} (h : e.isBootFailure = true) :
    creationError id e = .creationFailed id e.message := by
  cases e with
  | timeout _ _ _ | terminalState _ _ _ _ => rfl
  | _ => cases h

theorem creationError_of_not_isBootFailure {e : CpiError} (h : e.isBootFailure = false) :
    creationError id e = e := by
  cases e with
  | timeout _ _ _ | terminalState _ _ _ _ => cases h
  | _ => rfl

/-- While a VM is asked for, none was created. -/
theorem uncreated_of_poses_call {asked : Trace} {params wanted : CreateVmParams} {posed : Action}
    (h : (m.call (.runInstance wanted)).Poses asked posed) :
    ⟨.provider (.runInstance params), .ok id⟩ ∉ asked := by
  intro made
  obtain rfl : params = wanted := by
    simpa using (m.calls_call _).callsIn_of_poses h _ made _ rfl
  exact Retry.closes_call (by simp) (Verb.poses_mapError_iff.1 h) id made

/-- The call for a VM that was accepted is the last one for a VM. -/
theorem split_at_created {checked asked later before after : Trace}
    {params wanted : CreateVmParams} {new : ResourceId} (looked : checked.CallsIn PreparingCall)
    (called : (m.call (.runInstance wanted)).Runs asked (.ok new))
    (none : ⟨.provider (.runInstance params), .ok id⟩ ∉ later)
    (same : checked ++ (asked ++ later) =
      before ++ ⟨.provider (.runInstance params), .ok id⟩ :: after) :
    new = id ∧ later = after := by
  obtain ⟨outcome, repeats, ho⟩ := runs_call called
  obtain ⟨earlier, rfl⟩ := repeats.ends_ok (Verb.mapError_eq_ok_iff.1 ho.symm)
  have unasked : ⟨.provider (.runInstance params), .ok id⟩ ∉ checked ++ earlier := by
    intro made
    rcases List.mem_append.1 made with made | made
    · exact looked.not_mem (by simp) (by simp [PreparingCall]) _ made
    · exact uncreated_of_poses_call (Verb.Runs.poses called) made
  have aligned : (checked ++ earlier) ++ ⟨.provider (.runInstance wanted), .ok new⟩ :: later =
      before ++ ⟨.provider (.runInstance params), .ok id⟩ :: after := by
    rw [← same]
    simp
  obtain ⟨-, first, rest⟩ := (List.append_cons_inj_of_notMem unasked none).1 aligned
  cases first
  exact ⟨rfl, rest⟩

/-- Terminating is asked for at once. -/
theorem eq_of_poses_giveUp {posed : Action} (h : (m.giveUp id).Poses [] posed) :
    posed = .provider (.terminateInstance id) := by
  rcases Program.poses_bind_iff.1 (Verb.poses_lift_iff.1 h) with h | ⟨_, _, _, _, _, h⟩
  · unfold Retry.call at h
    generalize m.options.retry.maxAttempts - 1 = left at h
    cases left <;> (cases h; rfl)
  · exact absurd h Program.not_poses_done

/-- After the wait for a new VM has failed, all that is posed is its termination. -/
theorem within_of_poses_finishVm {roles : NetworkRoles} {name : String} {waited rest : Trace}
    {e : CpiError} {posed : Action} (failed : (m.waitVm id [.running]).Runs waited (.error e))
    (h : (m.finishVm request roles name id).Poses (waited ++ rest) posed) :
    posed.Within (· = .terminateInstance id) ∧
      (rest = [] → posed = .provider (.terminateInstance id)) := by
  have giving : (m.giveUp id).Poses rest posed := by
    rcases Verb.poses_bind_iff.1 ((Verb.poses_caught_bind failed).1 h) with
      h | ⟨_, _, _, _, thrown, _⟩
    · exact Verb.poses_of_bind h fun _ _ => Verb.not_poses_throw
    · rcases Verb.runs_bind_iff.1 thrown with ⟨_, _, impossible⟩ | ⟨_, _, _, _, _, thrown⟩
      · cases impossible
      · cases (Verb.runs_throw_iff.1 thrown).2
  refine ⟨Program.Asks.of_poses (m.calls_giveUp id) giving, ?_⟩
  rintro rfl
  exact eq_of_poses_giveUp giving

/-- What is posed after the wait for a new VM has failed is posed by its termination. -/
theorem within_of_failed_boot {params : CreateVmParams} {before waited rest : Trace} {e : CpiError}
    {posed : Action} (failed : (m.waitVm id [.running]).Runs waited (.error e))
    (h : (m.createVm request).Poses
      (before ++ ⟨.provider (.runInstance params), .ok id⟩ :: (waited ++ rest)) posed) :
    posed.Within (· = .terminateInstance id) ∧
      (rest = [] → posed = .provider (.terminateInstance id)) := by
  generalize course : before ++ ⟨.provider (.runInstance params), .ok id⟩ :: (waited ++ rest) = past
    at h
  have made : ⟨.provider (.runInstance params), .ok id⟩ ∈ past := by simp [← course]
  cases stage_of_poses h with
  | checking looked _ => exact absurd made (looked.not_mem (by simp) (by simp [PreparingCall]) _)
  | asking _ looked _ posing =>
    rcases List.mem_append.1 made with made | made
    · exact absurd made (looked.not_mem (by simp) (by simp [PreparingCall]) _)
    · exact absurd made (uncreated_of_poses_call posing)
  | @finishing checked asked later _ _ roles name new looked created posing =>
    have none : ⟨.provider (.runInstance params), .ok id⟩ ∉ later := by
      intro again
      obtain ⟨_, _, rfl⟩ := List.append_of_mem again
      exact not_poses_finishVm (Program.Poses.earlier posing)
    obtain ⟨rfl, rfl⟩ := split_at_created looked created none course.symm
    exact within_of_poses_finishVm failed posing

/-- The result of a creation whose VM was waited for in vain. -/
theorem result_of_failed_boot {params : CreateVmParams} {before waited rest : Trace} {e : CpiError}
    {result : Except CpiError ResourceId} (failed : (m.waitVm id [.running]).Runs waited (.error e))
    (h : (m.createVm request).Runs
      (before ++ ⟨.provider (.runInstance params), .ok id⟩ :: (waited ++ rest)) result) :
    rest ≠ [] ∧ result = .error (creationError id e) := by
  generalize course : before ++ ⟨.provider (.runInstance params), .ok id⟩ :: (waited ++ rest) = past
    at h
  have made : ⟨.provider (.runInstance params), .ok id⟩ ∈ past := by simp [← course]
  cases creation_of_runs h with
  | refused _ uncreated => exact absurd made (uncreated params id)
  | @stillborn checked asked own given wanted new cause looked created ended giving =>
    have none : ⟨.provider (.runInstance params), .ok id⟩ ∉ own ++ given := by
      rw [List.mem_append]
      rintro (again | again)
      · exact ((m.calls_waitVm _ _).callsIn ended).not_mem (by simp) (by simp) _ again
      · exact ((m.calls_giveUp _).callsIn giving).not_mem (by simp) (by simp) _ again
    obtain ⟨rfl, same⟩ := split_at_created looked created none course.symm
    obtain ⟨-, cause, rest⟩ := Program.Runs.unique ended failed same
    obtain rfl := Except.error.inj cause
    subst rest
    refine ⟨?_, rfl⟩
    rintro rfl
    obtain ⟨_, impossible⟩ := mem_of_giveUp giving
    cases impossible
  | @booted checked asked own more wanted new _ looked created ended configuring =>
    have none : ⟨.provider (.runInstance params), .ok id⟩ ∉ own ++ more := by
      rw [List.mem_append]
      rintro (again | again)
      · exact ((m.calls_waitVm _ _).callsIn ended).not_mem (by simp) (by simp) _ again
      · exact configuring.not_mem (by simp) (by simp [NetworkCall]) _ again
    obtain ⟨rfl, same⟩ := split_at_created looked created none course.symm
    obtain ⟨-, impossible, -⟩ := Program.Runs.unique ended failed same
    cases impossible

/-- **Checks come before acts.**  A creation poses its questions to the backend in this order.

Until a VM is first asked for, the backend is only asked to describe, to find or to list something,
or to refresh the credentials.  A VM is asked for only once the networks are classified, every
wanted group is found among those that exist, no more of them than the limit allows, the image is
described, the instance type is offered and exactly one key pair has matched; and just these are
what the VM is asked for with.

Where the wait for the new VM fails, the VM is terminated next, and nothing but that is done: no
network is configured and no settings are stored.  However this ends, the result is the cause of the
failure, and it names the VM if the time had run out or the VM had failed. -/
theorem createVm_checks_then_acts (m : Manager) (request : VmRequest) :
    (∀ past c, (m.createVm request).Poses past (.provider c) →
      (∀ params answer, ⟨.provider (.runInstance params), answer⟩ ∉ past) →
      c = .refreshCredentials ∨ PreparingCall c ∨ ∃ params, c = .runInstance params) ∧
    (∀ past params, (m.createVm request).Poses past (.provider (.runInstance params)) →
      ∃ fresh roles groups image pair, NetworkRoles.classify request.networks = .ok roles ∧
        m.Checked roles request past groups image pair ∧
        params = m.vmParams ("vm-" ++ fresh) roles request groups image pair) ∧
    ∀ before params id waited e, (m.waitVm id [.running]).Runs waited (.error e) →
      (∀ rest posed,
        (m.createVm request).Poses
          (before ++ ⟨.provider (.runInstance params), .ok id⟩ :: (waited ++ rest)) posed →
        posed.Within (· = .terminateInstance id) ∧
          (rest = [] → posed = .provider (.terminateInstance id))) ∧
      ∀ rest result,
        (m.createVm request).Runs
          (before ++ ⟨.provider (.runInstance params), .ok id⟩ :: (waited ++ rest)) result →
        (∃ answer later, rest = ⟨.provider (.terminateInstance id), answer⟩ :: later) ∧
          (e.isBootFailure = true → result = .error (.creationFailed id e.message)) ∧
          (e.isBootFailure = false → result = .error e) := by
  refine ⟨fun past c posed unasked => ?_, fun past params => checked_of_poses,
    fun before params id waited e failed => ⟨fun rest posed => within_of_failed_boot failed,
      fun rest result h => ?_⟩⟩
  · cases stage_of_poses posed with
    | checking _ posing => exact posing.imp_right .inl
    | asking _ _ _ posing =>
      exact ((m.calls_call _).of_poses posing).imp_right fun same => .inr ⟨_, same⟩
    | finishing _ created _ =>
      obtain ⟨_, repeats, _⟩ := runs_call created
      obtain ⟨answer, made⟩ := repeats.exists_mem
      exact absurd (by simp [made]) (unasked _ answer)
  · obtain ⟨more, rfl⟩ := result_of_failed_boot failed h
    refine ⟨?_, fun boots => by rw [creationError_of_isBootFailure boots],
      fun other => by rw [creationError_of_not_isBootFailure other]⟩
    cases rest with
    | nil => exact absurd rfl more
    | cons first later =>
      obtain ⟨question, answer⟩ := first
      -- The first thing after the wait is what was posed once the wait was over.
      have course : (m.createVm request).Runs
          ((before ++ ⟨.provider (.runInstance params), .ok id⟩ :: (waited ++ [])) ++
            ⟨question, answer⟩ :: later) (.error (creationError id e)) := by simpa using h
      obtain rfl := (within_of_failed_boot failed course.poses).2 rfl
      exact ⟨answer, later, rfl⟩

/-- The wait for a VM whose boot fails. -/
def failingWait : Trace :=
  Stage.surroundings.events (Manager.small.waitVm ⟨"i-1"⟩ [.running]).run (Stage.small bootFails)

/-- A VM that has failed to boot is terminated, and it is named in the result. -/
theorem createVm_gives_up : ∃ before params cause answer later,
    (Manager.small.waitVm ⟨"i-1"⟩ [.running]).Runs failingWait (.error cause) ∧
      cause.isBootFailure = true ∧
      (Manager.small.createVm .small).Runs
        (before ++ ⟨.provider (.runInstance params), .ok ⟨"i-1"⟩⟩ ::
          (failingWait ++ ⟨.provider (.terminateInstance ⟨"i-1"⟩), answer⟩ :: later))
        (.error (.creationFailed ⟨"i-1"⟩ cause.message)) := by
  obtain ⟨kind, id, state, expected, failed⟩ : ∃ kind id state expected,
      (Manager.small.waitVm ⟨"i-1"⟩ [.running]).Runs failingWait
        (.error (.terminalState kind id state expected)) :=
    ⟨_, _, _, _, Stage.runs_play (show ((Stage.small bootFails).play
      (Manager.small.waitVm ⟨"i-1"⟩ [.running]).run).1 = some _ from rfl)⟩
  obtain ⟨result, run⟩ : ∃ result,
      (Manager.small.createVm .small).Runs (smallCreation bootFails) result :=
    ⟨_, Stage.runs_play (show ((Stage.small bootFails).play
      (Manager.small.createVm .small).run).1 = some _ from rfl)⟩
  obtain ⟨params, event, course⟩ : ∃ params event, smallCreation bootFails =
      (smallCreation bootFails).take 5 ++
        ⟨.provider (.runInstance params), .ok ⟨"i-1"⟩⟩ :: (failingWait ++ [event]) :=
    ⟨_, _, rfl⟩
  generalize (smallCreation bootFails).take 5 = before at course
  rw [course] at run
  obtain ⟨⟨answer, later, more⟩, wrapped, -⟩ :=
    ((createVm_checks_then_acts Manager.small .small).2.2 _ _ _ _ _ failed).2 _ _ run
  rw [more, wrapped rfl] at run
  exact ⟨before, params, _, answer, later, failed, rfl, run⟩

end Manager

end CloudLifecycle

import CloudLifecycle.Proofs.Network.Associations
import CloudLifecycle.Proofs.Runs.Posing
import CloudLifecycle.Proofs.Store.Stage

/-!
# Whose floating addresses are touched

Applying the networks of a VM describes one floating address at most and changes at most the
association of this one.  What the description tells of its holder decides whether the change is
rightful (`ProviderCall.Rightful`): a VM may take an address that nobody holds and give up one that
it holds itself.

An address is only ever taken when it was described as free.  The release of the address that the
VM was reported with looks at no holder: it is asked for whoever the description names
(`Manager.poses_release`), so it is rightful exactly where the description names the VM itself.
-/

set_option autoImplicit false

namespace CloudLifecycle

/-- The run was told who holds a floating address, or that nobody does. -/
def Trace.Shows (floatingIp : ResourceId) (holder : Option ResourceId) (past : Trace) : Prop :=
  ∃ address info, FirstAnswer (.describeFloatingIp address) (.ok (some info)) past ∧
    info.id = floatingIp ∧ info.associatedVm = holder

namespace ProviderCall

/-- By what the run was told, the VM may ask for this change of an association: it takes an address
that nobody holds, or gives up one that it holds itself. -/
def Rightful (vm : ResourceId) (past : Trace) : ProviderCall → Prop
  | .associateFloatingIp floatingIp taker => taker = vm ∧ past.Shows floatingIp none
  | .dissociateFloatingIp floatingIp => past.Shows floatingIp (some vm)
  | _ => True

/-- The call releases an address that was described with another holder, or with none. -/
def Deprives (vm : ResourceId) (past : Trace) : ProviderCall → Prop
  | .dissociateFloatingIp floatingIp =>
    ∃ holder, past.Shows floatingIp holder ∧ holder ≠ some vm
  | _ => False

/-- The calls that applying the primary network may make. -/
def ForPrimary (vm : ResourceId) : ProviderCall → Prop
  | .bindStaticAddress _ id _ | .restartInstance id | .describeVm id => id = vm
  | _ => False

end ProviderCall

namespace Manager

open Verb ProviderCall

variable {m : Manager} {roles : NetworkRoles} {vm : VmInfo} {past : Trace} {c : ProviderCall}

/-! ## Where the calls come from -/

theorem calls_applyPrimary (m : Manager) (primary : PrimaryNetwork) (vm : VmInfo) :
    (m.applyPrimary primary vm).Calls (ForPrimary vm.id) := by
  have allowed {α : Type} {verb : Verb α} {c : ProviderCall} (h : verb.Calls (· = c))
      (hc : ForPrimary vm.id c) : verb.Calls (ForPrimary vm.id) :=
    h.mono fun _ e => e ▸ hc
  unfold applyPrimary
  split
  · refine (allowed (m.calls_call (.bindStaticAddress _ vm.id _)) rfl).bind fun _ => ?_
    refine (allowed (m.calls_call (.restartInstance vm.id)) rfl).bind fun _ => ?_
    exact allowed (m.calls_waitVm _ _) rfl
  · exact calls_pure _

/-- A floating address that a description finds is that of its first final answer. -/
theorem firstAnswer_of_describeFloatingIp {address : String} {info : FloatingIpInfo}
    {described : Trace} (h : (m.describeFloatingIp address).Runs described (.ok (some info))) :
    Trace.FirstAnswer (.describeFloatingIp address) (.ok (some info)) described := by
  obtain ⟨outcome, repeats, ho⟩ := runs_describeFloatingIp h
  exact repeats.firstAnswer_ok (by simp)
    (Retry.absentIfNotFound_eq_some_iff.1 (mapError_eq_ok_iff.1 ho.symm))

/-- How a run comes to ask for a change of an association: the primary network was applied, one
floating address was described, and the call may have been refused some times since. -/
inductive Reached (m : Manager) (roles : NetworkRoles) (vm : VmInfo) (change : ProviderCall)
    (address : String) (info : FloatingIpInfo) : Trace → Prop where
  | mk {before looked called : Trace}
      (applied : (m.applyPrimary roles.primary vm).Runs before (.ok ()))
      (described : (m.describeFloatingIp address).Runs looked (.ok (some info)))
      (posed : (m.call change).Poses called (.provider change)) :
      Reached m roles vm change address info (before ++ (looked ++ called))

/-- Only a free address is associated, and with the VM. -/
theorem poses_associateVip {vip : VipNetwork} (h : (m.associateVip vip vm).Poses past (.provider c))
    (hr : c ≠ .refreshCredentials) (hd : ∀ address, c ≠ .describeFloatingIp address) :
    ∃ described called info, past = described ++ called ∧
      (m.describeFloatingIp vip.ip).Runs described (.ok (some info)) ∧
      (m.call c).Poses called (.provider c) ∧
      c = .associateFloatingIp info.id vm.id ∧ info.associatedVm = none := by
  obtain ⟨described, called, found, rfl, hdescribed, hp⟩ :=
    (m.calls_describeFloatingIp vip.ip).poses_bind h hr (hd vip.ip)
  cases found with
  | none => exact absurd hp not_poses_throw
  | some info =>
    dsimp only at hp
    split at hp
    · split at hp
      · exact absurd hp not_poses_pure
      · exact absurd hp not_poses_throw
    · rename_i free
      have same : c = .associateFloatingIp info.id vm.id :=
        ((m.calls_call _).of_poses hp).resolve_left hr
      exact ⟨described, called, info, rfl, hdescribed, same ▸ hp, same, free⟩

/-- Only the address that the VM was reported with is dissociated, whoever holds it. -/
theorem poses_dissociateStaleVip (h : (m.dissociateStaleVip vm).Poses past (.provider c))
    (hr : c ≠ .refreshCredentials) (hd : ∀ address, c ≠ .describeFloatingIp address) :
    ∃ address described called info, past = described ++ called ∧
      (m.describeFloatingIp address).Runs described (.ok (some info)) ∧
      (m.call c).Poses called (.provider c) ∧
      c = .dissociateFloatingIp info.id ∧ vm.floatingIp = some address := by
  unfold dissociateStaleVip at h
  split at h
  · exact absurd h not_poses_pure
  · rename_i address reported
    obtain ⟨described, called, found, rfl, hdescribed, hp⟩ :=
      (m.calls_describeFloatingIp address).poses_bind h hr (hd address)
    cases found with
    | none => exact absurd hp not_poses_pure
    | some info =>
      have same : c = .dissociateFloatingIp info.id :=
        ((m.calls_call _).of_poses hp).resolve_left hr
      exact ⟨address, described, called, info, rfl, hdescribed, same ▸ hp, same, reported⟩

/-- A change of an association comes after the description of its address. -/
theorem reached_of_poses (h : (m.applyNetworks roles vm).Poses past (.provider c))
    (hp : ¬ForPrimary vm.id c) (hr : c ≠ .refreshCredentials)
    (hd : ∀ address, c ≠ .describeFloatingIp address) :
    ∃ address info, m.Reached roles vm c address info past ∧
      (c = .associateFloatingIp info.id vm.id ∧ info.associatedVm = none ∨
        c = .dissociateFloatingIp info.id) := by
  obtain ⟨before, after, _, rfl, applied, hp⟩ :=
    (m.calls_applyPrimary roles.primary vm).poses_bind h hr hp
  split at hp
  · rename_i vip _
    obtain ⟨described, called, info, rfl, hdescribed, hcalled, same, free⟩ :=
      poses_associateVip hp hr hd
    exact ⟨vip.ip, info, .mk applied hdescribed hcalled, .inl ⟨same, free⟩⟩
  · obtain ⟨address, described, called, info, rfl, hdescribed, hcalled, same, -⟩ :=
      poses_dissociateStaleVip hp hr hd
    exact ⟨address, info, .mk applied hdescribed hcalled, .inr same⟩

/-! ## What the run was told -/

namespace Reached

variable {address : String} {info : FloatingIpInfo}

theorem firstAnswer (h : m.Reached roles vm c address info past) :
    Trace.FirstAnswer (.describeFloatingIp address) (.ok (some info)) past := by
  obtain ⟨applied, described, posed⟩ := h
  have primary := (m.calls_applyPrimary roles.primary vm).callsIn applied
  refine ((firstAnswer_of_describeFloatingIp described).append _).after fun other => ?_
  exact primary.not_mem (by simp) (by simp [ForPrimary]) other

/-- No other floating address has been described. -/
theorem eq_of_mem (h : m.Reached roles vm c address info past)
    (hd : ∀ address, c ≠ .describeFloatingIp address) {other : String}
    {answer : ProviderResult (Option FloatingIpInfo)}
    (mem : ⟨.provider (.describeFloatingIp other), answer⟩ ∈ past) : other = address := by
  obtain ⟨applied, described, posed⟩ := h
  have primary := (m.calls_applyPrimary roles.primary vm).callsIn applied
  have looked := (m.calls_describeFloatingIp address).callsIn described
  have called := (m.calls_call c).callsIn_of_poses posed
  rcases List.mem_append.1 mem with mem | mem
  · rcases primary _ mem _ rfl with impossible | impossible
    · cases impossible
    · exact impossible.elim
  rcases List.mem_append.1 mem with mem | mem
  · have same := (looked _ mem _ rfl).resolve_left (by simp)
    exact describeFloatingIp.inj same
  · rcases called _ mem _ rfl with impossible | same
    · cases impossible
    · exact absurd same.symm (hd other)

/-- The one description tells who holds the address. -/
theorem shows_iff (h : m.Reached roles vm c address info past)
    (hd : ∀ address, c ≠ .describeFloatingIp address) (holder : Option ResourceId) :
    past.Shows info.id holder ↔ holder = info.associatedVm := by
  constructor
  · rintro ⟨other, found, first, -, rfl⟩
    obtain rfl := h.eq_of_mem hd first.mem
    have same : some found = some info := Except.ok.inj (h.firstAnswer.unique first)
    rw [Option.some.inj same]
  · rintro rfl
    exact ⟨address, info, h.firstAnswer, rfl, rfl⟩

end Reached

/-! ## Rightful changes -/

/-- Of the calls that applying networks asks for, those are rightful that deprive nobody. -/
theorem rightful_iff (h : (m.applyNetworks roles vm).Poses past (.provider c)) :
    c.Rightful vm.id past ↔ ¬c.Deprives vm.id past := by
  cases c with
  | associateFloatingIp floatingIp taker =>
    obtain ⟨address, info, reached, ⟨same, free⟩ | same⟩ :=
      reached_of_poses h (by simp [ForPrimary]) (by simp) (by simp)
    · obtain ⟨rfl, rfl⟩ := associateFloatingIp.inj same
      have shown := (reached.shows_iff (by simp) none).2 free.symm
      exact ⟨fun _ => id, fun _ => ⟨rfl, shown⟩⟩
    · cases same
  | dissociateFloatingIp floatingIp =>
    obtain ⟨address, info, reached, ⟨same, -⟩ | same⟩ :=
      reached_of_poses h (by simp [ForPrimary]) (by simp) (by simp)
    · cases same
    · obtain rfl := dissociateFloatingIp.inj same
      have shows_iff := reached.shows_iff (by simp)
      constructor
      · rintro own ⟨holder, shown, other⟩
        have holder_eq := (shows_iff holder).1 shown
        exact other (holder_eq.trans ((shows_iff _).1 own).symm)
      · intro deprived
        by_contra foreign
        have shown := (shows_iff info.associatedVm).2 rfl
        refine deprived ⟨_, shown, fun own => foreign ?_⟩
        rw [own] at shown
        exact shown
  | _ => exact ⟨fun _ => id, fun _ => trivial⟩

/-- Without a vip network the address that the VM was reported with is given up, whoever it is
described to be held by. -/
theorem poses_release {address : String} {info : FloatingIpInfo} {before looked : Trace}
    (unasked : roles.vip = none) (reported : vm.floatingIp = some address)
    (applied : (m.applyPrimary roles.primary vm).Runs before (.ok ()))
    (described : (m.describeFloatingIp address).Runs looked (.ok (some info))) :
    (m.applyNetworks roles vm).Poses (before ++ looked)
      (.provider (.dissociateFloatingIp info.id)) := by
  refine poses_bind_iff.2 (.inr ⟨before, looked, (), rfl, applied, ?_⟩)
  rw [unasked]
  dsimp only
  unfold dissociateStaleVip
  rw [reported]
  exact poses_bind_iff.2 (.inr ⟨looked, [], some info, by simp, described, poses_call⟩)

/-- **Whose floating addresses are touched.**  Applying the networks of a VM takes only addresses
that were described as free, and what it releases was its own exactly where the description says so.
The release itself does not ask: it is made of the address that the VM was reported with, whoever
the description names. -/
theorem applyNetworks_rightful (m : Manager) (roles : NetworkRoles) (vm : VmInfo) :
    (∀ past c, (m.applyNetworks roles vm).Poses past (.provider c) →
      (c.Rightful vm.id past ↔ ¬c.Deprives vm.id past)) ∧
    ∀ address info before looked, roles.vip = none → vm.floatingIp = some address →
      (m.applyPrimary roles.primary vm).Runs before (.ok ()) →
      (m.describeFloatingIp address).Runs looked (.ok (some info)) →
      (m.applyNetworks roles vm).Poses (before ++ looked)
        (.provider (.dissociateFloatingIp info.id)) :=
  ⟨fun _ _ posed => rightful_iff posed,
    fun _ _ _ _ unasked reported applied described =>
      poses_release unasked reported applied described⟩

/-- A VM that was reported with a floating address. -/
def addressed : VmInfo := ⟨⟨"i-1"⟩, "vm-1", .running, none, [], some "139.198.1.1"⟩

/-- One dynamic network and no vip network. -/
def dynamicOnly : NetworkRoles := ⟨.dynamic "default" none, none, []⟩

/-- The floating address of the VM with one holder. -/
def addressHeldBy (holder : Option ResourceId) : FloatingIpInfo :=
  ⟨⟨"eip-a"⟩, "139.198.1.1", holder⟩

/-- The description of this address. -/
def showing (holder : Option ResourceId) : Trace :=
  [⟨.provider (.describeFloatingIp "139.198.1.1"), .ok (some (addressHeldBy holder))⟩]

theorem runs_showing (holder : Option ResourceId) :
    (small.describeFloatingIp "139.198.1.1").Runs (showing holder)
      (.ok (some (addressHeldBy holder))) :=
  .ask _ (.done _)

theorem eq_of_shows_showing {holder other : Option ResourceId}
    (h : (showing holder).Shows ⟨"eip-a"⟩ other) : other = holder := by
  obtain ⟨address, info, first, -, rfl⟩ := h
  cases first with
  | here _ _ => rfl
  | later _ nothing => cases nothing

/-- An address of its own is given up by right. -/
theorem applyNetworks_rightful_own :
    (small.applyNetworks dynamicOnly addressed).Poses (showing (some addressed.id))
      (.provider (.dissociateFloatingIp ⟨"eip-a"⟩)) ∧
    (ProviderCall.dissociateFloatingIp ⟨"eip-a"⟩).Rightful addressed.id
      (showing (some addressed.id)) := by
  have laws := applyNetworks_rightful small dynamicOnly addressed
  have applied : (small.applyPrimary dynamicOnly.primary addressed).Runs [] (.ok ()) := .done _
  have posed := laws.2 "139.198.1.1" _ _ _ rfl rfl applied (runs_showing (some addressed.id))
  refine ⟨posed, (laws.1 _ _ posed).2 ?_⟩
  rintro ⟨holder, shown, other⟩
  exact other (eq_of_shows_showing shown)

/-- The address that the VM was reported with is held by another VM by now, and it is taken away
from this one. -/
theorem applyNetworks_deprives :
    NetworkRoles.classify VmRequest.small.networks = .ok dynamicOnly ∧
    (small.applyNetworks dynamicOnly addressed).Poses (showing (some ⟨"i-2"⟩))
      (.provider (.dissociateFloatingIp ⟨"eip-a"⟩)) ∧
    ¬(ProviderCall.dissociateFloatingIp ⟨"eip-a"⟩).Rightful addressed.id
      (showing (some ⟨"i-2"⟩)) := by
  have applied : (small.applyPrimary dynamicOnly.primary addressed).Runs [] (.ok ()) := .done _
  refine ⟨rfl, poses_release rfl rfl applied (runs_showing (some ⟨"i-2"⟩)), fun own => ?_⟩
  have same : some addressed.id = some ⟨"i-2"⟩ := eq_of_shows_showing own
  exact absurd same (by decide)

end Manager

end CloudLifecycle

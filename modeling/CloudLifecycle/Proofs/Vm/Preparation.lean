import CloudLifecycle.Proofs.Runs.Observation
import CloudLifecycle.Proofs.Runs.Posing
import Mathlib.Data.List.Forall2

/-!
# The preparation of a new VM

Before a VM is asked for, the security groups are looked up and counted, and the image, the instance
type and the key pair are looked up.  `Manager.Checked` says what these checks have established,
and `Manager.checked_of_runs` that the parameters of the VM are put together from just that.  So it
has always been established when a VM is asked for (`Manager.checked_of_poses`), which is one of the
stages that a creation goes through (`Manager.stage_of_poses`).
-/

set_option autoImplicit false

namespace CloudLifecycle

namespace Manager

/-- The first of the groups that has the name or the id. -/
def Resolves (existing : List SecurityGroupInfo) (name : String) (group : SecurityGroupInfo) :
    Prop :=
  existing.find? (fun group => group.name = name || group.id.text = name) = some group

theorem mapM_eq_ok_iff {ε α β : Type} {f : α → Except ε β} {items : List α} {results : List β} :
    items.mapM f = .ok results ↔ List.Forall₂ (fun a b => f a = .ok b) items results := by
  induction items generalizing results with
  | nil =>
    rw [List.mapM_nil, List.forall₂_nil_left_iff]
    exact ⟨fun h => (Except.ok.inj h).symm, fun h => h ▸ rfl⟩
  | cons a items ih =>
    rw [List.mapM_cons, List.forall₂_cons_left_iff]
    simp only [← ih]
    cases first : f a with
    | error e =>
      refine iff_of_false (fun h => nomatch h) ?_
      rintro ⟨_, _, impossible, _⟩
      cases impossible
    | ok b =>
      cases more : items.mapM f with
      | error e =>
        refine iff_of_false (fun h => nomatch h) ?_
        rintro ⟨_, _, _, impossible, _⟩
        cases impossible
      | ok others =>
        constructor
        · intro h
          exact ⟨b, others, rfl, rfl, (Except.ok.inj h).symm⟩
        · rintro ⟨_, _, hb, ho, rfl⟩
          obtain rfl := Except.ok.inj hb
          obtain rfl := Except.ok.inj ho
          rfl

/-- Groups are resolved one by one, in the order of their names. -/
theorem resolveGroups_eq_ok_iff {existing : List SecurityGroupInfo} {names : List String}
    {groups : List SecurityGroupInfo} :
    resolveGroups existing names = .ok groups ↔ List.Forall₂ (Resolves existing) names groups := by
  unfold resolveGroups
  rw [mapM_eq_ok_iff]
  constructor
  · intro h
    refine h.imp fun name group found => ?_
    split at found
    · rename_i known
      obtain rfl := Except.ok.inj found
      exact known
    · cases found
  · intro h
    refine h.imp fun name group found => ?_
    rw [show existing.find? (fun group => group.name = name || group.id.text = name) =
      some group from found]

variable (m : Manager)

/-- The parameters of a new VM. -/
def vmParams (name : String) (roles : NetworkRoles) (request : VmRequest)
    (groups : List SecurityGroupInfo) (image : ImageInfo) (pair : KeyPairInfo) :
    CreateVmParams where
  name
  imageId := image.id
  instanceType := request.properties.instanceType
  keyPair := pair
  netId := roles.nic.netId
  fixedIp := roles.nic.fixedIp
  securityGroups := groups.map (·.id.text)
  availabilityZone := request.properties.availabilityZone.or m.options.availabilityZone
  userData := UserData.encode
    ⟨m.registryEndpoint, name, pair.publicKey, NetworkSpec.dnsServers request.networks⟩

/-- What has been established when the parameters of a new VM are put together. -/
structure Prepared (roles : NetworkRoles) (request : VmRequest) (trace : Trace)
    (groups : List SecurityGroupInfo) (pair : KeyPairInfo) : Prop where
  resolved : ∃ existing, trace.FirstReply .listSecurityGroups existing ∧
    List.Forall₂ (Resolves existing) (roles.securityGroups m.options.defaultSecurityGroups) groups
  limited : ∀ limit, m.backend.maxSecurityGroups = some limit → groups.length ≤ limit
  matched : ∃ name, request.properties.keyName.or m.options.defaultKeyName = some name ∧
    trace.FirstReply (.findKeyPairs name) [pair]

/-- What all the checks have established, with the image that was described. -/
structure Checked (roles : NetworkRoles) (request : VmRequest) (trace : Trace)
    (groups : List SecurityGroupInfo) (image : ImageInfo) (pair : KeyPairInfo) : Prop
    extends m.Prepared roles request trace groups pair where
  described : trace.FirstReply (.describeImage request.stemcell) (some image)
  offered : ∃ types, trace.FirstReply (.listInstanceTypes m.backend.region) types ∧
    request.properties.instanceType ∈ types

variable {m : Manager} {trace : Trace} {roles : NetworkRoles} {request : VmRequest}

/-- Where nothing was asked before, and whatever is asked later, the checks stay made. -/
theorem Checked.within {groups : List SecurityGroupInfo} {image : ImageInfo} {pair : KeyPairInfo}
    (h : m.Checked roles request trace groups image pair) {before : Trace}
    (quiet : before.CallsIn fun _ => False) (after : Trace) :
    m.Checked roles request (before ++ (trace ++ after)) groups image pair := by
  have kept {c : ProviderCall} {reply : c.Reply} (hc : c ≠ .refreshCredentials)
      (first : trace.FirstReply c reply) : (before ++ (trace ++ after)).FirstReply c reply :=
    (first.append after).prepend fun _ => quiet.not_mem hc (by simp) _
  obtain ⟨⟨⟨existing, listed, resolved⟩, limited, name, named, matched⟩, described, types, offered,
    among⟩ := h
  exact ⟨⟨⟨existing, kept (by simp) listed, resolved⟩, limited, name, named,
    kept (by simp) matched⟩, kept (by simp) described, types, kept (by simp) offered, among⟩

/-- Groups cannot be listed, or they are resolved among those of the first list. -/
theorem outcome_of_resolveSecurityGroups {names : List String}
    {result : Except CpiError (List SecurityGroupInfo)}
    (h : (m.resolveSecurityGroups names).Runs trace result) :
    (∃ e, (m.call .listSecurityGroups).Runs trace (.error e) ∧ result = .error e) ∨
      ∃ existing, trace.FirstReply .listSecurityGroups existing ∧
        result = resolveGroups existing names := by
  refine (Verb.runs_bind_iff.1 h).imp_right ?_
  rintro ⟨listed, rest, existing, rfl, hl, hr⟩
  obtain ⟨rfl, resolved⟩ := Verb.runs_outcome_iff.1 hr
  exact ⟨existing, (firstReply_of_call (by simp) hl).append [], resolved⟩

theorem runs_resolveSecurityGroups {names : List String} {groups : List SecurityGroupInfo}
    (h : (m.resolveSecurityGroups names).Runs trace (.ok groups)) :
    ∃ existing, trace.FirstReply .listSecurityGroups existing ∧
      List.Forall₂ (Resolves existing) names groups := by
  rcases outcome_of_resolveSecurityGroups h with ⟨_, _, impossible⟩ | ⟨existing, first, resolved⟩
  · cases impossible
  · exact ⟨existing, first, resolveGroups_eq_ok_iff.1 resolved.symm⟩

theorem limit_of_checkGroupLimit {names : List String} {groups : List SecurityGroupInfo} {u : Unit}
    (h : (m.checkGroupLimit names groups).Runs trace (.ok u)) (limit : Nat)
    (limited : m.backend.maxSecurityGroups = some limit) : groups.length ≤ limit := by
  unfold checkGroupLimit at h
  rw [limited] at h
  dsimp only at h
  split at h
  · cases (Verb.runs_throw_iff.1 h).2
  · rename_i fits
    exact Nat.le_of_not_lt fits

theorem runs_resolveKeyPair {explicit : Option String} {pair : KeyPairInfo}
    (h : (m.resolveKeyPair explicit).Runs trace (.ok pair)) :
    ∃ name, explicit.or m.options.defaultKeyName = some name ∧
      trace.FirstReply (.findKeyPairs name) [pair] := by
  unfold resolveKeyPair at h
  split at h
  · cases (Verb.runs_throw_iff.1 h).2
  · rename_i name named
    obtain ⟨found, rest, pairs, rfl, hf, h⟩ := Verb.runs_bind_ok_iff.1 h
    split at h
    · rename_i one
      obtain ⟨rfl, hp⟩ := Verb.runs_pure_iff.1 h
      obtain rfl := Except.ok.inj hp
      exact ⟨name, named, (firstReply_of_call (by simp) hf).append []⟩
    · cases (Verb.runs_throw_iff.1 h).2

theorem calls_checkGroupLimit {S : ProviderCall → Prop} (names : List String)
    (groups : List SecurityGroupInfo) : (m.checkGroupLimit names groups).Calls S := by
  unfold checkGroupLimit
  split
  · exact Verb.calls_pure _
  · split
    · exact Verb.calls_throw _
    · exact Verb.calls_pure _

theorem calls_requireInstanceType (instanceType : String) :
    (m.requireInstanceType instanceType).Calls (· = .listInstanceTypes m.backend.region) := by
  refine (m.calls_call _).bind fun offered => ?_
  split
  · exact Verb.calls_throw _
  · exact Verb.calls_pure _

theorem firstReply_of_requireImage {id : ResourceId} {image : ImageInfo}
    (h : (m.requireImage id).Runs trace (.ok image)) :
    trace.FirstReply (.describeImage id) (some image) := by
  obtain ⟨described, rest, found, rfl, hd, h⟩ := Verb.runs_bind_ok_iff.1 h
  cases found with
  | none => cases (Verb.runs_throw_iff.1 h).2
  | some found =>
    obtain rfl := Except.ok.inj (Verb.runs_pure_iff.1 h).2
    obtain ⟨outcome, hd, ho⟩ := Verb.runs_mapError_iff.1 hd
    obtain ⟨outcome, hc, rfl⟩ := Retry.runs_describe hd
    have answered := Retry.absentIfNotFound_eq_some_iff.1 (Verb.mapError_eq_ok_iff.1 ho.symm)
    exact ((Retry.repeats_of_runs hc).firstReply (by simp) answered).append rest

theorem offered_of_requireInstanceType {instanceType : String} {u : Unit}
    (h : (m.requireInstanceType instanceType).Runs trace (.ok u)) :
    ∃ types, trace.FirstReply (.listInstanceTypes m.backend.region) types ∧
      instanceType ∈ types := by
  obtain ⟨listed, rest, types, rfl, hl, h⟩ := Verb.runs_bind_ok_iff.1 h
  refine ⟨types, (firstReply_of_call (by simp) hl).append rest, ?_⟩
  split at h
  · cases (Verb.runs_throw_iff.1 h).2
  · rename_i offered
    simpa using offered

/-- **The parameters of a new VM** are put together once all the checks are made, from what they
have found. -/
theorem checked_of_runs {name : String} {params : CreateVmParams}
    (h : (m.prepareVm name roles request).Runs trace (.ok params)) :
    ∃ groups image pair, m.Checked roles request trace groups image pair ∧
      params = m.vmParams name roles request groups image pair := by
  obtain ⟨listed, rest, groups, rfl, hgroups, h⟩ := Verb.runs_bind_ok_iff.1 h
  obtain ⟨counted, rest, _, rfl, hlimit, h⟩ := Verb.runs_bind_ok_iff.1 h
  obtain ⟨seen, rest, image, rfl, himage, h⟩ := Verb.runs_bind_ok_iff.1 h
  obtain ⟨typed, rest, _, rfl, htype, h⟩ := Verb.runs_bind_ok_iff.1 h
  obtain ⟨matched, rest, pair, rfl, hpair, h⟩ := Verb.runs_bind_ok_iff.1 h
  obtain ⟨rfl, hparams⟩ := Verb.runs_pure_iff.1 h
  obtain ⟨existing, first, resolved⟩ := runs_resolveSecurityGroups hgroups
  obtain ⟨types, offered, among⟩ := offered_of_requireInstanceType htype
  obtain ⟨keyName, named, found⟩ := runs_resolveKeyPair hpair
  -- Each check asks for something else, so what it was told is what was told first.
  have listing := (m.calls_resolveSecurityGroups _).callsIn hgroups
  have counting := (calls_checkGroupLimit (S := fun _ => False) _ _).callsIn hlimit
  have imaging := (m.calls_requireImage _).callsIn himage
  have typing := (calls_requireInstanceType _).callsIn htype
  refine ⟨groups, image, pair, ⟨⟨⟨existing, first.append _, resolved⟩,
    limit_of_checkGroupLimit hlimit, keyName, named, ?_⟩, ?_, types, ?_, among⟩,
    Except.ok.inj hparams⟩
  · refine ((((found.append []).prepend fun other => ?_).prepend fun other => ?_).prepend
      fun other => ?_).prepend fun other => ?_
    · exact typing.not_mem (by simp) (by simp) _
    · exact imaging.not_mem (by simp) (by simp) _
    · exact counting.not_mem (by simp) (by simp) _
    · exact listing.not_mem (by simp) (by simp) _
  · refine (((firstReply_of_requireImage himage).append _).prepend fun other => ?_).prepend
      fun other => ?_
    · exact counting.not_mem (by simp) (by simp) _
    · exact listing.not_mem (by simp) (by simp) _
  · refine (((offered.append _).prepend fun other => ?_).prepend fun other => ?_).prepend
      fun other => ?_
    · exact imaging.not_mem (by simp) (by simp) _
    · exact counting.not_mem (by simp) (by simp) _
    · exact listing.not_mem (by simp) (by simp) _

/-- What follows once there is a VM: it is waited for and looked up, its networks are applied and
its settings are stored. -/
def finishVm (m : Manager) (request : VmRequest) (roles : NetworkRoles) (name : String)
    (id : ResourceId) : Verb ResourceId := do
  m.awaitCreated id
  let vm ← m.requireVm id
  m.applyNetworks roles vm
  Verb.settings (.update name (m.initialSettings name request))
  return id

/-- How far a creation has come that poses a question. -/
inductive Stage (m : Manager) (request : VmRequest) : Trace → Action → Prop where
  | checking {past : Trace} {posed : Action} (looked : past.CallsIn PreparingCall)
      (posing : posed.Within PreparingCall) : Stage m request past posed
  | asking {checked asked : Trace} {posed : Action} {fresh : String} {roles : NetworkRoles}
      {groups : List SecurityGroupInfo} {image : ImageInfo} {pair : KeyPairInfo}
      (classified : NetworkRoles.classify request.networks = .ok roles)
      (looked : checked.CallsIn PreparingCall)
      (made : m.Checked roles request checked groups image pair)
      (posing : (m.call (.runInstance
        (m.vmParams ("vm-" ++ fresh) roles request groups image pair))).Poses asked posed) :
      Stage m request (checked ++ asked) posed
  | finishing {checked asked rest : Trace} {posed : Action} {params : CreateVmParams}
      {roles : NetworkRoles} {name : String} {id : ResourceId}
      (looked : checked.CallsIn PreparingCall)
      (created : (m.call (.runInstance params)).Runs asked (.ok id))
      (posing : (m.finishVm request roles name id).Poses rest posed) :
      Stage m request (checked ++ (asked ++ rest)) posed

/-- **The stages of a creation**: every question belongs to the checks, to the call for the VM, or
to what follows it. -/
theorem stage_of_poses {posed : Action} (h : (m.createVm request).Poses trace posed) :
    m.Stage request trace posed := by
  have naming : Verb.Calls PreparingCall (ExceptT.lift Task.freshName) :=
    Verb.calls_lift Task.calls_freshName
  rcases Verb.poses_bind_iff.1 h with now | ⟨named, rest, fresh, rfl, hn, classifying⟩
  · exact .checking (naming.callsIn_of_poses now) (Program.Asks.of_poses naming now)
  rcases Verb.poses_bind_iff.1 classifying with now | ⟨_, rest, roles, rfl, hs, preparing⟩
  · exact absurd now Program.not_poses_done
  obtain ⟨rfl, classified⟩ := Verb.runs_outcome_iff.1 hs
  have checks := m.calls_prepareVm ("vm-" ++ fresh) roles request
  rcases Verb.poses_bind_iff.1 preparing with now | ⟨checked, rest, params, rfl, hp, asking⟩
  · exact .checking ((naming.callsIn hn).append (checks.callsIn_of_poses now))
      (Program.Asks.of_poses checks now)
  have looked := (naming.callsIn hn).append (checks.callsIn hp)
  have quiet : named.CallsIn fun _ => False :=
    (Verb.calls_lift Task.calls_freshName : Verb.Calls _ _).callsIn hn
  obtain ⟨groups, image, pair, made, rfl⟩ := checked_of_runs hp
  rw [List.nil_append, ← List.append_assoc]
  rcases Verb.poses_bind_iff.1 asking with now | ⟨asked, rest, id, rfl, hc, finishing⟩
  · exact .asking classified.symm looked (by simpa using made.within quiet []) now
  · exact .finishing looked hc finishing

/-- Once the VM was created nothing asks for another one. -/
theorem not_poses_finishVm {name : String} {id : ResourceId} {params : CreateVmParams} :
    ¬(m.finishVm request roles name id).Poses trace (.provider (.runInstance params)) := by
  intro h
  obtain ⟨_, _, _, _, _, h⟩ := (m.calls_awaitCreated id).poses_bind h (by simp) (by simp)
  obtain ⟨_, _, vm, _, _, h⟩ := (m.calls_requireVm id).poses_bind h (by simp) (by simp)
  obtain ⟨_, _, _, _, _, h⟩ :=
    (m.calls_applyNetworks roles vm).poses_bind h (by simp) (by simp [NetworkCall])
  exact Verb.not_poses_settings (Verb.poses_bind_pure_iff.1 h)

/-- **A VM is asked for** only after all the checks, with parameters that they have prepared. -/
theorem checked_of_poses {params : CreateVmParams}
    (h : (m.createVm request).Poses trace (.provider (.runInstance params))) :
    ∃ fresh roles groups image pair, NetworkRoles.classify request.networks = .ok roles ∧
      m.Checked roles request trace groups image pair ∧
      params = m.vmParams ("vm-" ++ fresh) roles request groups image pair := by
  cases stage_of_poses h with
  | checking _ posing => simp [Action.Within, PreparingCall] at posing
  | @asking checked asked _ fresh roles groups image pair classified _ made posing =>
    refine ⟨fresh, roles, groups, image, pair, classified, made.within .nil asked, ?_⟩
    simpa using (m.calls_call _).of_poses posing
  | finishing _ _ posing => exact absurd posing not_poses_finishVm

theorem prepared_of_poses {params : CreateVmParams}
    (h : (m.createVm request).Poses trace (.provider (.runInstance params))) :
    ∃ fresh roles groups image pair, NetworkRoles.classify request.networks = .ok roles ∧
      m.Prepared roles request trace groups pair ∧
      params = m.vmParams ("vm-" ++ fresh) roles request groups image pair := by
  obtain ⟨fresh, roles, groups, image, pair, classified, checked, same⟩ := checked_of_poses h
  exact ⟨fresh, roles, groups, image, pair, classified, checked.toPrepared, same⟩

end Manager

end CloudLifecycle

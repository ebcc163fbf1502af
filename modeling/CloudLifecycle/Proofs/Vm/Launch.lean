import CloudLifecycle.Lifecycle.Online
import CloudLifecycle.Proofs.HwCloud.Sets
import CloudLifecycle.Proofs.Network.Requested
import CloudLifecycle.Proofs.QingCloud.Actions
import CloudLifecycle.Proofs.Store.Stage
import CloudLifecycle.Proofs.Url.Query
import CloudLifecycle.Proofs.Vm.Preparation

/-!
# What a request for a new VM carries

A cloud's request for a VM leaves out what it cannot express: QingCloud takes one security group,
and a fixed address only together with its network.  Neither is ever lost.  The classification of
networks gives an address only with a network, and a VM with more groups than the cloud takes is
refused before it is asked for; so whatever a director asks for is in the parameters of the request
(`Manager.createVm_launches`).
-/

set_option autoImplicit false

namespace CloudLifecycle

namespace QingCloud

/-- The parameters hold the interface and the security groups of a new VM. -/
structure Expresses (q : Query) (nic : NicParams) (groups : List String) : Prop where
  group : q.find? "security_group" = groups.head?
  /-- So no group is left out. -/
  single : groups.length ≤ 1
  network : q.find? "vxnets.1" = match nic with
    | ⟨some netId, some ip⟩ => some (netId ++ "|" ++ ip)
    | ⟨some netId, none⟩ => some netId
    | ⟨none, _⟩ => none
  alone : ∀ suffix ≠ ".1", q.find? ("vxnets" ++ suffix) = none
  /-- So no address is left out. -/
  address : nic.fixedIp.isSome → nic.netId.isSome

/-- The parameters that every request has come on top of those of the action. -/
theorem find?_complete (account : QingCloudAccount) (action : String) (q : Query) (now : Timestamp)
    {k : String} (h : k ∉ ["action", "zone", "access_key_id", "signature_method",
      "signature_version", "version", "time_stamp"]) :
    (account.complete action q now).find? k = q.find? k := by
  simp only [List.mem_cons, List.not_mem_nil, not_or] at h
  simp [QingCloudAccount.complete, h]

theorem find?_vmQuery_group (params : CreateVmParams) :
    (vmQuery params).find? "security_group" = params.securityGroups.head? := by
  have unlisted (i : Nat) : "security_group" ≠ "vxnets" ++ "." ++ i.repr := by
    rw [String.append_assoc]
    exact fun same => (append_eq_iff_false (by decide) _).1 same.symm
  have numbered (q : Query) (values : List String) :
      (q.numbered "vxnets" values).find? "security_group" = q.find? "security_group" :=
    q.find?_numbered_of_ne "vxnets" fun i _ => unlisted _
  simp [vmQuery, Query.find?_setOption, numbered]

theorem find?_vmQuery_network (params : CreateVmParams) :
    (vmQuery params).find? "vxnets.1" = networkText params := by
  have first (q : Query) (values : List String) :
      (q.numbered "vxnets" values).find? "vxnets.1" = values[0]?.or (q.find? "vxnets.1") :=
    q.find?_numbered "vxnets" values 0
  simp only [vmQuery, Query.find?_set, Query.find?_setOption, first]
  cases networkText params <;> simp

theorem find?_vmQuery_other (params : CreateVmParams) {suffix : String} (h : suffix ≠ ".1") :
    (vmQuery params).find? ("vxnets" ++ suffix) = none := by
  have unlisted (q : Query) (network : Option String) :
      (q.numbered "vxnets" network.toList).find? ("vxnets" ++ suffix) =
        q.find? ("vxnets" ++ suffix) := by
    refine q.find?_numbered_of_ne "vxnets" fun i hi same => h ?_
    -- There is one network at most.
    have only : network.toList.length ≤ 1 := by cases network <;> simp
    obtain rfl : i = 0 := by omega
    rw [String.append_assoc] at same
    exact (String.append_right_inj _).1 same
  simp only [vmQuery, Query.find?_set, Query.find?_setOption, unlisted, Query.find?_empty]
  simp (disch := decide) only [append_eq_iff_false, if_false]

theorem expresses_vmQuery (account : QingCloudAccount) (now : Timestamp) {params : CreateVmParams}
    (single : params.securityGroups.length ≤ 1)
    (address : params.fixedIp.isSome → params.netId.isSome) :
    Expresses (account.complete "RunInstances" (vmQuery params) now)
      ⟨params.netId, params.fixedIp⟩ params.securityGroups where
  group := by
    rw [find?_complete _ _ _ _ (by decide)]
    exact find?_vmQuery_group params
  single := single
  network := by
    rw [find?_complete _ _ _ _ (by decide), find?_vmQuery_network, networkText]
    cases params.netId <;> cases params.fixedIp <;> rfl
  alone suffix h := by
    rw [find?_complete]
    · exact find?_vmQuery_other params h
    · simp (disch := decide) only [List.mem_cons, List.not_mem_nil, append_eq_iff_false, or_self,
        not_false_eq_true]
  address := address

end QingCloud

namespace HwCloud

/-- The parameters hold the interface and the security groups of a new VM. -/
structure Expresses (q : Query) (nic : NicParams) (groups : List String) : Prop where
  group : ∀ i : Nat, q.find? ("SecurityGroupId[" ++ i.repr ++ "]") = groups[i]?
  beyond : ∀ suffix, (∀ i < groups.length, suffix ≠ "[" ++ i.repr ++ "]") →
    q.find? ("SecurityGroupId" ++ suffix) = none
  subnet : q.find? "SubnetId" = nic.netId
  address : q.find? "PrivateIpAddress" = nic.fixedIp

/-- The parameters that every request has come on top of those of the action. -/
theorem find?_complete (account : HwCloudAccount) (action : String) (q : Query) (now : Timestamp)
    (nonce : String) {k : String} (h : k ∉ ["Action", "HWSAccessKeyId", "RegionName", "Version",
      "SignatureMethod", "SignatureVersion", "SignatureNonce", "Timestamp"]) :
    (account.complete action q now nonce).find? k = q.find? k := by
  simp only [List.mem_cons, List.not_mem_nil, not_or] at h
  simp [HwCloudAccount.complete, h]

variable (cloud : HwCloud) (params : CreateVmParams)

/-- The parameters of a request before the security groups. -/
theorem find?_ungrouped (suffix : String) :
    ∃ q : Query, cloud.vmQuery params = q.indexed "SecurityGroupId" params.securityGroups ∧
      q.find? ("SecurityGroupId" ++ suffix) = none := by
  refine ⟨_, rfl, ?_⟩
  simp (disch := decide) only [Query.find?_set, Query.find?_setOption, Query.find?_empty,
    append_eq_iff_false, if_false]

theorem find?_vmQuery_group (i : Nat) :
    (cloud.vmQuery params).find? ("SecurityGroupId[" ++ i.repr ++ "]") =
      params.securityGroups[i]? := by
  obtain ⟨q, same, unset⟩ := cloud.find?_ungrouped params ("[" ++ i.repr ++ "]")
  have split : "SecurityGroupId[" ++ i.repr ++ "]" = "SecurityGroupId" ++ "[" ++ i.repr ++ "]" :=
    rfl
  have whole : "SecurityGroupId" ++ "[" ++ i.repr ++ "]" =
      "SecurityGroupId" ++ ("[" ++ i.repr ++ "]") := by
    simp only [String.append_assoc]
  rw [split, same, Query.find?_indexed, whole, unset, Option.or_none]

theorem find?_vmQuery_other {suffix : String}
    (h : ∀ i < params.securityGroups.length, suffix ≠ "[" ++ i.repr ++ "]") :
    (cloud.vmQuery params).find? ("SecurityGroupId" ++ suffix) = none := by
  obtain ⟨q, same, unset⟩ := cloud.find?_ungrouped params suffix
  rw [same, Query.find?_indexed_of_ne _ _ fun i hi same => h i hi ?_, unset]
  rw [String.append_assoc, String.append_assoc] at same
  rw [String.append_assoc]
  exact (String.append_right_inj _).1 same

/-- The security groups leave all parameters of other names. -/
theorem find?_grouped (q : Query) {k : String} (groups : List String)
    (h : "SecurityGroupId".toList.isPrefixOf k.toList = false) :
    (q.indexed "SecurityGroupId" groups).find? k = q.find? k := by
  refine q.find?_indexed_of_ne _ fun i _ same => ?_
  rw [String.append_assoc, String.append_assoc] at same
  exact (append_eq_iff_false h _).1 same.symm

theorem find?_vmQuery_subnet : (cloud.vmQuery params).find? "SubnetId" = params.netId := by
  unfold vmQuery
  rw [find?_grouped _ _ (by decide)]
  simp [Query.find?_setOption]

theorem find?_vmQuery_address :
    (cloud.vmQuery params).find? "PrivateIpAddress" = params.fixedIp := by
  unfold vmQuery
  rw [find?_grouped _ _ (by decide)]
  simp [Query.find?_setOption]

theorem expresses_vmQuery (now : Timestamp) (nonce : String) :
    Expresses (cloud.account.complete "RunInstances" (cloud.vmQuery params) now nonce)
      ⟨params.netId, params.fixedIp⟩ params.securityGroups where
  group i := by
    rw [find?_complete]
    · exact cloud.find?_vmQuery_group params i
    · rw [String.append_assoc]
      simp (disch := decide) only [List.mem_cons, List.not_mem_nil, append_eq_iff_false, or_self,
        not_false_eq_true]
  beyond suffix h := by
    rw [find?_complete]
    · exact cloud.find?_vmQuery_other params h
    · simp (disch := decide) only [List.mem_cons, List.not_mem_nil, append_eq_iff_false, or_self,
        not_false_eq_true]
  subnet := by
    rw [find?_complete _ _ _ _ _ (by decide)]
    exact cloud.find?_vmQuery_subnet params
  address := by
    rw [find?_complete _ _ _ _ _ (by decide)]
    exact cloud.find?_vmQuery_address params

end HwCloud

namespace Cloud

/-- The parameters of a request for a new VM that is made at some time under some name. -/
def launchQuery (params : CreateVmParams) (now : Timestamp) (nonce : String) : Cloud → Query
  | .qingcloud cloud =>
    cloud.account.complete "RunInstances" (QingCloud.vmQuery params) now
  | .hwcloud cloud =>
    cloud.account.complete "RunInstances" (cloud.vmQuery params) now nonce

/-- The URL with these parameters and their signature. -/
def signed (q : Query) : Cloud → String
  | .qingcloud ⟨account, _⟩ => account.endpoint ++ "?" ++ q.canonical ++ "&signature="
      ++ Text.percentEncode
        (Hmac.signature account.secretAccessKey (account.signedText q.canonical))
  | .hwcloud ⟨account, _, _⟩ => (account.endpoint.withQuery (q.canonical ++ "&Signature="
      ++ Text.percentEncode
        (Hmac.signature account.settings.secretKey (account.signedText q.canonical)))).text

/-- The parameters hold the interface and the security groups of a new VM, as the cloud takes
them. -/
def Expresses (q : Query) (nic : NicParams) (groups : List String) : Cloud → Prop
  | .qingcloud _ => QingCloud.Expresses q nic groups
  | .hwcloud _ => HwCloud.Expresses q nic groups

/-- What is sent, if what follows sends nothing. -/
theorem poses_of_quiet {α β : Type} {web : Web α} {f : α → Web β}
    {past : List (Program.Event WebAction WebAction.Answer)} {posed : WebAction}
    (h : Program.Poses (web >>= f) past posed)
    (quiet : ∀ a rest, ¬ Program.Poses (f a) rest posed) :
    Program.Poses web past posed := by
  refine (Program.poses_bind_iff.1 h).resolve_right ?_
  rintro ⟨_, rest, a, _, _, later⟩
  exact quiet a rest later

theorem poses_mapped {α β : Type} {web : Web α} {f : α → β}
    {past : List (Program.Event WebAction WebAction.Answer)} {posed : WebAction}
    (h : Program.Poses (do return f (← web)) past posed) : Program.Poses web past posed :=
  poses_of_quiet h fun _ _ => Program.not_poses_done

/-- Reading the clock or taking a name sends nothing. -/
theorem poses_send_of_bind {α : Type} {question : WebAction} {f : question.Answer → Web α}
    {past : List (Program.Event WebAction WebAction.Answer)} {sent : HttpRequest}
    (h : Program.Poses (Program.request question >>= f) past (.send sent))
    (silent : question ≠ .send sent) :
    ∃ answer rest, Program.Poses (f answer) rest (.send sent) := by
  rcases Program.poses_bind_iff.1 h with asked | ⟨_, rest, answer, _, _, later⟩
  · exact absurd (Program.poses_request_iff.1 asked).2.symm silent
  · exact ⟨answer, rest, later⟩

/-- A cloud's requests for a VM all have the parameters of the VM. -/
theorem launched_of_poses {cloud : Cloud} {params : CreateVmParams}
    {web : List (Program.Event WebAction WebAction.Answer)} {sent : HttpRequest}
    (h : Program.Poses (cloud.perform (.runInstance params)) web (.send sent)) :
    ∃ now nonce, Http.prepare .get (cloud.signed (cloud.launchQuery params now nonce)) none "" =
      .ok sent := by
  cases cloud with
  | qingcloud cloud =>
    obtain ⟨now, rest, h⟩ := poses_send_of_bind (poses_mapped (poses_mapped h)) (by simp)
    refine ⟨now, "", Http.prepare_of_poses (poses_of_quiet h ?_)⟩
    rintro (_ | _) later quiet
    · exact Program.not_poses_done quiet
    · exact Program.not_poses_done quiet
  | hwcloud cloud =>
    obtain ⟨now, rest, h⟩ := poses_send_of_bind (poses_mapped (poses_mapped h)) (by simp)
    obtain ⟨nonce, rest, h⟩ := poses_send_of_bind h (by simp)
    refine ⟨now, nonce, Http.prepare_of_poses (poses_of_quiet h ?_)⟩
    rintro (_ | _) later quiet
    · exact Program.not_poses_done quiet
    · exact Program.not_poses_done quiet

/-- A cloud sends every request with the parameters of the VM that can be made, and no other. -/
theorem sends_launch_iff {cloud : Cloud} {params : CreateVmParams} {sent : HttpRequest} :
    (∃ web, Program.Poses (cloud.perform (.runInstance params)) web (.send sent)) ↔
      ∃ now nonce, Http.prepare .get (cloud.signed (cloud.launchQuery params now nonce)) none "" =
        .ok sent := by
  refine ⟨fun ⟨web, posed⟩ => launched_of_poses posed, ?_⟩
  rintro ⟨now, nonce, prepared⟩
  cases cloud with
  | qingcloud cloud =>
    exact ⟨_, Program.poses_bind_iff.2 (.inl (QingCloud.poses_call prepared _))⟩
  | hwcloud cloud =>
    exact ⟨_, Program.poses_bind_iff.2 (.inl (cloud.poses_call prepared _))⟩

/-- A cloud's parameters of a VM hold all of it, if the VM keeps to what the cloud takes. -/
theorem expresses_launchQuery {cloud : Cloud} {params : CreateVmParams} (now : Timestamp)
    (nonce : String)
    (limited : ∀ limit, cloud.description.maxSecurityGroups = some limit →
      params.securityGroups.length ≤ limit)
    (address : params.fixedIp.isSome → params.netId.isSome) :
    cloud.Expresses (cloud.launchQuery params now nonce) ⟨params.netId, params.fixedIp⟩
      params.securityGroups := by
  cases cloud with
  | qingcloud cloud => exact QingCloud.expresses_vmQuery cloud.account now (limited 1 rfl) address
  | hwcloud cloud => exact cloud.expresses_vmQuery params now nonce

end Cloud

namespace Manager

/-- What a request for a VM asks of the cloud: the interface of its one primary network, and the
security groups of its networks, which are found among those that the cloud has listed. -/
structure Asks (m : Manager) (request : VmRequest) (past : Trace) (nic : NicParams)
    (groups : List SecurityGroupInfo) : Prop where
  interface : ∃ name entry, request.networks.Primary name entry ∧ entry.Connects nic
  resolved : ∃ existing names, past.FirstReply .listSecurityGroups existing ∧
    names.Pairwise (· < ·) ∧
    (∀ group, group ∈ names ↔
      request.networks.AsksGroup m.options.defaultSecurityGroups group) ∧
    List.Forall₂ (Resolves existing) names groups

/-- **Nothing that is asked for is dropped**: when a VM is asked for, the cloud sends the requests
with the parameters of the VM, as far as they can be made, and no others; and these parameters hold
the interface and all the security groups. -/
theorem createVm_launches {m : Manager} {cloud : Cloud} (own : m.backend = cloud.description)
    {request : VmRequest} {past : Trace} {params : CreateVmParams}
    (h : (m.createVm request).Poses past (.provider (.runInstance params))) :
    ∃ nic groups, m.Asks request past nic groups ∧
      (∀ now nonce, cloud.Expresses (cloud.launchQuery params now nonce) nic
        (groups.map (·.id.text))) ∧
      ∀ sent, (∃ web, Program.Poses (cloud.perform (.runInstance params)) web (.send sent)) ↔
        ∃ now nonce, Http.prepare .get (cloud.signed (cloud.launchQuery params now nonce)) none "" =
          .ok sent := by
  obtain ⟨fresh, roles, groups, image, pair, classified, prepared, rfl⟩ := prepared_of_poses h
  obtain ⟨name, entry, primary, connects⟩ := NetworkRoles.nic_of_classify classified
  obtain ⟨existing, listed, resolved⟩ := prepared.resolved
  have asks : m.Asks request past roles.nic groups := by
    refine ⟨⟨name, entry, primary, connects⟩, existing, _, listed, ?_, fun group => ?_, resolved⟩
    · exact NetworkRoles.ascending_securityGroups classified _
    · exact NetworkRoles.mem_securityGroups classified _
  refine ⟨roles.nic, groups, asks, fun now nonce => ?_, fun sent => Cloud.sends_launch_iff⟩
  refine Cloud.expresses_launchQuery now nonce (fun limit hl => ?_) connects.netId_of_fixedIp
  rw [← own] at hl
  show (groups.map (·.id.text)).length ≤ limit
  rw [List.length_map]
  exact prepared.limited limit hl

/-- A VM at QingCloud with a manual network and one security group, for which a request is sent. -/
theorem createVm_launches_manual :
    let cloud : Cloud := .qingcloud ⟨QingCloud.loopback.account, QingCloud.defaultInstanceTypes⟩
    let m : Manager := { small with backend := cloud.description }
    let entry : NetworkEntry := ⟨none, some "10.0.0.5", none, none, none, [],
      ⟨some "vxnet-1", ["web"], none, none, Dict.empty⟩, Dict.empty⟩
    let request : VmRequest := { VmRequest.small with networks := Dict.ofList [("private", entry)] }
    ∃ past params, m.backend = cloud.description ∧
      (m.createVm request).Poses past (.provider (.runInstance params)) ∧
      params.netId = some "vxnet-1" ∧ params.fixedIp = some "10.0.0.5" ∧
      params.securityGroups = ["sg-1"] ∧
      (∃ nic groups, m.Asks request past nic groups ∧
        (∀ now nonce, cloud.Expresses (cloud.launchQuery params now nonce) nic
          (groups.map (·.id.text))) ∧
        ∀ sent, (∃ web, Program.Poses (cloud.perform (.runInstance params)) web (.send sent)) ↔
          ∃ now nonce, Http.prepare .get (cloud.signed (cloud.launchQuery params now nonce)) none
            "" = .ok sent) ∧
      ∃ web sent, Program.Poses (cloud.perform (.runInstance params)) web (.send sent) := by
  intro cloud m entry request
  let past : Trace := [⟨.freshName, "1"⟩,
    ⟨.provider .listSecurityGroups, .ok [⟨⟨"sg-1"⟩, "web"⟩]⟩,
    ⟨.provider (.describeImage ⟨"image"⟩), .ok (some ⟨⟨"image"⟩, "stemcell"⟩)⟩,
    ⟨.provider (.listInstanceTypes "z"), .ok ["small"]⟩,
    ⟨.provider (.findKeyPairs "key"), .ok [⟨⟨"kp-1"⟩, "key", none⟩]⟩]
  have posed : (m.createVm request).Poses past (.provider (.runInstance _)) :=
    .later _ (.later _ (.later _ (.later _ (.later _ .now))))
  have own : m.backend = cloud.description := rfl
  obtain ⟨nic, groups, asks, expresses, sends⟩ := createVm_launches own posed
  have sent : ∃ sent web, Program.Poses (cloud.perform (.runInstance _)) web (.send sent) :=
    (QingCloud.exists_prepared_loopback "RunInstances" _ (by decide +kernel)).imp
      fun sent prepared => (sends sent).2 ⟨⟨0⟩, "", prepared⟩
  obtain ⟨sent, web, posing⟩ := sent
  exact ⟨past, _, own, posed, rfl, rfl, rfl, ⟨nic, groups, asks, expresses, sends⟩, web, sent,
    posing⟩

end Manager

end CloudLifecycle

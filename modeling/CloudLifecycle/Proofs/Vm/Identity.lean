import CloudLifecycle.Proofs.Json.Text
import CloudLifecycle.Proofs.Store.Effects
import CloudLifecycle.Proofs.Store.Stage
import CloudLifecycle.Proofs.Text.Bytes
import CloudLifecycle.Proofs.Vm.Creation
import CloudLifecycle.Proofs.Vm.Preparation

/-!
# The identity of a new VM

The name of a new VM goes three ways: into the parameters of the request for it, into the bootstrap
document that the VM reads, and into the key of its agent settings.  The VM finds its settings only
if the three agree.  A creation that succeeds has made them agree, and what the document and the
settings say besides is what was asked for (`Manager.createVm_identity`).
-/

set_option autoImplicit false

namespace CloudLifecycle

/-! ## The bootstrap document -/

namespace UserData

/-- What a VM makes of the text that it is handed. -/
def received? (text : String) : Option Json := do
  let bytes ← Base64.decode? text
  let document ← Text.decode? bytes
  (Json.parse document).toOption

/-- The document has these parts. -/
structure Conveys (document : Json) (endpoint name : String) (publicKey : Option String)
    (nameservers : Option (List String)) : Prop where
  registry : document.member? "registry" = some (.object [("endpoint", .text endpoint)])
  server : document.member? "server" = some (.object [("name", .text name)])
  openssh : document.member? "openssh" =
    publicKey.map fun key => .object [("public_key", .text key)]
  dns : document.member? "dns" =
    nameservers.map fun servers => .object [("nameserver", Json.texts servers)]

/-- The fields of a bootstrap document. -/
theorem exists_toJson (data : UserData) : ∃ fields, data.toJson = .object fields ∧
    Dict.DistinctKeys fields ∧
    Conveys (.object fields) data.registryEndpoint data.serverName data.publicKey
      data.nameservers := by
  refine ⟨_, rfl, ?_, ?_⟩
  · unfold Dict.DistinctKeys
    cases data.publicKey <;> cases data.nameservers <;> simp
  · constructor <;> cases data.publicKey <;> cases data.nameservers <;> rfl

theorem sorted_texts (items : List String) : (Json.texts items).sorted = Json.texts items := by
  unfold Json.texts
  rw [Json.sorted_list, List.map_map]
  rfl

theorem conveys_sorted (data : UserData) :
    Conveys data.toJson.sorted data.registryEndpoint data.serverName data.publicKey
      data.nameservers := by
  obtain ⟨fields, same, distinct, conveys⟩ := data.exists_toJson
  rw [same]
  constructor
  · rw [Json.member?_sorted distinct, conveys.registry]
    rfl
  · rw [Json.member?_sorted distinct, conveys.server]
    rfl
  · rw [Json.member?_sorted distinct, conveys.openssh]
    cases data.publicKey <;> rfl
  · rw [Json.member?_sorted distinct, conveys.dns]
    cases data.nameservers with
    | none => rfl
    | some servers =>
      show some (Json.ofFields [("nameserver", (Json.texts servers).sorted)]) = _
      rw [sorted_texts]
      rfl

theorem legible_texts (items : List String) : (Json.texts items).Legible := by
  refine Json.legibleItems_iff.2 fun item hi => ?_
  obtain ⟨text, _, rfl⟩ := List.mem_map.1 hi
  trivial

theorem depth_texts (items : List String) : (Json.texts items).depth ≤ 1 := by
  refine Nat.succ_le_succ (Json.depthItems_le_iff.2 fun item hi => ?_)
  obtain ⟨text, _, rfl⟩ := List.mem_map.1 hi
  exact Nat.le_refl 0

theorem legible_toJson (data : UserData) : data.toJson.Legible := by
  unfold toJson
  cases data.publicKey <;> cases data.nameservers <;>
    simp [Json.Legible, Json.LegibleFields, legible_texts]

theorem depth_toJson (data : UserData) : data.toJson.depth ≤ 3 := by
  unfold toJson
  cases data.nameservers with
  | none => cases data.publicKey <;> simp [Json.depth, Json.depthFields]
  | some servers =>
    have servers := depth_texts servers
    cases data.publicKey <;> simp [Json.depth, Json.depthFields] <;> omega

/-- **A VM receives the document that was made for it.** -/
theorem received?_encode (data : UserData) : received? data.encode = some data.toJson.sorted := by
  have shallow : data.toJson.depth ≤ Source.maxLevels := Nat.le_trans data.depth_toJson (by decide)
  have parsed : Json.parse data.render = .ok data.toJson.sorted :=
    Json.parse_render data.legible_toJson shallow
  unfold received? encode
  simp only [Base64.decode?_encode, Text.decode?_utf8, Option.bind_eq_bind, Option.bind_some,
    parsed]
  rfl

end UserData

namespace NetworkSpec

/-- The first list of DNS servers among the entries that is not empty. -/
inductive FirstDns : List (String × NetworkEntry) → Option (List String) → Prop where
  | nil : FirstDns [] none
  | here {name : String} {entry : NetworkEntry} {servers : List String}
      (h : entry.dns = some servers) (nonempty : servers ≠ [])
      (rest : List (String × NetworkEntry)) :
      FirstDns ((name, entry) :: rest) (some servers)
  | later {name : String} {entry : NetworkEntry} (h : entry.dns.getD [] = [])
      {rest : List (String × NetworkEntry)} {found : Option (List String)}
      (more : FirstDns rest found) : FirstDns ((name, entry) :: rest) found

/-- The DNS servers of a specification are those of the first entry that has any. -/
theorem firstDns_dnsServers (spec : NetworkSpec) : FirstDns spec.entries spec.dnsServers := by
  unfold dnsServers Dict.values
  induction spec.entries with
  | nil => exact .nil
  | cons e rest ih =>
    obtain ⟨name, entry⟩ := e
    rw [List.map_cons]
    cases given : entry.dns with
    | none =>
      rw [List.filterMap_cons_none given]
      exact .later (by rw [given]; rfl) ih
    | some servers =>
      rw [List.filterMap_cons_some given]
      cases servers with
      | nil => exact .later (by rw [given]; rfl) ih
      | cons server servers => exact .here given (by simp) rest

end NetworkSpec

namespace Manager

/-- The settings with which the agent of a new VM starts. -/
structure Starts (m : Manager) (request : VmRequest) (name : String) (settings : AgentSettings) :
    Prop where
  vmName : settings.vmName = name
  agentId : settings.agentId = request.agentId
  networks : settings.networks = request.networks
  env : settings.env = request.env
  disks : settings.disks =
    ⟨"/dev/sda", if m.options.ephemeralDisk then some "/dev/sdb" else none, Dict.empty⟩
  /-- The agent properties of the configuration, but none in the place of a section. -/
  extra : ∀ k, settings.extra.find? k =
    if k ∈ ["vm", "agent_id", "networks", "disks", "env"] then none
    else m.options.agentProperties.find? k

theorem starts_initialSettings (m : Manager) (request : VmRequest) (name : String) :
    m.Starts request name (m.initialSettings name request) := by
  unfold initialSettings
  refine ⟨?_, ?_, ?_, ?_, ?_, fun k => ?_⟩
  · cases m.options.ephemeralDisk <;> rfl
  · cases m.options.ephemeralDisk <;> rfl
  · cases m.options.ephemeralDisk <;> rfl
  · cases m.options.ephemeralDisk <;> rfl
  · cases m.options.ephemeralDisk <;> rfl
  · have none : (if m.options.ephemeralDisk = true then
        (AgentSettings.initial name request.agentId request.networks request.env).withEphemeralDisk
          Device.ephemeral
        else AgentSettings.initial name request.agentId request.networks request.env).extra =
          Dict.empty := by
      split <;> rfl
    dsimp only [AgentSettings.withAgentProperties]
    rw [Dict.find?_addNew, none, Dict.find?_empty, Option.none_or]
    show (m.options.agentProperties.entries.filter
      fun e => !AgentSettings.reservedKeys.contains e.1).lookup k = _
    rw [Dict.lookup_filter_key fun key => !AgentSettings.reservedKeys.contains key]
    by_cases reserved : k ∈ AgentSettings.reservedKeys
    · rw [if_neg (by simpa using reserved)]
      exact (if_pos reserved).symm
    · rw [if_pos (by simpa using reserved)]
      exact (if_neg reserved).symm

variable {m : Manager} {request : VmRequest} {trace : Trace} {before after : SettingsStore}

/-- All requests for a VM that a successful creation makes have the same parameters. -/
theorem params_unique {id : ResourceId} (h : (m.createVm request).Runs trace (.ok id)) :
    ∃ params, trace.CallsIn fun c => ∀ other, c = .runInstance other → other = params := by
  generalize hr : (Except.ok id : Except CpiError ResourceId) = result at h
  cases creation_of_runs h with
  | refused e _ | stillborn _ _ _ _ => cases hr
  | @booted prepared asked waited rest params created _ preparing accepted running configuring =>
    refine ⟨params, ?_⟩
    have first : prepared.CallsIn fun c => ∀ other, c = .runInstance other → other = params :=
      preparing.mono fun c hc other same => by
        subst same
        exact absurd hc (by simp [PreparingCall])
    have second : asked.CallsIn fun c => ∀ other, c = .runInstance other → other = params :=
      ((m.calls_call _).callsIn accepted).mono fun c hc other same =>
        ProviderCall.runInstance.inj (same.symm.trans hc)
    have third : waited.CallsIn fun c => ∀ other, c = .runInstance other → other = params :=
      ((m.calls_waitVm _ _).callsIn running).mono fun c hc other same => by
        rw [same] at hc
        cases hc
    have fourth : rest.CallsIn fun c => ∀ other, c = .runInstance other → other = params :=
      configuring.mono fun c hc other same => by
        subst same
        obtain ⟨vm, hc⟩ := hc
        exact absurd hc (by simp [NetworkCall])
    exact first.append (second.append (third.append fourth))

/-- **The three copies of a VM's identity agree**: after a creation that succeeds there is one name
that the request for the VM carried, that the VM received and under which its settings are stored;
and the document and the settings hold what was asked for. -/
theorem createVm_identity {id : ResourceId} (h : (m.createVm request).Runs trace (.ok id))
    (hs : before.Serves trace after) :
    ∃ name params, params.name = name ∧ ⟨.provider (.runInstance params), .ok id⟩ ∈ trace ∧
      (∀ other answer, ⟨.provider (.runInstance other), answer⟩ ∈ trace → other = params) ∧
      (∃ keyName, request.properties.keyName.or m.options.defaultKeyName = some keyName ∧
        trace.FirstReply (.findKeyPairs keyName) [params.keyPair]) ∧
      (∃ document nameservers, UserData.received? params.userData = some document ∧
        NetworkSpec.FirstDns request.networks.entries nameservers ∧
        UserData.Conveys document m.registryEndpoint name params.keyPair.publicKey nameservers) ∧
      ∃ settings, after.find? name = some settings ∧ m.Starts request name settings := by
  obtain ⟨only, unique⟩ := params_unique h
  cases createVm_effect h hs with
  | @created params _ asked =>
    obtain ⟨past, future, rfl⟩ := List.append_of_mem asked
    obtain ⟨fresh, roles, groups, image, pair, -, prepared, rfl⟩ := prepared_of_poses h.poses
    obtain ⟨keyName, named, matched⟩ := prepared.matched
    have same {other : CreateVmParams} {answer : ProviderResult ResourceId}
        (made : ⟨.provider (.runInstance other), answer⟩ ∈ past ++ _ :: future) : other = only :=
      (unique _ made _ rfl).resolve_left (by simp) other rfl
    refine ⟨_, _, rfl, asked, fun other answer made => ?_, ⟨keyName, named, matched.append _⟩,
      ⟨_, _, UserData.received?_encode _, request.networks.firstDns_dnsServers,
        UserData.conveys_sorted _⟩, ?_⟩
    · rw [same made, ← same asked]
    · exact ⟨_, by simp [SettingsStore.update], m.starts_initialSettings request _⟩

/-- The small manager with an agent property of its own and one in the place of a section. -/
def smallWithProperties : Manager := { small with options := { small.options with
  agentProperties := Dict.ofList [("ntp", .list [.text "ntp.example"]), ("vm", .null)] } }

end Manager

/-- The small request with an empty list of DNS servers before another one. -/
def VmRequest.smallWithDns : VmRequest := { VmRequest.small with
  networks := Dict.ofList [
    ("default", ⟨some "dynamic", none, none, none, some [], [], .empty, Dict.empty⟩),
    ("public", ⟨some "vip", some "198.51.100.4", none, none, some ["10.0.0.2"], [], .empty,
      Dict.empty⟩)] }

/-- The small stage with a public key and a floating address. -/
def Stage.smallWithKey : Stage := Stage.small [
  ("find_key_pairs", [⟨Duration.zero, false, .value (.list [.object [("name", .text "key"),
    ("public_key", .text "ssh-rsa AAAA")]])⟩]),
  ("describe_floating_ip", [⟨Duration.zero, false, .value (.object [])⟩])]

namespace Manager

theorem createVm_identity_small :
    ∃ trace before after,
      (smallWithProperties.createVm .smallWithDns).Runs trace (.ok ⟨"i-1"⟩) ∧
      SettingsStore.Serves before trace after ∧
      ∃ name params, params.name = name ∧
        ⟨.provider (.runInstance params), .ok ⟨"i-1"⟩⟩ ∈ trace ∧
        (∀ other answer, ⟨.provider (.runInstance other), answer⟩ ∈ trace → other = params) ∧
        (∃ keyName, (none : Option String).or (some "key") = some keyName ∧
          trace.FirstReply (.findKeyPairs keyName) [params.keyPair]) ∧
        (∃ document nameservers, UserData.received? params.userData = some document ∧
          NetworkSpec.FirstDns VmRequest.smallWithDns.networks.entries nameservers ∧
          UserData.Conveys document "http://registry" name params.keyPair.publicKey nameservers) ∧
        ∃ settings, after.find? name = some settings ∧
          smallWithProperties.Starts .smallWithDns name settings := by
  have run : (smallWithProperties.createVm .smallWithDns).Runs
      (Stage.surroundings.events (smallWithProperties.createVm .smallWithDns).run
        Stage.smallWithKey) (.ok ⟨"i-1"⟩) :=
    Stage.runs_play (show (Stage.smallWithKey.play _).1 = some _ from rfl)
  have served := Stage.serves_events (smallWithProperties.createVm .smallWithDns).run
    Stage.smallWithKey
  exact ⟨_, _, _, run, served, createVm_identity run served⟩

end Manager

end CloudLifecycle

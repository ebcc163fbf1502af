import CloudLifecycle.Proofs.Backend.AtMostOnce
import CloudLifecycle.Proofs.QingCloud.Actions

/-!
# Addresses that are registered twice

Binding an address at QingCloud takes two actions: the address is registered at the router, and the
router takes the change.  Both are parts of one call to the backend, and it is the call that is
repeated.  So an address that was registered is registered again where the router refuses to take
the change because of the credentials or of too many requests, and only there
(`Manager.registered_again`).
-/

set_option autoImplicit false

namespace CloudLifecycle

open Program QingCloudAccount

/-- The step sends a request that registers an address at a router. -/
def QingCloud.Registers (cloud : QingCloud) : Outside → Prop
  | .web (.send sent) => cloud.account.Requests "AddRouterStatics" sent
  | _ => False

namespace Connection

variable {cloud : QingCloud} {registry : Registry}

theorem asks_registry (call : SettingsCall) :
    Asks (fun action => ¬cloud.Registers (.web action)) (registry.perform call) := by
  have sends {method : HttpMethod} {key body : String} :
      Asks (fun action => ¬cloud.Registers (.web action)) (registry.send method key body) :=
    (Http.asks_send fun _ prepared => not_requests_settings prepared).bind fun _ => .done _
  cases call <;> exact (sends.bind fun _ => .done _).bind fun _ => .done _

theorem asks_lookUp : Asks (fun action => ¬cloud.Registers (.web action)) Metadata.lookUp := by
  refine (Http.asks_send fun _ prepared => not_requests_metadata prepared).bind fun answer => ?_
  cases answer <;> exact .done _

/-- Only the call that binds an address sends a request that registers one. -/
theorem asks_handle {action : Action}
    (other : ∀ c, action = .provider c → c.mutation? ≠ some .bindAddress) :
    Asks (fun question => ¬cloud.Registers question)
      (handle ⟨.qingcloud cloud, registry⟩ action) := by
  cases action with
  | provider c =>
    refine asks_lift ((QingCloud.asks_perform (other c rfl)).mono fun question sends => ?_)
    cases question with
    | send sent =>
      obtain ⟨action, ne, requests⟩ := sends
      exact fun registers => ne (requests.unique registers)
    | now | freshName => exact id
  | settings call => exact asks_lift (asks_registry call)
  | lookUpSelf => exact asks_lift asks_lookUp
  | freshName => exact asks_lift (.request id)
  | recallSelf | rememberSelf _ | lockSelf | unlockSelf | sleep _ | clock | cancelled | abort =>
    exact .request id

/-- A request that registers an address is sent by a call that binds one. -/
theorem eq_of_registers {action : Action} {past : List (Event Outside Outside.Answer)}
    {posed : Outside} (h : Poses (handle ⟨.qingcloud cloud, registry⟩ action) past posed)
    (registers : cloud.Registers posed) :
    ∃ routerId vm ip, action = .provider (.bindStaticAddress routerId vm ip) := by
  by_contra none
  refine (asks_handle fun c same kind => none ?_).of_poses h registers
  cases c with
  | bindStaticAddress routerId vm ip => exact ⟨routerId, vm, ip, same⟩
  | _ => cases kind

end Connection

namespace Manager

variable {m : Manager} {cloud : QingCloud} {registry : Registry} {command : Command}
  {before after : List (Event Outside Outside.Answer)} {sent again : HttpRequest}
  {response : HttpResponse}

/-- What repairs a refusal comes after an answer that asks for a repetition. -/
theorem not_final_of_refusal {c : ProviderCall} {answer : ProviderResult c.Reply} {repair : Trace}
    (refusal : ProviderRefusal c answer repair) (other : c.mutation? ≠ some .attach) :
    ¬Retry.Final answer := by
  cases refusal with
  | refreshed text | limited text retryAfter span => exact id
  | conflict text attaching | unrefreshed text cause attaching => exact absurd attaching other

/-- **When an address is registered again.**  Whatever the command is and whatever is answered: if a
request that registers an address was accepted, another one is sent only if the request right after
it, by which the router takes the change, was refused as unauthorized or as one too many. -/
theorem registered_again
    (posed : Poses (Connection.online ⟨.qingcloud cloud, registry⟩ (m.perform command).run)
      (before ++ ⟨.web (.send sent), some response⟩ :: after) (.web (.send again)))
    (registered : cloud.account.Requests "AddRouterStatics" sent) (accepted : Accepted response)
    (repeated : cloud.account.Requests "AddRouterStatics" again) :
    ∃ now update refusal rest,
      after = ⟨.web .now, now⟩ :: ⟨.web (.send update), some refusal⟩ :: rest ∧
        cloud.account.Requests "UpdateRouters" update ∧ Refused refusal := by
  obtain ⟨trace, question, done, last, whole, handled, posing, asks⟩ := poses_refine_iff.1 posed
  obtain ⟨routerId, vm, ip, rfl⟩ := Connection.eq_of_registers asks repeated
  -- Nothing was sent yet for the call that is open, so the response belongs to one before.
  obtain ⟨own, _, rfl, ⟨⟩, opened⟩ := Connection.poses_lift_iff.1 asks
  have unsent : ⟨.web (.send sent), some response⟩ ∉ own.map Connection.outside := by
    intro made
    obtain ⟨⟨_, _⟩, member, ⟨⟩⟩ := List.mem_map.1 made
    exact QingCloud.unsent_of_poses_bindAddress opened repeated sent _ member
  obtain ⟨more, rfl, rfl⟩ : ∃ more, done = before ++ ⟨.web (.send sent), some response⟩ :: more ∧
      after = more ++ own.map Connection.outside := by
    rcases List.append_eq_append_iff.1 whole with ⟨_ | ⟨_, more⟩, front, rest⟩ | ⟨more, -, rest⟩
    · rw [List.nil_append] at rest
      exact absurd (rest ▸ List.mem_cons_self) unsent
    · obtain ⟨rfl, rfl⟩ := List.cons.inj rest
      exact ⟨more, front, rfl⟩
    · exact absurd (rest ▸ List.mem_append_right more List.mem_cons_self) unsent
  obtain ⟨earlier, asked, answer, later, left, right, rest, rfl, ran, rfl⟩ := handled.split
  obtain ⟨router, holder, address, rfl⟩ := Connection.eq_of_registers ran.poses registered
  -- The call before was made before a call of its kind, so its answer asked for a repetition.
  have made : ⟨.provider (.bindStaticAddress router holder address), answer⟩ ∈
      earlier ++ ⟨.provider (.bindStaticAddress router holder address), answer⟩ :: later := by simp
  obtain ⟨-, repair, refusal⟩ := (m.issues_perform command).refused_before posing rfl rfl made
  have asksAgain := not_final_of_refusal refusal (by simp [ProviderCall.mutation?])
  obtain ⟨events, course, binding⟩ := Connection.runs_lift_iff.1 ran
  obtain ⟨front, back, rfl, -, ends⟩ := List.map_eq_append_iff.1 course.symm
  obtain ⟨⟨_, _⟩, back, rfl, ⟨⟩, rfl⟩ := List.map_eq_cons_iff.1 ends
  obtain ⟨now, update, refusal, rfl, updates, refused⟩ :=
    QingCloud.refused_of_bindAddress binding registered accepted asksAgain
  exact ⟨now, update, refusal, rest ++ own.map Connection.outside, rfl, updates, refused⟩

end Manager

/-! ## A binding that is made twice -/

/-- Responses of the cloud: one VM with an address, no more than that all is well, and a refusal. -/
def HttpResponse.oneVm : HttpResponse := ⟨200, none, Text.utf8 ("\x7b\"ret_code\":0," ++
  "\"instance_set\":[\x7b\"instance_id\":\"i-1\",\"status\":\"running\"," ++
  "\"vxnets\":[\x7b\"vxnet_id\":\"vxnet-1\",\"private_ip\":\"10.0.0.5\"\x7d]\x7d]\x7d")⟩

def HttpResponse.done : HttpResponse := ⟨200, none, Text.utf8 "\x7b\"ret_code\":0\x7d"⟩

def HttpResponse.denied : HttpResponse :=
  ⟨200, none, Text.utf8 "\x7b\"ret_code\":1200,\"message\":\"denied\"\x7d"⟩

namespace QingCloudAccount

theorem readResponse_oneVm : readResponse QingCloudAnswer.vms .oneVm =
    .ok [⟨⟨"i-1"⟩, "", .running, some "10.0.0.5", [], none⟩] := by decide +kernel

theorem readResponse_groups : readResponse QingCloudAnswer.securityGroups .done = .ok [] := by
  decide +kernel

theorem readResponse_done : readResponse QingCloudAnswer.acknowledged .done = .ok () := by
  decide +kernel

theorem readResponse_denied : readResponse QingCloudAnswer.acknowledged .denied =
    .error (.api 1200 "denied") := by decide +kernel

theorem accepted_done : Accepted .done := by
  refine ⟨by decide, .object [("ret_code", .whole 0)], none, ?_, ?_⟩ <;> decide +kernel

end QingCloudAccount

namespace Manager

/-- A fixed address behind a router. -/
def boundNetwork : NetworkSpec := Dict.ofList [("default", ⟨some "manual", some "10.0.0.5", none,
  none, none, [], ⟨some "vxnet-1", [], some "rtr-1", none, Dict.empty⟩, Dict.empty⟩)]

/-- The networks of a VM are applied as far as a binding that is refused as unauthorized. -/
def bindingTrace : Trace := [
  ⟨.provider (.describeVm ⟨"i-1"⟩),
    .ok (some ⟨⟨"i-1"⟩, "", .running, some "10.0.0.5", [], none⟩)⟩,
  ⟨.provider .listSecurityGroups, .ok []⟩,
  ⟨.provider (.bindStaticAddress "rtr-1" ⟨"i-1"⟩ "10.0.0.5"), .error (.unauthorized "denied")⟩,
  ⟨.provider .refreshCredentials, .ok ()⟩]

/-- The router does not take the change, so the address is registered again. -/
theorem poses_registration : ∃ before sent update,
    QingCloud.loopback.account.Requests "AddRouterStatics" sent ∧
      Poses (Connection.online ⟨.qingcloud .loopback, ⟨"http://registry", "admin", "admin"⟩⟩
        (small.perform (.configureNetworks ⟨"i-1"⟩ boundNetwork)).run)
        (before ++ ⟨.web (.send sent), some HttpResponse.done⟩ ::
          [⟨.web .now, ⟨0⟩⟩, ⟨.web (.send update), some HttpResponse.denied⟩, ⟨.web .now, ⟨0⟩⟩])
        (.web (.send sent)) := by
  obtain ⟨describes, described⟩ := QingCloud.exists_prepared_loopback "DescribeInstances"
    ((QingCloud.only "instances" ⟨"i-1"⟩).set "verbose" "1") (by decide +kernel)
  obtain ⟨lists, listed⟩ := QingCloud.exists_prepared_loopback "DescribeSecurityGroups"
    (Query.empty.set "limit" "100") (by decide +kernel)
  obtain ⟨registers, registered⟩ := QingCloud.exists_prepared_loopback "AddRouterStatics"
    (QingCloud.bindingQuery "rtr-1" ⟨"i-1"⟩ "10.0.0.5") (by decide +kernel)
  obtain ⟨updates, updated⟩ := QingCloud.exists_prepared_loopback "UpdateRouters"
    (Query.empty.numbered "routers" ["rtr-1"]) (by decide +kernel)
  have posing : Poses (small.perform (.configureNetworks ⟨"i-1"⟩ boundNetwork)).run bindingTrace
      (.provider (.bindStaticAddress "rtr-1" ⟨"i-1"⟩ "10.0.0.5")) := by
    repeat apply Program.Poses.later
    exact .now
  have describing := QingCloud.runs_call described QingCloudAnswer.vms .oneVm
  have listing := QingCloud.runs_call listed QingCloudAnswer.securityGroups .done
  have binding := QingCloud.runs_bindAddress registered updated readResponse_done .denied
  rw [readResponse_oneVm] at describing
  rw [readResponse_groups] at listing
  rw [readResponse_denied] at binding
  have described : Runs (QingCloud.loopback.perform (.describeVm ⟨"i-1"⟩))
      [⟨.now, ⟨0⟩⟩, ⟨.send describes, some .oneVm⟩]
      (.ok (some ⟨⟨"i-1"⟩, "", .running, some "10.0.0.5", [], none⟩)) :=
    runs_bind_iff.2 ⟨_, [], _, rfl, describing, .done _⟩
  have again : Poses (QingCloud.loopback.bindAddress "rtr-1" ⟨"i-1"⟩ "10.0.0.5") [⟨.now, ⟨0⟩⟩]
      (.send registers) := poses_bind_iff.2 (.inl (QingCloud.poses_call registered _))
  have handled : Handled (Connection.handle
      ⟨.qingcloud .loopback, ⟨"http://registry", "admin", "admin"⟩⟩) bindingTrace _ :=
    .cons (Connection.runs_lift_iff.2 ⟨_, rfl, described⟩) <|
    .cons (Connection.runs_lift_iff.2 ⟨_, rfl, listing⟩) <|
    .cons (Connection.runs_lift_iff.2 ⟨_, rfl, binding⟩) <|
    .cons (Connection.runs_lift_iff.2 ⟨[], rfl, .done _⟩) .nil
  refine ⟨[⟨.web .now, ⟨0⟩⟩, ⟨.web (.send describes), some .oneVm⟩, ⟨.web .now, ⟨0⟩⟩,
    ⟨.web (.send lists), some .done⟩, ⟨.web .now, ⟨0⟩⟩], registers, updates, ⟨_, _, registered⟩, ?_⟩
  exact poses_refine_iff.2 ⟨bindingTrace, _, _, [⟨.web .now, ⟨0⟩⟩], rfl, handled, posing,
    Connection.poses_lift_iff.2 ⟨_, _, rfl, rfl, again⟩⟩

/-- The refusal of the router's change comes between the two requests. -/
theorem registered_again_denied : ∃ before after sent again,
    Poses (Connection.online ⟨.qingcloud .loopback, ⟨"http://registry", "admin", "admin"⟩⟩
        (small.perform (.configureNetworks ⟨"i-1"⟩ boundNetwork)).run)
      (before ++ ⟨.web (.send sent), some HttpResponse.done⟩ :: after) (.web (.send again)) ∧
    QingCloud.loopback.account.Requests "AddRouterStatics" sent ∧
    QingCloud.loopback.account.Requests "AddRouterStatics" again ∧
    ∃ now update refusal rest,
      after = ⟨.web .now, now⟩ :: ⟨.web (.send update), some refusal⟩ :: rest ∧
        QingCloud.loopback.account.Requests "UpdateRouters" update ∧ Refused refusal := by
  obtain ⟨before, sent, update, registers, posed⟩ := poses_registration
  exact ⟨before, _, sent, sent, posed, registers, registers,
    registered_again posed registers accepted_done registers⟩

/-- An address that was registered is registered again in the same change of networks. -/
theorem registered_twice : ¬∀ before after sent response again,
    Poses (Connection.online ⟨.qingcloud .loopback, ⟨"http://registry", "admin", "admin"⟩⟩
        (small.perform (.configureNetworks ⟨"i-1"⟩ boundNetwork)).run)
      (before ++ ⟨.web (.send sent), some response⟩ :: after) (.web (.send again)) →
    QingCloud.loopback.account.Requests "AddRouterStatics" sent → Accepted response →
    ¬QingCloud.loopback.account.Requests "AddRouterStatics" again := by
  intro once
  obtain ⟨before, sent, update, registers, posed⟩ := poses_registration
  exact once before _ sent .done sent posed registers accepted_done registers

end Manager

end CloudLifecycle

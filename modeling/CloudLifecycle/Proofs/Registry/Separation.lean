import CloudLifecycle.Proofs.Registry.Refinement
import CloudLifecycle.Proofs.Url.Literal

/-!
# Settings of different VMs

The registry finds settings by the path of a request.  The name of a VM is put into the URL as it
is, so the requests for two names have one path if a character in them is not kept in it: what is
written under one of the names is then read under the other (`Registry.read_of_path_eq`,
`Registry.read_update_shared`).  Names that stand for themselves in a path have paths of their own
below an endpoint without query and fragment, and what is changed under one of them is not seen
under the other (`Registry.read_update_apart`).
-/

set_option autoImplicit false

namespace CloudLifecycle

open Url (Literal Descends Stays Words)

namespace RegistryServer

variable {server : RegistryServer} {request : HttpRequest} {texts others : Dict String}

/-- A request changes the text under its own path only. -/
theorem find?_respond {path : String} (other : path ≠ request.url.path) :
    (server.respond request texts).2.find? path = texts.find? path := by
  unfold respond
  cases request.method with
  | get =>
    dsimp only
    split <;> rfl
  | put => exact (Dict.find?_insert ..).trans (if_neg other)
  | delete => exact (Dict.find?_erase ..).trans (if_neg other)

/-- What a registry gives depends on the text under the path of the request only. -/
theorem respond_congr (get : request.method = .get)
    (same : texts.find? request.url.path = others.find? request.url.path) :
    (server.respond request texts).1 = (server.respond request others).1 := by
  unfold respond
  rw [get, same]
  dsimp only
  split <;> rfl

end RegistryServer

namespace Registry

/-- The client of a registry sends this request for the settings under a key. -/
def Asks (registry : Registry) (method : HttpMethod) (key body : String) (request : HttpRequest) :
    Prop :=
  Http.prepare method (registry.settingsUrl key)
    (some (Http.basic registry.user registry.password)) body = .ok request

variable {registry : Registry} {server : RegistryServer} {key k body body' : String}
  {method method' : HttpMethod} {request request' : HttpRequest}

theorem Asks.method_body (h : registry.Asks method key body request) :
    request.method = method ∧ request.body = body := by
  obtain ⟨_, _, _, _, rfl⟩ := Http.prepare_eq_ok_iff.1 h
  exact ⟨rfl, rfl⟩

/-! ## Paths -/

theorem descends_settings (literal : Literal key.toList) :
    Descends (key ++ "/settings").toList ∧ Stays (key ++ "/settings").toList := by
  have words : Words "settings".toList := Url.words_of_all rfl
  have behind : Words "/settings".toList := Url.words_of_all rfl
  rw [String.toList_append]
  exact ⟨literal.descends.append_slash words.descends,
    literal.stays_append (Url.stays_of_visible behind.visible) (by decide)⟩

/-- The paths of all literal names begin alike and end with the name. -/
theorem Asks.path_eq (h : registry.Asks method key body request)
    (unmarked : Unmarked registry.endpoint.toList) (literal : Literal key.toList) :
    ∃ base, Url.parse (registry.endpoint ++ "/instances" ++ "/") = .ok base ∧
      request.url.path =
        base.path ++ Url.escape Url.pathEscapes (key ++ "/settings").toList := by
  obtain ⟨full, parsed, -, sendable, rfl⟩ := Http.prepare_eq_ok_iff.1 h
  obtain ⟨special, web⟩ := Http.scheme_of_isSendable sendable
  obtain ⟨descends, stays⟩ := descends_settings literal
  have split : registry.settingsUrl key =
      registry.endpoint ++ "/instances" ++ "/" ++ (key ++ "/settings") := by
    have slash : "/instances/" = "/instances" ++ "/" := rfl
    rw [settingsUrl, slash]
    simp only [String.append_assoc]
  have inside : Url.EndsInside (registry.endpoint ++ "/instances") 's' :=
    ⟨by simp [String.toList_append], by decide, by decide, by decide⟩
  have clean : Unmarked (registry.endpoint ++ "/instances").toList := by
    rw [String.toList_append]
    exact unmarked_append_iff.2 ⟨unmarked, by decide⟩
  rw [split] at parsed
  obtain ⟨base, before, rfl⟩ :=
    Url.exists_extend_of_parse parsed special web inside clean descends stays
  exact ⟨base, before, (Http.takeCredentials_fst _).2.1⟩

/-- What extends a path can be told from the path. -/
theorem settings_inj {path : String} (literal : Literal key.toList) (literal' : Literal k.toList)
    (same : path ++ Url.escape Url.pathEscapes (key ++ "/settings").toList =
      path ++ Url.escape Url.pathEscapes (k ++ "/settings").toList) : key = k := by
  have mark {name : String} (literal : Literal name.toList) :
      '%' ∉ (name ++ "/settings").toList := by
    rw [String.toList_append, List.mem_append, not_or]
    exact ⟨literal.not_mem rfl, by decide⟩
  have paths := (String.toList_append ..).symm.trans
    ((congrArg String.toList same).trans (String.toList_append ..))
  have escaped := String.toList_injective (List.append_cancel_left paths)
  have names := Url.escape_inj (mark literal) (mark literal') escaped
  rw [String.toList_append, String.toList_append] at names
  exact String.toList_injective (List.append_cancel_right names)

/-- Literal names have paths of their own. -/
theorem eq_of_path_eq (h : registry.Asks method key body request)
    (h' : registry.Asks method' k body' request') (unmarked : Unmarked registry.endpoint.toList)
    (literal : Literal key.toList) (literal' : Literal k.toList)
    (same : request.url.path = request'.url.path) : key = k := by
  obtain ⟨base, parsed, path⟩ := h.path_eq unmarked literal
  obtain ⟨base', parsed', path'⟩ := h'.path_eq unmarked literal'
  obtain rfl := Except.ok.inj (parsed.symm.trans parsed')
  exact settings_inj literal literal' (path.symm.trans (same.trans path'))

/-! ## Runs -/

theorem Asks.run_send (h : registry.Asks method key body request) (server : RegistryServer)
    (texts : Dict String) : server.surroundings.run (registry.send method key body) texts =
      (some (.ok (server.respond request texts).1), (server.respond request texts).2) := by
  unfold Asks at h
  unfold send Http.send
  rw [h]
  rfl

/-- Either no request can be made, and nothing happens, or the registry answers it. -/
theorem run_send_cases (registry : Registry) (server : RegistryServer) (method : HttpMethod)
    (key body : String) :
    (∃ e, ∀ texts, server.surroundings.run (registry.send method key body) texts =
      (some (.error e), texts)) ∨
    ∃ request, registry.Asks method key body request := by
  cases prepared : Http.prepare method (registry.settingsUrl key)
      (some (Http.basic registry.user registry.password)) body with
  | error e =>
    left
    refine ⟨.request e, fun texts => ?_⟩
    unfold send Http.send
    rw [prepared]
    rfl
  | ok request => exact .inr ⟨request, prepared⟩

section Runs

variable {α : Type} (f : Except RegistryError HttpResponse → α) {texts others : Dict String}

/-- A request leaves the texts under all other paths as they are. -/
theorem find?_run_send {path : String}
    (other : ∀ request, registry.Asks method key body request → path ≠ request.url.path) :
    (server.surroundings.run (do return f (← registry.send method key body)) texts).2.find? path =
      texts.find? path := by
  rcases run_send_cases registry server method key body with ⟨e, ran⟩ | ⟨request, asks⟩
  · rw [run_map f (ran texts)]
  · rw [run_map f (asks.run_send server texts)]
    exact RegistryServer.find?_respond (other request asks)

/-- What is read depends on the text under the path of the request only. -/
theorem run_get_congr (same : ∀ request, registry.Asks .get k "" request →
      texts.find? request.url.path = others.find? request.url.path) :
    (server.surroundings.run (do return f (← registry.send .get k "")) texts).1 =
      (server.surroundings.run (do return f (← registry.send .get k "")) others).1 := by
  rcases run_send_cases registry server .get k "" with ⟨e, ran⟩ | ⟨request, asks⟩
  · rw [run_map f (ran texts), run_map f (ran others)]
  · rw [run_map f (asks.run_send server texts), run_map f (asks.run_send server others),
      RegistryServer.respond_congr asks.method_body.1 (same request asks)]

end Runs

/-- Settings that are written under one name are read under each name whose requests have the same
path. -/
theorem read_of_path_eq (server : RegistryServer) {settings : AgentSettings}
    (written : registry.Asks .put key settings.render request)
    (asks : registry.Asks .get k "" request') (same : request'.url.path = request.url.path)
    (storable : settings.Storable) (texts : Dict String) :
    (server.surroundings.run (registry.read k)
      (server.surroundings.run (registry.update key settings) texts).2).1 =
        some (.ok settings) := by
  obtain ⟨put, document⟩ := written.method_body
  have found : (server.respond request texts).2.find? request'.url.path =
      some settings.render := by
    unfold RegistryServer.respond
    rw [put, document, same]
    exact (Dict.find?_insert ..).trans (if_pos rfl)
  have response : (server.respond request' (server.respond request texts).2).1 =
      ⟨200, server.retryAfter request', Text.utf8 (server.document settings.render).render⟩ := by
    generalize (server.respond request texts).2 = later at found
    unfold RegistryServer.respond
    rw [asks.method_body.1, found]
  rw [update, run_map (fun result => result.bind (changeResponse false))
    (written.run_send server texts), read, run_map (fun result => result.bind (readResponse k))
    (asks.run_send server _), response]
  dsimp only [Except.bind]
  rw [readResponse_document storable]

/-! ## Names of VMs -/

/-- A registry on this machine. -/
def onThisMachine : Registry := ofEndpoint "http://[::1]:25777" "admin" "admin"

/-- The request for a URL on this machine has the credentials of the registry. -/
theorem asks_onThisMachine (key path : String) (query : Option String)
    (h : Http.prepare .get (onThisMachine.settingsUrl key) none "" =
      .ok ⟨.get, localBase.leading path query, none, ""⟩) (method : HttpMethod) (body : String) :
    onThisMachine.Asks method key body
      ⟨method, localBase.leading path query, some (Http.basic "admin" "admin"), body⟩ := by
  obtain ⟨full, parsed, hosted, sendable, same⟩ := Http.prepare_eq_ok_iff.1 h
  refine Http.prepare_eq_ok_iff.2 ⟨full, parsed, hosted, sendable, ?_⟩
  have own : localBase.leading path query = (Http.takeCredentials full).1 :=
    congrArg HttpRequest.url same
  rw [own, Option.some_or]
  rfl

/-- **Settings of different VMs.**  Below an endpoint without marks, requests for different literal
names have different paths, and what is written or removed under one name changes nothing of what is
read under the other. -/
theorem read_update_apart (registry : Registry) (server : RegistryServer) {key k : String}
    (unmarked : Unmarked registry.endpoint.toList) (literal : Literal key.toList)
    (literal' : Literal k.toList) (different : key ≠ k) :
    (∀ method method' body body' request request', registry.Asks method key body request →
      registry.Asks method' k body' request' → request.url.path ≠ request'.url.path) ∧
    (∀ settings texts, (server.surroundings.run (registry.read k)
        (server.surroundings.run (registry.update key settings) texts).2).1 =
      (server.surroundings.run (registry.read k) texts).1) ∧
    ∀ texts, (server.surroundings.run (registry.read k)
        (server.surroundings.run (registry.delete key) texts).2).1 =
      (server.surroundings.run (registry.read k) texts).1 := by
  have apart {method method' : HttpMethod} {body body' : String} {request request' : HttpRequest}
      (h : registry.Asks method key body request) (h' : registry.Asks method' k body' request') :
      request.url.path ≠ request'.url.path :=
    fun same => different (eq_of_path_eq h h' unmarked literal literal' same)
  refine ⟨fun _ _ _ _ _ _ => apart, fun settings texts => ?_, fun texts => ?_⟩
  · exact run_get_congr (fun result => result.bind (readResponse k)) fun request asks =>
      find?_run_send (fun result => result.bind (changeResponse false))
        fun _ written => (apart written asks).symm
  · exact run_get_congr (fun result => result.bind (readResponse k)) fun request asks =>
      find?_run_send (fun result => result.bind (changeResponse true))
        fun _ removed => (apart removed asks).symm

theorem read_update_apart_vms :
    Unmarked onThisMachine.endpoint.toList ∧ Literal "vm 1".toList ∧ Literal "vm-1".toList ∧
    "vm 1" ≠ "vm-1" ∧
    (RegistryServer.reticent.surroundings.run (onThisMachine.read "vm-1")
      (RegistryServer.reticent.surroundings.run
        (onThisMachine.update "vm 1" .annotated) Dict.empty).2).1 =
      some (.error (.notFound "vm-1")) := by
  have unmarked : Unmarked onThisMachine.endpoint.toList := by decide
  have literal : Literal "vm 1".toList := ⟨by decide, by decide, by decide⟩
  have literal' : Literal "vm-1".toList := ⟨by decide, by decide, by decide⟩
  refine ⟨unmarked, literal, literal', by decide, ?_⟩
  rw [(read_update_apart onThisMachine .reticent unmarked literal literal' (by decide)).2.1]
  have asks := asks_onThisMachine "vm-1" "/instances/vm-1/settings" none (by decide +kernel) .get ""
  rw [read, run_map (fun result => result.bind (readResponse "vm-1"))
    (asks.run_send .reticent Dict.empty)]
  rfl

/-- A space has the path of its own escape. -/
theorem read_update_shared :
    "vm 1" ≠ "vm%201" ∧
    (∃ request request', onThisMachine.Asks .put "vm 1" AgentSettings.annotated.render request ∧
      onThisMachine.Asks .get "vm%201" "" request' ∧ request.url.path = request'.url.path) ∧
    (RegistryServer.reticent.surroundings.run (onThisMachine.read "vm%201") Dict.empty).1 =
      some (.error (.notFound "vm%201")) ∧
    (RegistryServer.reticent.surroundings.run (onThisMachine.read "vm%201")
      (RegistryServer.reticent.surroundings.run
        (onThisMachine.update "vm 1" .annotated) Dict.empty).2).1 =
      some (.ok .annotated) := by
  have written := asks_onThisMachine "vm 1" "/instances/vm%201/settings" none (by decide +kernel)
    .put AgentSettings.annotated.render
  have asks := asks_onThisMachine "vm%201" "/instances/vm%201/settings" none (by decide +kernel)
    .get ""
  refine ⟨by decide, ⟨_, _, written, asks, rfl⟩, ?_,
    read_of_path_eq .reticent written asks rfl AgentSettings.annotated_storable Dict.empty⟩
  rw [read, run_map (fun result => result.bind (readResponse "vm%201"))
    (asks.run_send .reticent Dict.empty)]
  rfl

end Registry

end CloudLifecycle

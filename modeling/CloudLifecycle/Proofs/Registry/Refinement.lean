import CloudLifecycle.Proofs.Registry.Server
import CloudLifecycle.Proofs.Store.Serves
import Mathlib.Data.String.Basic

/-!
# The registry is a settings store

The client of a registry does for its callers what the store in memory does.  Both are given the
same operations; the texts of the registry mirror the settings of the store (`Registry.Mirrors`),
each operation has the same result on both sides and keeps it so (`Registry.run_perform`), and so
all results of a sequence of operations are the same (`Registry.refines_memory`).  The URL of a
request is limited in length, and beyond the limit nothing is sent (`Registry.perform_refused`).
-/

set_option autoImplicit false

namespace CloudLifecycle

/-- The URL of the settings under a key, below the one of an endpoint. -/
def Url.settingsOf (base : Url) (key : String) : Url :=
  base.extend ("instances/" ++ key ++ "/settings")

/-- Different keys have different paths. -/
theorem Url.path_settingsOf_inj {base : Url} {key k : String}
    (h : (base.settingsOf key).path = (base.settingsOf k).path) : key = k := by
  have same : (base.path ++ ("instances/" ++ key ++ "/settings")).toList =
      (base.path ++ ("instances/" ++ k ++ "/settings")).toList := congrArg String.toList h
  simp only [String.toList_append] at same
  have inner := List.append_cancel_right (List.append_cancel_left same)
  exact String.toList_injective (List.append_cancel_left inner)

/-- A URL is at least as long as the key in it. -/
theorem Url.length_le_settingsOf (base : Url) (key : String) :
    key.length ≤ (base.settingsOf key).text.utf8ByteSize := by
  have bytes : key.length ≤ key.utf8ByteSize := by
    rw [← String.utf8Len_toList, ← String.length_toList]
    induction key.toList with
    | nil => exact Nat.le_refl 0
    | cons c cs ih =>
      have one : 0 < c.utf8Size := c.utf8Size_pos
      rw [List.length_cons, String.utf8Len_cons]
      omega
  simp only [Url.text, Url.settingsOf, Url.extend, String.utf8ByteSize_append]
  omega

namespace SettingsStore

/-- The results of operations on the store in memory, one after another. -/
def performAll (store : SettingsStore) :
    List SettingsCall → List ((call : SettingsCall) × Except SettingsError call.Reply)
  | [] => []
  | call :: calls => ⟨call, (store.perform call).1⟩ :: (store.perform call).2.performAll calls

end SettingsStore

/-- The key is a word, and settings that are to be kept can be written and read back. -/
structure SettingsCall.Plain (call : SettingsCall) : Prop where
  word : ∀ c ∈ call.key.toList, Url.isWordChar c
  storable : ∀ key settings, call = .update key settings → settings.Storable

namespace Registry

/-- The results of operations on the registry, one after another. -/
def performAll (registry : Registry) : List SettingsCall →
    Web (List ((call : SettingsCall) × Except SettingsError call.Reply))
  | [] => pure []
  | call :: calls => do
    let result ← registry.perform call
    return ⟨call, result⟩ :: (← performAll registry calls)

/-- With a slash at its end the endpoint is this URL, and a request can be made for it; it has
neither query nor fragment. -/
structure IsAt (registry : Registry) (base : Url) : Prop where
  prepared : ∃ found, Http.prepare .get (registry.endpoint ++ "/") none "" =
    .ok ⟨.get, base, found, ""⟩
  query : base.query = none
  fragment : base.fragment = none

variable {registry : Registry} {base : Url} {server : RegistryServer} {key : String}

/-- The request about the settings under a key. -/
def request (registry : Registry) (base : Url) (method : HttpMethod) (key body : String) :
    HttpRequest :=
  ⟨method, base.settingsOf key, some (Http.basic registry.user registry.password), body⟩

/-- A request can be made for all keys whose URL is not too long. -/
theorem prepare_settingsUrl (h : registry.IsAt base) (word : ∀ c ∈ key.toList, Url.isWordChar c)
    (method : HttpMethod) (body : String) :
    Http.prepare method (registry.settingsUrl key)
        (some (Http.basic registry.user registry.password)) body =
      if (base.settingsOf key).text.utf8ByteSize ≤ Http.maxLength then
        .ok (registry.request base method key body)
      else .error (.unusable (base.settingsOf key)) := by
  obtain ⟨found, prepared⟩ := h.prepared
  have last : (registry.endpoint ++ "/").toList.getLast? = some '/' := by
    simp [String.toList_append]
  have words : Url.Words ("instances/" ++ key ++ "/settings").toList := by
    intro c hc
    simp only [String.toList_append, List.mem_append] at hc
    rcases hc with (hc | hc) | hc
    · have fixed : Url.Words "instances/".toList := Url.words_of_all rfl
      exact fixed c hc
    · exact .inl (word c hc)
    · have fixed : Url.Words "/settings".toList := Url.words_of_all rfl
      exact fixed c hc
  have url : registry.settingsUrl key =
      registry.endpoint ++ "/" ++ ("instances/" ++ key ++ "/settings") := by
    have split : "/instances/" = "/" ++ "instances/" := rfl
    rw [settingsUrl, split]
    simp only [String.append_assoc]
  rw [url, Http.prepare_append prepared last words h.query h.fragment]
  rfl

theorem run_send (server : RegistryServer) (h : registry.IsAt base)
    (word : ∀ c ∈ key.toList, Url.isWordChar c)
    (fits : (base.settingsOf key).text.utf8ByteSize ≤ Http.maxLength) (method : HttpMethod)
    (body : String) (texts : Dict String) :
    server.surroundings.run (registry.send method key body) texts =
      (some (.ok (server.respond (registry.request base method key body) texts).1),
        (server.respond (registry.request base method key body) texts).2) := by
  unfold send Http.send
  rw [prepare_settingsUrl h word, if_pos fits]
  rfl

/-- A result that is only changed is the one that was there. -/
theorem run_map {α β : Type} {p : Web α} {texts after : Dict String} {a : α} (f : α → β)
    (h : server.surroundings.run p texts = (some a, after)) :
    server.surroundings.run (do return f (← p)) texts = (some (f a), after) :=
  (Surroundings.Leads.of_run h).bind.run

/-- The texts of a registry mirror the settings of a store. -/
structure Mirrors (base : Url) (texts : Dict String) (store : SettingsStore) : Prop where
  texts : ∀ key : String, (∀ c ∈ key.toList, Url.isWordChar c) →
    texts.find? (base.settingsOf key).path = (store.find? key).map AgentSettings.render
  storable : ∀ s ∈ store.values, AgentSettings.Storable s

namespace Mirrors

variable {texts : Dict String} {store : SettingsStore} {settings : AgentSettings}

theorem empty : Mirrors base Dict.empty Dict.empty :=
  ⟨fun _ _ => rfl, fun _ hs => nomatch hs⟩

theorem update (h : Mirrors base texts store) (storable : settings.Storable) (key : String) :
    Mirrors base (texts.insert (base.settingsOf key).path settings.render)
      (store.update key settings) := by
  constructor
  · intro k word
    rw [Dict.find?_insert, SettingsStore.update, Dict.find?_insert]
    by_cases same : k = key
    · rw [same, if_pos rfl, if_pos rfl]
      rfl
    · rw [if_neg same, if_neg fun paths => same (Url.path_settingsOf_inj paths), h.texts k word]
  · intro s hs
    obtain ⟨k, found⟩ := Dict.mem_values_iff.1 hs
    rw [SettingsStore.update, Dict.find?_insert] at found
    split at found
    · exact Option.some.inj found ▸ storable
    · exact h.storable s (Dict.mem_values_iff.2 ⟨k, found⟩)

theorem delete (h : Mirrors base texts store) (key : String) :
    Mirrors base (texts.erase (base.settingsOf key).path) (store.delete key) := by
  constructor
  · intro k word
    rw [Dict.find?_erase, SettingsStore.delete, Dict.find?_erase]
    by_cases same : k = key
    · rw [same, if_pos rfl, if_pos rfl]
      rfl
    · rw [if_neg same, if_neg fun paths => same (Url.path_settingsOf_inj paths), h.texts k word]
  · intro s hs
    obtain ⟨k, found⟩ := Dict.mem_values_iff.1 hs
    rw [SettingsStore.delete, Dict.find?_erase] at found
    split at found
    · cases found
    · exact h.storable s (Dict.mem_values_iff.2 ⟨k, found⟩)

end Mirrors

variable {texts : Dict String} {store : SettingsStore}

theorem isSuccess_of_status {response : HttpResponse} (h : response.status = 200) :
    response.isSuccess = true := by
  simp [HttpResponse.isSuccess, Http.isSuccess, h]

/-- A response that holds settings is read as them. -/
theorem readResponse_document {settings : AgentSettings} (storable : settings.Storable)
    (server : RegistryServer) (key : String) (retryAfter : Option String) :
    readResponse key ⟨200, retryAfter, Text.utf8 (server.document settings.render).render⟩ =
      .ok settings := by
  unfold readResponse HttpResponse.text
  dsimp only
  rw [if_neg (by decide), if_pos (isSuccess_of_status rfl), Text.decodeLossy_utf8,
    decodeSettings_document storable]

/-- Reading gives the settings that the store has, or tells that it has none. -/
theorem readResponse_respond (registry : Registry) (server : RegistryServer)
    (mirrors : Mirrors base texts store) (word : ∀ c ∈ key.toList, Url.isWordChar c) :
    (server.respond (registry.request base .get key "") texts).2 = texts ∧
      (readResponse key (server.respond (registry.request base .get key "") texts).1).mapError
        RegistryError.toSettingsError = store.read key := by
  have held := mirrors.texts key word
  unfold SettingsStore.read RegistryServer.respond request
  cases found : store.find? key with
  | none =>
    rw [found] at held
    simp only [held, Option.map_none, true_and]
    rfl
  | some settings =>
    rw [found] at held
    have storable := mirrors.storable settings (Dict.mem_values_iff.2 ⟨key, found⟩)
    simp only [held, Option.map_some, true_and]
    rw [readResponse_document storable]
    rfl

theorem changeResponse_of_status {response : HttpResponse} {absentIsFine : Bool}
    (h : response.status = 200 ∨ absentIsFine = true ∧ response.status = 404) :
    changeResponse absentIsFine response = .ok () := by
  unfold changeResponse
  rcases h with h | ⟨fine, h⟩
  · simp [isSuccess_of_status h]
  · simp [fine, h]

/-- **One operation.**  It has the same result on the registry as in memory, and afterwards the
texts mirror the settings again. -/
theorem run_perform (server : RegistryServer) (h : registry.IsAt base)
    (mirrors : Mirrors base texts store) {call : SettingsCall} (plain : call.Plain)
    (fits : (base.settingsOf call.key).text.utf8ByteSize ≤ Http.maxLength) :
    ∃ after, server.surroundings.run (registry.perform call) texts =
        (some (store.perform call).1, after) ∧
      Mirrors base after (store.perform call).2 := by
  have ran {α : Type} (read : HttpResponse → Except RegistryError α) (method : HttpMethod)
      (body : String) :=
    run_map (fun result => result.mapError RegistryError.toSettingsError)
      (run_map (fun result => result.bind read)
        (run_send server h plain.word fits method body texts))
  cases call with
  | read key =>
    obtain ⟨still, same⟩ := readResponse_respond registry server mirrors plain.word
    exact ⟨_, (ran (readResponse key) .get "").trans (Prod.ext (congrArg some same) still), mirrors⟩
  | update key settings =>
    have confirmed : changeResponse false
        (server.respond (registry.request base .put key settings.render) texts).1 = .ok () :=
      changeResponse_of_status (.inl rfl)
    have same := congrArg (fun result => result.mapError RegistryError.toSettingsError) confirmed
    exact ⟨_, (ran (changeResponse false) .put settings.render).trans
      (Prod.ext (congrArg some same) rfl), mirrors.update (plain.storable key settings rfl) key⟩
  | delete key =>
    have status : (server.respond (registry.request base .delete key "") texts).1.status =
        if server.confirmsRemoval (registry.request base .delete key "") texts then 200 else 404 :=
      rfl
    have confirmed : changeResponse true
        (server.respond (registry.request base .delete key "") texts).1 = .ok () := by
      refine changeResponse_of_status ?_
      rw [status]
      split
      · exact .inl rfl
      · exact .inr ⟨rfl, rfl⟩
    have same := congrArg (fun result => result.mapError RegistryError.toSettingsError) confirmed
    exact ⟨_, (ran (changeResponse true) .delete "").trans (Prod.ext (congrArg some same) rfl),
      mirrors.delete key⟩

/-- Operations one after another have the same results on both sides, from mirrored states on. -/
theorem run_performAll (server : RegistryServer) (h : registry.IsAt base)
    (mirrors : Mirrors base texts store) {calls : List SettingsCall}
    (plain : ∀ call ∈ calls, call.Plain ∧
      (base.settingsOf call.key).text.utf8ByteSize ≤ Http.maxLength) :
    (server.surroundings.run (registry.performAll calls) texts).1 =
      some (store.performAll calls) := by
  induction calls generalizing texts store with
  | nil => rfl
  | cons call calls ih =>
    obtain ⟨⟨fine, fits⟩, more⟩ := List.forall_mem_cons.1 plain
    obtain ⟨after, ran, mirrored⟩ := run_perform server h mirrors fine fits
    have rest : server.surroundings.run (registry.performAll calls) after =
        (some ((store.perform call).2.performAll calls), _) := Prod.ext (ih mirrored more) rfl
    have first := (Surroundings.Leads.of_run ran).bind (f := fun result => do
      return (⟨call, result⟩ : (call : SettingsCall) × Except SettingsError call.Reply) ::
        (← registry.performAll calls))
    refine (congrArg Prod.fst first.run).trans ?_
    exact congrArg Prod.fst (run_map (fun results =>
      (⟨call, (store.perform call).1⟩ : (call : SettingsCall) × Except SettingsError call.Reply) ::
        results) rest)

theorem send_refused (h : registry.IsAt base) (word : ∀ c ∈ key.toList, Url.isWordChar c)
    (long : Http.maxLength < (base.settingsOf key).text.utf8ByteSize) (method : HttpMethod)
    (body : String) : registry.send method key body =
      pure (.error (.request (.unusable (base.settingsOf key)))) := by
  unfold send Http.send
  rw [prepare_settingsUrl h word, if_neg (by omega)]
  rfl

/-- **Beyond the limit** every operation fails, and nothing is sent. -/
theorem perform_refused (h : registry.IsAt base) {call : SettingsCall}
    (word : ∀ c ∈ call.key.toList, Url.isWordChar c)
    (long : Http.maxLength < (base.settingsOf call.key).text.utf8ByteSize) :
    registry.perform call = pure (.error
      (RegistryError.request (.unusable (base.settingsOf call.key))).toSettingsError) := by
  have refused := send_refused h word long
  cases call with
  | read key =>
    rw [SettingsCall.key] at refused
    rw [perform, read, refused]
    rfl
  | update key settings =>
    rw [SettingsCall.key] at refused
    rw [perform, update, refused]
    rfl
  | delete key =>
    rw [SettingsCall.key] at refused
    rw [perform, delete, refused]
    rfl

/-- Slashes at the end of an endpoint do not count. -/
theorem ofEndpoint_slashes (endpoint user password : String) (slashes : Nat) :
    ofEndpoint (endpoint ++ String.ofList (List.replicate slashes '/')) user password =
      ofEndpoint endpoint user password := by
  unfold ofEndpoint
  rw [String.toList_append, String.toList_ofList, List.reverse_append, List.reverse_replicate]
  congr 3
  induction slashes with
  | zero => rfl
  | succ slashes ih =>
    rw [List.replicate_succ, List.cons_append, List.dropWhile_cons]
    exact ih

/-- A URL on this machine. -/
def localBase : Url := ⟨"http", "", none, some (.ipv6 [0, 0, 0, 0, 0, 0, 0, 1]), some 25777, "/",
  none, none⟩

theorem isAt_local (user password : String) :
    (ofEndpoint "http://[::1]:25777" user password).IsAt localBase where
  prepared := by
    have read : Http.prepare .get ("http://[::1]:25777" ++ "/") none "" =
        .ok ⟨.get, localBase, none, ""⟩ := by decide +kernel
    exact ⟨none, read⟩
  query := rfl
  fragment := rfl

/-- One VM comes and goes. -/
def visit : List SettingsCall :=
  [.read "vm-1", .update "vm-1" .annotated, .read "vm-1", .delete "vm-1", .delete "vm-1",
    .read "vm-1"]

/-- A key of so many letters. -/
def letters (n : Nat) : String := String.ofList (List.replicate n 'a')

theorem length_letters (n : Nat) : (letters n).length = n := by
  rw [letters, String.length_ofList, List.length_replicate]

theorem isWordChar_letters (n : Nat) : ∀ c ∈ (letters n).toList, Url.isWordChar c := by
  intro c hc
  rw [letters, String.toList_ofList] at hc
  have letter : c = 'a' := List.eq_of_mem_replicate hc
  rw [letter]
  rfl

/-- **The registry is a settings store.**  Operations one after another have the same results on the
registry at an endpoint as in memory, however many slashes the endpoint ends in, as far as the URLs
of their requests are not too long. -/
theorem refines_memory (server : RegistryServer) {endpoint user password : String} {base : Url}
    (plain : (ofEndpoint endpoint user password).IsAt base) {calls : List SettingsCall}
    (words : ∀ call ∈ calls, call.Plain)
    (fits : ∀ call ∈ calls, (base.settingsOf call.key).text.utf8ByteSize ≤ Http.maxLength)
    (slashes : Nat) :
    (server.surroundings.run
      ((ofEndpoint (endpoint ++ String.ofList (List.replicate slashes '/')) user
        password).performAll calls) Dict.empty).1 =
      some (SettingsStore.performAll Dict.empty calls) := by
  rw [ofEndpoint_slashes]
  exact run_performAll server plain Mirrors.empty fun call hc => ⟨words call hc, fits call hc⟩

theorem refines_memory_visit :
    (ofEndpoint "http://[::1]:25777" "admin" "admin").IsAt localBase ∧
    (∀ call ∈ visit, call.Plain) ∧
    (∀ call ∈ visit, (localBase.settingsOf call.key).text.utf8ByteSize ≤ Http.maxLength) ∧
    (RegistryServer.reticent.surroundings.run
      ((ofEndpoint ("http://[::1]:25777" ++ String.ofList (List.replicate 2 '/')) "admin"
        "admin").performAll visit) Dict.empty).1 = some [
      ⟨.read "vm-1", .error (.notFound "vm-1")⟩, ⟨.update "vm-1" .annotated, .ok ()⟩,
      ⟨.read "vm-1", .ok .annotated⟩, ⟨.delete "vm-1", .ok ()⟩, ⟨.delete "vm-1", .ok ()⟩,
      ⟨.read "vm-1", .error (.notFound "vm-1")⟩] := by
  have plain : ∀ call ∈ visit, call.Plain := by
    intro call hc
    have key : call.key = "vm-1" := by
      simp only [visit, List.mem_cons, List.not_mem_nil, or_false] at hc
      rcases hc with rfl | rfl | rfl | rfl | rfl | rfl <;> rfl
    have word : ∀ c ∈ "vm-1".toList, Url.isWordChar c := List.all_eq_true.1 rfl
    refine ⟨key ▸ word, fun k settings same => ?_⟩
    subst same
    have stored : settings = .annotated := by
      simp only [visit, List.mem_cons, SettingsCall.update.injEq, reduceCtorEq, List.not_mem_nil,
        false_or, or_false] at hc
      exact hc.2
    exact stored ▸ AgentSettings.annotated_storable
  have fits : ∀ call ∈ visit,
      (localBase.settingsOf call.key).text.utf8ByteSize ≤ Http.maxLength := by decide
  exact ⟨isAt_local _ _, plain, fits,
    refines_memory .reticent (isAt_local "admin" "admin") plain fits 2⟩

theorem long_key_refused :
    (ofEndpoint "http://[::1]:25777" "admin" "admin").IsAt localBase ∧
    (SettingsCall.delete (letters 65535)).Plain ∧
    (RegistryServer.reticent.surroundings.run
      ((ofEndpoint "http://[::1]:25777" "admin" "admin").performAll [.delete (letters 65535)])
        Dict.empty).1 ≠ some (SettingsStore.performAll Dict.empty [.delete (letters 65535)]) := by
  have isAt := isAt_local "admin" "admin"
  have plain : (SettingsCall.delete (letters 65535)).Plain :=
    ⟨isWordChar_letters 65535, fun _ _ same => nomatch same⟩
  have long : Http.maxLength < (localBase.settingsOf (letters 65535)).text.utf8ByteSize := by
    have least := localBase.length_le_settingsOf (letters 65535)
    rw [length_letters] at least
    unfold Http.maxLength
    omega
  refine ⟨isAt, plain, fun same => ?_⟩
  rw [performAll, perform_refused isAt plain.word long] at same
  cases same

end Registry

end CloudLifecycle

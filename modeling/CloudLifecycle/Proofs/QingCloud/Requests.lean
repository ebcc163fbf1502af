import CloudLifecycle.Proofs.Url.Signed

/-!
# Requests to QingCloud

A request to QingCloud is known by its URL: it is for one action
(`QingCloudAccount.Requests.unique`), and no request to the registry or to the metadata service can
be taken for one.  Where a request can be made to the endpoint at all, one can be made for each
action whose parameters are not too long (`QingCloudAccount.exists_prepared`).
-/

set_option autoImplicit false

namespace CloudLifecycle

namespace QingCloudAccount

variable {account : QingCloudAccount} {action other : String} {sent : HttpRequest}

/-- The request is one for the action, with some parameters and at some time. -/
def Requests (account : QingCloudAccount) (action : String) (sent : HttpRequest) : Prop :=
  ∃ q now, Http.prepare .get (account.signedUrl action q now) none "" = .ok sent

/-! ## Telling requests apart -/

/-- The parameters of a request, with their signature. -/
def sentParameters (account : QingCloudAccount) (action : String) (q : Query) (now : Timestamp) :
    List (String × String) :=
  (Cloud.qingcloud ⟨account, Dict.empty⟩).sentParameters action q now ""

theorem signedUrl_eq (account : QingCloudAccount) (action : String) (q : Query) (now : Timestamp) :
    account.signedUrl action q now =
      account.endpoint ++ ("?" ++ Query.listed (account.sentParameters action q now)) :=
  Cloud.signedUrl_qingcloud ⟨account, Dict.empty⟩ action q now ""

/-- The URL of a request ends with its parameters. -/
theorem Requests.tail (h : account.Requests action sent) : ∃ q now front,
    sent.url.tail.toList =
      front ++ '?' :: (Query.listed (account.sentParameters action q now)).toList := by
  obtain ⟨q, now, prepared⟩ := h
  rw [signedUrl_eq] at prepared
  obtain ⟨front, ends⟩ := Http.tail_of_prepare_query prepared (Query.queryText_listed _)
  exact ⟨q, now, front.toList, by simp [ends, String.toList_append]⟩

/-- What follows the last mark is found again. -/
theorem eq_of_last_mark {front start xs ys : List Char} {mark : Char} (hx : mark ∉ xs)
    (hy : mark ∉ ys) (same : front ++ mark :: xs = start ++ mark :: ys) : xs = ys := by
  rcases List.append_eq_append_iff.1 same with ⟨more, -, rest⟩ | ⟨more, -, rest⟩
  · cases more with
    | nil => exact (List.cons.inj rest).2
    | cons c more =>
      rw [(List.cons.inj rest).2] at hx
      simp at hx
  · cases more with
    | nil => exact (List.cons.inj rest).2.symm
    | cons c more =>
      rw [(List.cons.inj rest).2] at hy
      simp at hy

/-- The action is one of the parameters. -/
theorem find?_action (account : QingCloudAccount) (action : String) (q : Query) (now : Timestamp) :
    (account.complete action q now).find? "action" = some action :=
  (Cloud.qingcloud ⟨account, Dict.empty⟩).find?_complete action q now "" "action"

/-- **A request is for one action.** -/
theorem Requests.unique (h : account.Requests action sent) (ho : account.Requests other sent) :
    action = other := by
  obtain ⟨q, now, front, ends⟩ := h.tail
  obtain ⟨q', now', front', ends'⟩ := ho.tail
  have clean (pairs : List (String × String)) : '?' ∉ (Query.listed pairs).toList :=
    (Query.unmarked_listed pairs).not_mem rfl
  have read := congrArg Query.read (eq_of_last_mark (clean _) (clean _) (ends.symm.trans ends'))
  rw [Query.read_listed, Query.read_listed] at read
  have parameters := Option.some.inj read
  have entries : (account.complete action q now).params.entries =
      (account.complete other q' now').params.entries :=
    (List.append_inj' parameters (by simp only [List.length_singleton])).1
  have own := account.find?_action action q now
  rw [Query.find?, Dict.find?_eq_some_iff, entries, ← Dict.find?_eq_some_iff] at own
  exact Option.some.inj (own.symm.trans (account.find?_action other q' now'))

/-- A request for a path without a query is none to QingCloud. -/
theorem not_requests_path {method : HttpMethod} {s t : String} {authorization : Option String}
    {body : String} {c : Char} {us ws : List Char}
    (h : Http.prepare method (s ++ t) authorization body = .ok sent)
    (begins : t.toList = '/' :: c :: (us ++ '/' :: ws)) (visible : 0x20 < c.toNat)
    (inner : Url.isSlash true c = false) (text : Url.QueryText ws) (plain : '?' ∉ ws) :
    ¬account.Requests action sent := by
  intro requests
  obtain ⟨q, now, front, ends⟩ := requests.tail
  have slash : '/' ∉ (Query.listed (account.sentParameters action q now)).toList := by
    intro member
    rcases Query.mem_listed _ _ member with reserved | same | same | same
    · exact absurd reserved (by decide)
    · exact absurd same (by decide)
    · exact absurd same (by decide)
    · exact absurd same (by decide)
  rcases Http.tail_of_prepare_path h begins visible inner text plain with ⟨start, path⟩ | none
  · -- Behind its last slash the URL would have a question mark, or a slash behind the mark.
    rw [path, String.toList_append, String.toList_ofList] at ends
    rcases List.append_eq_append_iff.1 ends with ⟨more, -, rest⟩ | ⟨more, -, rest⟩
    · have member : '?' ∈ '/' :: ws := rest ▸ List.mem_append_right more List.mem_cons_self
      exact plain ((List.mem_cons.1 member).resolve_left (by decide))
    · have member : '/' ∈ '?' :: (Query.listed (account.sentParameters action q now)).toList :=
        rest ▸ List.mem_append_right more List.mem_cons_self
      exact slash ((List.mem_cons.1 member).resolve_left (by decide))
  · rw [none] at ends
    simp at ends

/-- A request to the registry is none to QingCloud. -/
theorem not_requests_settings {registry : Registry} {key : String} {method : HttpMethod}
    {authorization : Option String} {body : String}
    (h : Http.prepare method (registry.settingsUrl key) authorization body = .ok sent) :
    ¬account.Requests action sent := by
  have split : registry.settingsUrl key =
      registry.endpoint ++ ("/instances/" ++ key ++ "/settings") := by
    rw [Registry.settingsUrl]
    simp only [String.append_assoc]
  have begins : ("/instances/" ++ key ++ "/settings").toList =
      '/' :: 'i' :: ("nstances/".toList ++ key.toList ++ '/' :: "settings".toList) := by
    simp [String.toList_append]
  rw [split] at h
  exact not_requests_path h begins (by decide) (by decide) (by decide) (by decide)

/-- A request to the metadata service is none to QingCloud. -/
theorem not_requests_metadata {method : HttpMethod} {authorization : Option String} {body : String}
    (h : Http.prepare method Metadata.url authorization body = .ok sent) :
    ¬account.Requests action sent := by
  have split : Metadata.url = "http://169.254.169.254" ++ "/latest/meta-data/instance-id/" := rfl
  have begins : "/latest/meta-data/instance-id/".toList =
      '/' :: 'l' :: ("atest/meta-data/instance-id".toList ++ ['/']) := rfl
  rw [split] at h
  exact not_requests_path h begins (by decide) (by decide) (fun _ none => nomatch none) (by decide)

/-! ## Making requests -/

/-- A signature is short. -/
theorem utf8ByteSize_signature_le (secret message : String) :
    (Hmac.signature secret message).utf8ByteSize ≤ 512 := by
  have chars := Base64.length_encodeChars_le (Hmac.digest (Text.utf8 secret) (Text.utf8 message))
  have bytes := Text.utf8ByteSize_ofList_le
    (Base64.encodeChars (Hmac.digest (Text.utf8 secret) (Text.utf8 message)))
  have digest : (Hmac.digest (Text.utf8 secret) (Text.utf8 message)).length = 32 :=
    Sha256.length_digest _
  rw [Hmac.signature, Base64.encode]
  omega

/-- The query of a request is longer than the parameters that are signed, but not by much. -/
theorem utf8ByteSize_listed_le (account : QingCloudAccount) (action : String) (q : Query)
    (now : Timestamp) : (Query.listed (account.sentParameters action q now)).utf8ByteSize ≤
      (account.complete action q now).canonical.utf8ByteSize + 6155 := by
  have same := congrArg String.utf8ByteSize (account.signedUrl_eq action q now)
  have encoded := Text.utf8ByteSize_percentEncode_le (Hmac.signature account.secretAccessKey
    (account.signedText (account.complete action q now).canonical))
  have short := utf8ByteSize_signature_le account.secretAccessKey
    (account.signedText (account.complete action q now).canonical)
  have mark : "&signature=".utf8ByteSize = 11 := rfl
  simp only [signedUrl, String.utf8ByteSize_append, mark] at same
  omega

/-- **Where an action can be requested.**  If a request can be made to the endpoint, and this ends
in a slash and has neither query nor fragment, one can be made for each action, unless its
parameters are too long. -/
theorem exists_prepared {base : HttpRequest} (q : Query) (now : Timestamp)
    (h : Http.prepare .get account.endpoint none "" = .ok base)
    (last : account.endpoint.toList.getLast? = some '/') (query : base.url.query = none)
    (fragment : base.url.fragment = none)
    (fits : base.url.text.utf8ByteSize +
      (account.complete action q now).canonical.utf8ByteSize + 6156 ≤ Http.maxLength) :
    ∃ sent, Http.prepare .get (account.signedUrl action q now) none "" = .ok sent := by
  have listed := account.utf8ByteSize_listed_le action q now
  rw [signedUrl_eq]
  exact Http.exists_prepared_query h last (Query.queryText_listed _) query fragment (by omega)

end QingCloudAccount

/-- A cloud on this machine. -/
def QingCloud.loopback : QingCloud := ⟨⟨"http://[::1]/", "z", "k", "s"⟩, Dict.empty⟩

theorem QingCloud.exists_prepared_loopback (action : String) (q : Query)
    (fits : (loopback.account.complete action q ⟨0⟩).canonical.utf8ByteSize ≤ 50000) :
    ∃ sent, Http.prepare .get (loopback.account.signedUrl action q ⟨0⟩) none "" = .ok sent := by
  have base : Http.prepare .get loopback.account.endpoint none "" = .ok
      ⟨.get, ⟨"http", "", none, some (.ipv6 [0, 0, 0, 0, 0, 0, 0, 1]), none, "/", none, none⟩, none,
        ""⟩ := by decide +kernel
  have size : (Url.text ⟨"http", "", none, some (.ipv6 [0, 0, 0, 0, 0, 0, 0, 1]), none, "/", none,
      none⟩).utf8ByteSize = 13 := by decide +kernel
  refine QingCloudAccount.exists_prepared q ⟨0⟩ base (by decide) rfl rfl ?_
  rw [size, Http.maxLength]
  omega

end CloudLifecycle

import CloudLifecycle.Lifecycle.Online
import CloudLifecycle.Proofs.Url.Canonical
import CloudLifecycle.Proofs.Url.Readback

/-!
# URLs of signed requests

Both clouds sign the canonical text of the parameters with some lines before it, and send the
parameters with their signature.  The URL of a request is what it is sent to, a question mark and
the list of these parameters (`Cloud.signedUrl_eq`).
-/

set_option autoImplicit false

namespace CloudLifecycle

/-! ## The query of a signed URL -/

namespace Query

/-- A listed text has unreserved characters, escapes and the marks around parameters. -/
theorem mem_listed (pairs : List (String × String)) : ∀ c ∈ (listed pairs).toList,
    Text.isUnreserved c ∨ c = '%' ∨ c = '&' ∨ c = '=' := by
  have side (s : String) {c : Char} (hc : c ∈ (Text.percentEncode s).toList) :
      Text.isUnreserved c ∨ c = '%' ∨ c = '&' ∨ c = '=' :=
    ((Text.escaped_percentEncode s).mem hc).imp_right .inl
  rw [listed, String.toList_intercalate, List.map_map]
  refine forall_mem_intercalate (by simp) fun piece hp => ?_
  obtain ⟨e, -, rfl⟩ := List.mem_map.1 hp
  intro c hc
  rw [Function.comp_apply, toList_pairText, List.mem_append, List.mem_cons] at hc
  rcases hc with key | rfl | value
  · exact side e.1 key
  · simp
  · exact side e.2 value

theorem unmarked_listed (pairs : List (String × String)) : Unmarked (listed pairs).toList := by
  intro c hc
  rcases mem_listed pairs c hc with plain | rfl | rfl | rfl
  · exact isMark_eq_false (by decide) (by decide) plain
  · rfl
  · rfl
  · rfl

theorem queryText_listed (pairs : List (String × String)) :
    Url.QueryText (listed pairs).toList := by
  intro c hc
  rcases mem_listed pairs c hc with plain | rfl | rfl | rfl
  · simp [Url.isQueryChar, plain]
  · decide
  · decide
  · decide

theorem listed_append {pairs : List (String × String)} (some : pairs ≠ []) (e : String × String) :
    listed (pairs ++ [e]) = listed pairs ++ "&" ++ pairText e.1 e.2 := by
  induction pairs with
  | nil => exact absurd rfl some
  | cons first pairs ih =>
    have more : ((pairs ++ [e]).map fun e => pairText e.1 e.2) ≠ [] := by simp
    rw [listed, List.cons_append, List.map_cons, String.intercalate_cons_of_ne_nil more]
    cases pairs with
    | nil => rfl
    | cons next pairs =>
      have others : ((next :: pairs).map fun e => pairText e.1 e.2) ≠ [] := by simp
      rw [listed, List.map_cons, String.intercalate_cons_of_ne_nil others]
      have tail := ih (by simp)
      rw [listed, listed] at tail
      rw [tail]
      simp only [String.append_assoc]

theorem find?_assign (q : Query) (pairs : List (String × String)) (key : String) :
    (q.assign pairs).find? key = (pairs.reverse.lookup key).or (q.find? key) := by
  rw [find?, params_assign, Dict.find?_foldl_insert]
  rfl

/-- With different keys it does not matter in which order parameters are set. -/
theorem find?_assign_of_distinct {pairs : List (String × String)}
    (distinct : Dict.DistinctKeys pairs) (q : Query) (key : String) :
    (q.assign pairs).find? key = (pairs.lookup key).or (q.find? key) := by
  rw [find?_assign, ← Dict.find?_ofList, Dict.find?_ofList_of_distinct distinct]

end Query

namespace Url

/-- What stands before the query of a URL with a host. -/
def target (url : Url) (host : String) : String :=
  url.scheme ++ "://" ++ url.userinfo ++ host ++ url.path

theorem text_withQuery {url : Url} {host : String} (h : url.hostAndPort = some host)
    (query : String) : (url.withQuery query).text =
      url.target host ++ "?" ++ query ++ url.fragment.elim "" ("#" ++ ·) := by
  have own : (url.withQuery query).authority = "//" ++ url.userinfo ++ host := by
    have hosted : (url.withQuery query).hostAndPort = some host := h
    rw [authority, hosted]
    rfl
  have slashes : "://" = ":" ++ "//" := rfl
  rw [text, own, target, slashes]
  simp only [withQuery, Option.elim_some, String.append_assoc]

theorem unmarked_userinfo {url : Url} (h : url.Clean) : Unmarked url.userinfo.toList := by
  unfold userinfo
  split
  · exact unmarked_empty
  · simp only [String.toList_append, unmarked_append_iff]
    refine ⟨⟨h.username, ?_⟩, by decide⟩
    cases secret : url.password with
    | none => exact unmarked_empty
    | some password =>
      rw [Option.elim_some, String.toList_append, unmarked_append_iff]
      exact ⟨by decide, h.password password secret⟩

theorem Clean.visible_fragment {url : Url} (h : url.Clean) :
    ∀ f ∈ url.fragment, ∀ c ∈ f.toList, 0x20 < c.toNat := by
  intro f hf
  obtain ⟨cs, rfl⟩ := h.fragment f hf
  exact (kept_escape closed_fragment cs).visible closed_fragment

theorem unmarked_target {url : Url} (h : url.Clean) {host : String}
    (hosted : url.hostAndPort = some host) : Unmarked (url.target host).toList := by
  obtain ⟨name, found, rfl⟩ := Option.map_eq_some_iff.1 hosted
  have port : Unmarked (url.port.elim "" fun port => ":" ++ port.repr).toList := by
    cases url.port with
    | none => exact unmarked_empty
    | some port =>
      rw [Option.elim_some, String.toList_append, unmarked_append_iff]
      exact ⟨by decide, (Host.allowed_repr port).unmarked⟩
  have path := h.path (Option.isSome_of_eq_some found)
  simp only [target, String.toList_append, unmarked_append_iff]
  exact ⟨⟨⟨⟨h.scheme, by decide⟩, unmarked_userinfo h⟩, h.host name found, port⟩, path⟩

end Url

/-! ## The path of an endpoint -/

/-- What follows the first `://` of a text, and the whole text where there is none. -/
inductive AfterScheme : List Char → List Char → Prop where
  | scheme {before after : List Char}
      (first : ∀ b a, before ++ "://".toList ++ after = b ++ "://".toList ++ a →
        before.length ≤ b.length) :
      AfterScheme (before ++ "://".toList ++ after) after
  | bare {cs : List Char} (none : ∀ b a, cs ≠ b ++ "://".toList ++ a) : AfterScheme cs cs

/-- The path of an endpoint begins at the first slash behind its scheme, or is a slash. -/
inductive PathOf (endpoint : String) : String → Prop where
  | rooted {authority rest : List Char} (h : AfterScheme endpoint.toList (authority ++ '/' :: rest))
      (clean : '/' ∉ authority) : PathOf endpoint (String.ofList ('/' :: rest))
  | root {authority : List Char} (h : AfterScheme endpoint.toList authority)
      (clean : '/' ∉ authority) : PathOf endpoint "/"

namespace Text

/-- The first occurrence of a piece splits a text. -/
theorem splitFirst_eq_some {piece cs before after : List Char}
    (h : splitFirst piece cs = some (before, after)) :
    cs = before ++ piece ++ after ∧
      ∀ b a, cs = b ++ piece ++ a → before.length ≤ b.length := by
  induction cs generalizing before with
  | nil =>
    rw [splitFirst] at h
    split at h
    · rename_i empty
      obtain ⟨rfl, rfl⟩ := Prod.mk.inj (Option.some.inj h)
      rw [List.isEmpty_iff.1 empty]
      exact ⟨rfl, fun _ _ _ => Nat.zero_le _⟩
    · cases h
  | cons c cs ih =>
    rw [splitFirst] at h
    split at h
    · rename_i here
      obtain ⟨rfl, rfl⟩ := Prod.mk.inj (Option.some.inj h)
      obtain ⟨rest, whole⟩ := List.isPrefixOf_iff_prefix.1 here
      refine ⟨?_, fun _ _ _ => Nat.zero_le _⟩
      rw [← whole]
      simp
    · rename_i other
      obtain ⟨⟨front, rest⟩, found, pair⟩ := Option.map_eq_some_iff.1 h
      obtain ⟨rfl, rfl⟩ := Prod.mk.inj pair
      obtain ⟨whole, first⟩ := ih found
      refine ⟨by rw [whole]; rfl, ?_⟩
      intro b a split
      cases b with
      | nil =>
        refine absurd ?_ other
        rw [split, List.nil_append]
        exact List.isPrefixOf_iff_prefix.2 (List.prefix_append piece a)
      | cons d b =>
        have tail : cs = b ++ piece ++ a := (List.cons.inj split).2
        exact Nat.succ_le_succ (first b a tail)

theorem occursIn_append (piece before after : List Char) :
    occursIn piece (before ++ piece ++ after) := by
  induction before with
  | nil =>
    rw [List.nil_append]
    cases whole : piece ++ after with
    | nil => simp [occursIn, (List.append_eq_nil_iff.1 whole).1]
    | cons c rest =>
      have here : piece.isPrefixOf (c :: rest) :=
        List.isPrefixOf_iff_prefix.2 (whole ▸ List.prefix_append piece after)
      rw [occursIn, here, Bool.true_or]
  | cons c before ih =>
    rw [List.cons_append, List.cons_append, occursIn, ih, Bool.or_true]

theorem ne_of_splitFirst_eq_none {piece cs : List Char} (h : splitFirst piece cs = none)
    (before after : List Char) : cs ≠ before ++ piece ++ after := by
  rintro rfl
  have occurs := isSome_splitFirst piece (before ++ piece ++ after)
  rw [h, occursIn_append] at occurs
  cases occurs

end Text

namespace QingCloudAccount

/-- What follows the scheme begins with its part before the first slash. -/
theorem takeWhile_slash (cs : List Char) :
    '/' ∉ cs.takeWhile (· ≠ '/') ∧ (cs.dropWhile (· ≠ '/') = [] ∧ cs = cs.takeWhile (· ≠ '/') ∨
      ∃ rest, cs.dropWhile (· ≠ '/') = '/' :: rest ∧
        cs = cs.takeWhile (· ≠ '/') ++ '/' :: rest) := by
  have clean : '/' ∉ cs.takeWhile (· ≠ '/') := by
    intro member
    simpa using List.mem_takeWhile_imp member
  have whole := List.takeWhile_append_dropWhile (p := fun c => decide (c ≠ '/')) (l := cs)
  refine ⟨clean, ?_⟩
  cases found : cs.dropWhile (· ≠ '/') with
  | nil =>
    rw [found, List.append_nil] at whole
    exact .inl ⟨rfl, whole.symm⟩
  | cons c rest =>
    have slash : c = '/' := by
      have stop := List.head?_dropWhile_not (fun c => decide (c ≠ '/')) cs
      rw [found] at stop
      simpa using stop
    rw [found, slash] at whole
    rw [slash]
    exact .inr ⟨rest, rfl, whole.symm⟩

/-- The path that is signed is the path of the endpoint. -/
theorem pathOf_path (account : QingCloudAccount) : PathOf account.endpoint account.path := by
  obtain ⟨cs, after, path⟩ : ∃ cs, AfterScheme account.endpoint.toList cs ∧
      account.path = if cs.dropWhile (· ≠ '/') = [] then "/"
        else String.ofList (cs.dropWhile (· ≠ '/')) := by
    unfold path
    dsimp only
    cases found : Text.splitFirst "://".toList account.endpoint.toList with
    | none =>
      refine ⟨_, .bare (Text.ne_of_splitFirst_eq_none found), ?_⟩
      cases account.endpoint.toList.dropWhile (· ≠ '/') <;> rfl
    | some parts =>
      obtain ⟨before, after⟩ := parts
      obtain ⟨whole, first⟩ := Text.splitFirst_eq_some found
      refine ⟨after, ?_, ?_⟩
      · rw [whole] at first ⊢
        exact .scheme first
      · cases after.dropWhile (· ≠ '/') <;> rfl
  rw [path]
  obtain ⟨clean, ⟨none, whole⟩ | ⟨rest, found, whole⟩⟩ := takeWhile_slash cs
  · rw [if_pos none]
    rw [whole] at after
    exact .root after clean
  · rw [found, if_neg (List.cons_ne_nil '/' rest)]
    rw [whole] at after
    exact .rooted after clean

end QingCloudAccount

theorem HwCloudAccount.endpoint_of_ofSettings {settings : HwCloudSettings}
    {account : HwCloudAccount} (h : ofSettings settings = .ok account) :
    Url.parse settings.url = .ok account.endpoint ∧
      ∃ host, account.endpoint.hostAndPort = some host := by
  unfold ofSettings at h
  split at h
  · cases h
  · rename_i endpoint read
    split at h
    · rename_i hosted
      obtain rfl := Except.ok.inj h
      refine ⟨read, ?_⟩
      obtain ⟨text, found⟩ := Option.isSome_iff_exists.1 hosted
      obtain ⟨some, -⟩ := Option.filter_eq_some_iff.1 found
      obtain ⟨host, there, -⟩ := Option.map_eq_some_iff.1 some
      rw [Url.hostAndPort, there]
      exact ⟨_, rfl⟩
    · cases h

/-! ## Both clouds -/

namespace Cloud

/-- The parameter that carries the signature. -/
def signatureName : Cloud → String
  | .qingcloud _ => "signature"
  | .hwcloud _ => "Signature"

/-- The secret that requests are signed with. -/
def secret : Cloud → String
  | .qingcloud cloud => cloud.account.secretAccessKey
  | .hwcloud cloud => cloud.account.settings.secretKey

/-- The lines that are signed before the parameters. -/
def lines : Cloud → List String
  | .qingcloud cloud => ["GET", cloud.account.path]
  | .hwcloud cloud =>
    ["GET", cloud.account.endpoint.hostAndPort.getD "", cloud.account.endpoint.path]

/-- The parameters that every request has. -/
def systemParameters (action : String) (now : Timestamp) (nonce : String) :
    Cloud → List (String × String)
  | .qingcloud ⟨account, _⟩ => [
    ("action", action),
    ("zone", account.zone),
    ("access_key_id", account.accessKeyId),
    ("signature_method", "HmacSHA256"),
    ("signature_version", "1"),
    ("version", "1"),
    ("time_stamp", now.text)]
  | .hwcloud ⟨account, _, _⟩ => [
    ("Action", action),
    ("HWSAccessKeyId", account.settings.accessKeyId),
    ("RegionName", account.settings.regionName),
    ("Version", account.settings.version),
    ("SignatureMethod", account.settings.signatureMethod),
    ("SignatureVersion", account.settings.signatureVersion),
    ("SignatureNonce", nonce),
    ("Timestamp", now.text)]

/-- The URL of a request for an action. -/
def signedUrl (action : String) (q : Query) (now : Timestamp) (nonce : String) : Cloud → String
  | .qingcloud cloud => cloud.account.signedUrl action q now
  | .hwcloud cloud => cloud.account.signedUrl action q now nonce

/-- The endpoint can be sent to: the text of one has no query and no fragment, and the other was
read with a host. -/
def Addressed : Cloud → Prop
  | .qingcloud cloud => Unmarked cloud.account.endpoint.toList
  | .hwcloud cloud => HwCloudAccount.ofSettings cloud.account.settings = .ok cloud.account

/-- What a request is sent to, and the lines that are signed before the parameters. -/
inductive Heads : Cloud → String → List String → Prop where
  | qingcloud {cloud : QingCloud} {path : String} (h : PathOf cloud.account.endpoint path) :
      Heads (.qingcloud cloud) cloud.account.endpoint ["GET", path]
  | hwcloud {cloud : HwCloud} {host : String}
      (h : cloud.account.endpoint.hostAndPort = some host) :
      Heads (.hwcloud cloud) (cloud.account.endpoint.target host)
        ["GET", host, cloud.account.endpoint.path]

variable {cloud : Cloud}

theorem distinct_systemParameters (cloud : Cloud) (action : String) (now : Timestamp)
    (nonce : String) : Dict.DistinctKeys (cloud.systemParameters action now nonce) := by
  cases cloud with
  | qingcloud cloud =>
    show ["action", "zone", "access_key_id", "signature_method", "signature_version", "version",
      "time_stamp"].Nodup
    decide
  | hwcloud cloud =>
    show ["Action", "HWSAccessKeyId", "RegionName", "Version", "SignatureMethod",
      "SignatureVersion", "SignatureNonce", "Timestamp"].Nodup
    decide

theorem lookup_signatureName (cloud : Cloud) (action : String) (now : Timestamp) (nonce : String) :
    (cloud.systemParameters action now nonce).lookup cloud.signatureName = none := by
  cases cloud <;> rfl

/-- The parameters that are signed. -/
def complete (cloud : Cloud) (action : String) (q : Query) (now : Timestamp) (nonce : String) :
    Query :=
  q.assign (cloud.systemParameters action now nonce)

theorem find?_complete (cloud : Cloud) (action : String) (q : Query) (now : Timestamp)
    (nonce key : String) : (cloud.complete action q now nonce).find? key =
      ((cloud.systemParameters action now nonce).lookup key).or (q.find? key) :=
  Query.find?_assign_of_distinct (cloud.distinct_systemParameters action now nonce) q key

theorem entries_complete (cloud : Cloud) (action : String) (q : Query) (now : Timestamp)
    (nonce : String) : (cloud.complete action q now nonce).params.entries ≠ [] := by
  have filled (key value : String)
      (h : (cloud.systemParameters action now nonce).lookup key = some value) :
      (cloud.complete action q now nonce).params.entries ≠ [] := by
    have found := cloud.find?_complete action q now nonce key
    rw [h, Option.some_or, Query.find?, Dict.find?_eq_some_iff] at found
    exact List.ne_nil_of_mem found
  cases cloud with
  | qingcloud cloud => exact filled "action" action rfl
  | hwcloud cloud => exact filled "Action" action rfl

/-- The text of the parameters and their signature. -/
theorem listed_signed (cloud : Cloud) (action : String) (q : Query) (now : Timestamp)
    (nonce signature : String) :
    (cloud.complete action q now nonce).canonical ++ "&" ++ cloud.signatureName ++ "=" ++
        Text.percentEncode signature =
      Query.listed ((cloud.complete action q now nonce).params.entries ++
        [(cloud.signatureName, signature)]) := by
  have plain : Text.percentEncode cloud.signatureName = cloud.signatureName := by
    cases cloud with
    | qingcloud cloud => exact (by decide : Text.percentEncode "signature" = "signature")
    | hwcloud cloud => exact (by decide : Text.percentEncode "Signature" = "Signature")
  rw [Query.listed_append (cloud.entries_complete action q now nonce), Query.canonical_eq,
    Query.pairText, plain]
  simp only [String.append_assoc]

/-- The parameters that are sent: those that are signed and their signature. -/
def sentParameters (cloud : Cloud) (action : String) (q : Query) (now : Timestamp)
    (nonce : String) : List (String × String) :=
  (cloud.complete action q now nonce).params.entries ++ [(cloud.signatureName,
    Hmac.signature cloud.secret ("\n".intercalate
      (cloud.lines ++ [(cloud.complete action q now nonce).canonical])))]

/-- One cloud writes the parameters behind the text of its endpoint. -/
theorem signedUrl_qingcloud (cloud : QingCloud) (action : String) (q : Query) (now : Timestamp)
    (nonce : String) : (Cloud.qingcloud cloud).signedUrl action q now nonce =
      cloud.account.endpoint ++
        ("?" ++ Query.listed ((Cloud.qingcloud cloud).sentParameters action q now nonce)) := by
  obtain ⟨account, types⟩ := cloud
  have message (canonical : String) :
      "\n".intercalate ((Cloud.qingcloud ⟨account, types⟩).lines ++ [canonical]) =
        account.signedText canonical := by
    simp [lines, QingCloudAccount.signedText, String.intercalate_cons_of_ne_nil,
      String.append_assoc]
  have completed : account.complete action q now =
      (Cloud.qingcloud ⟨account, types⟩).complete action q now nonce := rfl
  have mark : "&signature=" = "&" ++ ("signature" ++ "=") := rfl
  rw [sentParameters, ← listed_signed, message, signedUrl, QingCloudAccount.signedUrl, completed,
    mark]
  simp only [signatureName, secret, String.append_assoc]

/-- The other one writes its endpoint with the parameters as the query. -/
theorem signedUrl_hwcloud (cloud : HwCloud) (action : String) (q : Query) (now : Timestamp)
    (nonce : String) : (Cloud.hwcloud cloud).signedUrl action q now nonce =
      (cloud.account.endpoint.withQuery
        (Query.listed ((Cloud.hwcloud cloud).sentParameters action q now nonce))).text := by
  obtain ⟨account, zone, types⟩ := cloud
  have message (canonical : String) :
      "\n".intercalate ((Cloud.hwcloud ⟨account, zone, types⟩).lines ++ [canonical]) =
        account.signedText canonical := by
    simp [lines, HwCloudAccount.signedText, String.intercalate_cons_of_ne_nil,
      String.append_assoc]
  have completed : account.complete action q now nonce =
      (Cloud.hwcloud ⟨account, zone, types⟩).complete action q now nonce := rfl
  have mark : "&Signature=" = "&" ++ ("Signature" ++ "=") := rfl
  rw [sentParameters, ← listed_signed, message, signedUrl, HwCloudAccount.signedUrl, completed,
    mark]
  simp only [signatureName, secret, String.append_assoc]

/-- What a request is sent to is followed by the parameters and their signature. -/
theorem signedUrl_eq (addressed : cloud.Addressed) (action : String) (q : Query) (now : Timestamp)
    (nonce : String) : ∃ (target : String) (fragment : Option String),
      cloud.Heads target cloud.lines ∧ Unmarked target.toList ∧
      (∀ f ∈ fragment, ∀ c ∈ f.toList, 0x20 < c.toNat) ∧
      cloud.signedUrl action q now nonce =
        target ++ ("?" ++ Query.listed (cloud.sentParameters action q now nonce) ++
          fragment.elim "" ("#" ++ ·)) := by
  cases cloud with
  | qingcloud cloud =>
    refine ⟨cloud.account.endpoint, none, .qingcloud cloud.account.pathOf_path, addressed,
      (fun _ none => nomatch none), ?_⟩
    rw [signedUrl_qingcloud, Option.elim_none, String.append_empty]
  | hwcloud cloud =>
    obtain ⟨read, host, hosted⟩ := HwCloudAccount.endpoint_of_ofSettings addressed
    have clean := Url.clean_of_parse read
    have own : (Cloud.hwcloud cloud).lines = ["GET", host, cloud.account.endpoint.path] := by
      rw [lines, hosted]
      rfl
    refine ⟨_, cloud.account.endpoint.fragment, own ▸ .hwcloud hosted,
      Url.unmarked_target clean hosted, clean.visible_fragment, ?_⟩
    rw [signedUrl_hwcloud, Url.text_withQuery hosted]
    simp only [String.append_assoc]

end Cloud

end CloudLifecycle

import CloudLifecycle.Http.Wire
import CloudLifecycle.Proofs.Digest.Hmac
import CloudLifecycle.Proofs.HwCloud.Requests

/-!
# Signed requests at their receiver

Whoever knows the secret checks a signed URL by its query alone: the parameter with the signature is
left out, and what the canonical text of the others is signed with, by the formulas of the keyed
digest (`Standard.signature`), has to be that parameter.  So it is, and the parameters are those of
the caller with those of the system (`Cloud.signedUrl_verifies`).

A server does not see the URL but the request that is made for it, whose path is the normal form of
what was written.  Its parameters are the same, and so is what else is signed if the endpoint is
requested as it is written (`Cloud.Straight`).
-/

set_option autoImplicit false

namespace CloudLifecycle

/-! ## What is received -/

namespace Url

/-- What stands before the query of a URL. -/
def targetOf (url : String) : String :=
  String.ofList (splitMark '?' (splitMark '#' url.toList).1).1

/-- The query of a URL, which the fragment does not belong to. -/
def queryOf (url : String) : List Char := (splitMark '?' (splitMark '#' url.toList).1).2.getD []

end Url

/-- What a server reads of a request. -/
structure Received where
  method : String
  host : String
  path : String
  parameters : List (String × String)
deriving DecidableEq

/-- Reads the first line of a request and the host that it is for. -/
def Received.ofRequest (request : HttpRequest) : Option Received := do
  let (path, query) := Url.splitMark '?' request.target.toList
  return ⟨request.method.text, request.url.hostAndPort.getD "", String.ofList path,
    ← Query.read (query.getD [])⟩

/-! ## Checking a signature -/

namespace Signed

section Definitions

variable (parameters : List (String × String))

/-- The parameters without the one of the name, as they are signed. -/
def canonicalWithout (name : String) : String :=
  (Query.mk (Dict.ofList (parameters.filter (·.1 ≠ name)))).canonical

/-- The parameters are those of the caller and of the system, each once and the latter instead of
the former where both have a name, besides the one of the given name. -/
structure Carries (name : String) (system : List (String × String)) (q : Query) : Prop where
  distinct : Dict.DistinctKeys parameters
  others : ∀ key value, key ≠ name → ((key, value) ∈ parameters ↔
    (system.lookup key).or (q.find? key) = some value)

/-- The one parameter of the name is the signature of some lines and the other parameters. -/
def Verifies (name secret : String) (lines : List String) : Prop :=
  parameters.filter (·.1 = name) = [(name, Standard.signature secret
    ("\n".intercalate (lines ++ [canonicalWithout parameters name])))]

end Definitions

variable {parameters : List (String × String)} {name secret : String}
  {system : List (String × String)} {c q : Query} {lines : List String}

/-- What was signed is found again. -/
theorem verifies_of_parameters (fresh : c.find? name = none)
    (own : parameters = c.params.entries ++
      [(name, Hmac.signature secret ("\n".intercalate (lines ++ [c.canonical])))]) :
    Verifies parameters name secret lines := by
  have others : ∀ e ∈ c.params.entries, e.1 ≠ name := by
    rintro e member rfl
    rw [Query.find?, Dict.find?_eq_some_iff.2 member] at fresh
    cases fresh
  have without : canonicalWithout parameters name = c.canonical := by
    have rest : parameters.filter (·.1 ≠ name) = c.params.entries := by
      rw [own, List.filter_append, List.filter_eq_self.2 (by simpa using others)]
      simp
    rw [canonicalWithout, rest, Dict.ofList_entries]
  rw [Verifies, without, own, Hmac.signature_eq, List.filter_append,
    List.filter_eq_nil_iff.2 (by simpa using others)]
  simp

theorem carries_of_parameters {signature : String} (fresh : c.find? name = none)
    (complete : ∀ key, c.find? key = (system.lookup key).or (q.find? key))
    (own : parameters = c.params.entries ++ [(name, signature)]) :
    Carries parameters name system q where
  distinct := by
    have absent : name ∉ c.params.keys := Dict.find?_eq_none_iff.1 fresh
    rw [own, Dict.DistinctKeys, List.map_append, List.nodup_append]
    refine ⟨c.params.nodup_keys, List.nodup_singleton _, ?_⟩
    intro key member other same
    rw [List.mem_singleton.1 same]
    rintro rfl
    exact absent member
  others := by
    intro key value other
    have foreign : (key, value) ∉ [(name, signature)] := by simp [other]
    rw [own, List.mem_append, or_iff_left foreign, ← complete, Query.find?,
      Dict.find?_eq_some_iff]

end Signed

/-! ## Requests and their URLs -/

/-- A URL is taken apart where it was put together. -/
theorem Url.splitMark_text {target query : String} (front : Unmarked target.toList)
    (inner : '#' ∉ query.toList) (fragment : Option String) :
    splitMark '?' (splitMark '#'
      (target ++ ("?" ++ query ++ fragment.elim "" ("#" ++ ·))).toList).1 =
        (target.toList, some query.toList) := by
  have sent : '#' ∉ target.toList ++ '?' :: query.toList := by
    simp [front.not_mem (c := '#') rfl, inner]
  have text : (target ++ ("?" ++ query ++ fragment.elim "" ("#" ++ ·))).toList =
      (target.toList ++ '?' :: query.toList) ++
        (fragment.map String.toList).elim [] ('#' :: ·) := by
    simp [String.toList_append, toList_elim "#" '#' rfl]
  rw [text, splitMark_elim sent, splitMark_append (front.not_mem (c := '?') rfl)]

/-- The credentials of a URL are not what it is sent to. -/
theorem Http.hostAndPort_takeCredentials (url : Url) :
    (takeCredentials url).1.hostAndPort = url.hostAndPort := by
  unfold takeCredentials
  cases credentials? url <;> rfl

/-- What is received of the request for a URL with a query. -/
theorem Received.ofRequest_eq {text query : String} {full : Url}
    {parameters : List (String × String)} (parsed : Url.parse text = .ok full)
    (special : Url.isSpecial full.scheme) (web : full.scheme ≠ "file")
    (own : full.query = some query) (read : Query.read query.toList = some parameters)
    (method : HttpMethod) (authorization : Option String) (body : String) :
    ofRequest ⟨method, (Http.takeCredentials full).1, authorization, body⟩ =
      some ⟨method.text, full.hostAndPort.getD "", full.path, parameters⟩ := by
  obtain ⟨-, path, sameQuery, -⟩ := Http.takeCredentials_fst full
  obtain ⟨cs, normal⟩ := (Url.normal_of_parse parsed special web).path
  obtain ⟨ts, slash, -, -⟩ := Url.exists_pathAfterHost cs
  have clean := Url.unmarked_pathAfterHost true cs
  rw [← normal] at slash clean
  have filled : full.path.isEmpty = false := by
    rw [Bool.eq_false_iff, Ne, String.isEmpty_iff]
    rintro empty
    rw [empty] at slash
    cases slash
  have target : HttpRequest.target ⟨method, (Http.takeCredentials full).1, authorization, body⟩ =
      full.path ++ ("?" ++ query) := by
    rw [HttpRequest.target, path, sameQuery, own, filled]
    rfl
  have split : Url.splitMark '?' (full.path ++ ("?" ++ query)).toList =
      (full.path.toList, some query.toList) := by
    rw [String.toList_append, String.toList_append]
    exact Url.splitMark_append (clean.not_mem rfl) query.toList
  simp only [ofRequest, target, split, Option.getD_some, read, String.ofList_toList,
    Http.hostAndPort_takeCredentials]
  rfl

namespace Cloud

/-- The lines that the receiver of a request finds before the parameters. -/
def linesOf (received : Received) : Cloud → List String
  | .qingcloud _ => [received.method, received.path]
  | .hwcloud _ => [received.method, received.host, received.path]

/-- The endpoint is requested as it is written.  The path in the text of one is the path that is
read there: it has no dots to follow and nothing to escape.  The other is held in its normal form,
so only its host has to be read from its text again. -/
def Straight : Cloud → Prop
  | .qingcloud cloud => ∃ url, Url.parse (cloud.account.endpoint ++ "?") = .ok url ∧
      url.path = cloud.account.path
  | .hwcloud cloud => ∃ host, cloud.account.endpoint.host = some host ∧
      Host.parse host.text.toList = .ok host

variable {cloud : Cloud} {action : String} {q : Query} {now : Timestamp} {nonce : String}

/-- At an endpoint in its normal form the URL that was written is requested. -/
theorem parse_signedUrl_hwcloud {cloud : HwCloud} {full : Url}
    (addressed : (Cloud.hwcloud cloud).Addressed) (straight : (Cloud.hwcloud cloud).Straight)
    (parsed : Url.parse ((Cloud.hwcloud cloud).signedUrl action q now nonce) = .ok full)
    (special : Url.isSpecial full.scheme) (web : full.scheme ≠ "file") :
    full = cloud.account.endpoint.withQuery
      (Query.listed ((Cloud.hwcloud cloud).sentParameters action q now nonce)) := by
  obtain ⟨read, -⟩ := HwCloudAccount.endpoint_of_ofSettings addressed
  obtain ⟨host, named, readable⟩ := straight
  rw [signedUrl_hwcloud] at parsed
  have split (url : Url) : url.text = url.scheme ++ ":" ++ (url.authority ++ url.path ++
      url.query.elim "" ("?" ++ ·) ++ url.fragment.elim "" ("#" ++ ·)) := by
    simp only [Url.text, String.append_assoc]
  have scheme : full.scheme = cloud.account.endpoint.scheme :=
    Url.scheme_of_parse_append read (split _ ▸ parsed)
  rw [scheme] at special web
  have normal := (Url.normal_of_parse read special web).withQuery
    (Query.queryText_listed ((Cloud.hwcloud cloud).sentParameters action q now nonce))
  exact Except.ok.inj (parsed.symm.trans (normal.parse_text named readable))

/-- **The request that is made for a signed URL** has the parameters of the URL, and the lines that
were signed if the endpoint is requested as it is written. -/
theorem exists_received (addressed : cloud.Addressed) {sent : HttpRequest}
    (prepared : Http.prepare .get (cloud.signedUrl action q now nonce) none "" = .ok sent) :
    ∃ received, Received.ofRequest sent = some received ∧
      received.parameters = cloud.sentParameters action q now nonce ∧
      (cloud.Straight → cloud.linesOf received = cloud.lines) := by
  obtain ⟨target, fragment, heads, front, visible, text⟩ :=
    signedUrl_eq addressed action q now nonce
  obtain ⟨full, parsed, -, sendable, rfl⟩ := Http.prepare_eq_ok_iff.1 prepared
  obtain ⟨special, web⟩ := Http.scheme_of_isSendable sendable
  obtain ⟨base, alone, own⟩ := Url.exists_parse_of_query (text ▸ parsed) special web front
    (Query.queryText_listed _) visible
  refine ⟨_, Received.ofRequest_eq parsed special web (congrArg Url.query own)
    (Query.read_listed _) .get _ "", rfl, fun straight => ?_⟩
  cases cloud with
  | qingcloud cloud =>
    obtain ⟨url, written, same⟩ := straight
    cases heads
    obtain rfl := Except.ok.inj (alone.symm.trans written)
    rw [linesOf, lines, own, ← same]
    rfl
  | hwcloud cloud =>
    rw [parse_signedUrl_hwcloud addressed straight parsed special web]
    rfl

/-- **Signed requests verify at their receiver.**  The query of a signed URL is read as the
parameters of the caller and of the system and one signature.  Whoever knows the secret finds this
signature again: it is that of the method, the host where it is signed, the path of the endpoint and
the canonical text of all other parameters.  If a request can be made for the URL, its receiver
reads the same parameters; it reads the same method, host and path if the endpoint is requested as
it is written.  A path with dots or with characters to escape is signed as it stands, but is
requested in its normal form. -/
theorem signedUrl_verifies (cloud : Cloud) (addressed : cloud.Addressed) (action : String)
    (q : Query) (unsigned : q.find? cloud.signatureName = none) (now : Timestamp)
    (nonce : String) :
    ∃ parameters lines,
      Query.read (Url.queryOf (cloud.signedUrl action q now nonce)) = some parameters ∧
      cloud.Heads (Url.targetOf (cloud.signedUrl action q now nonce)) lines ∧
      Signed.Carries parameters cloud.signatureName (cloud.systemParameters action now nonce) q ∧
      Signed.Verifies parameters cloud.signatureName cloud.secret lines ∧
      ∀ sent, Http.prepare .get (cloud.signedUrl action q now nonce) none "" = .ok sent →
        ∃ received, Received.ofRequest sent = some received ∧
          received.parameters = parameters ∧ (cloud.Straight → cloud.linesOf received = lines) := by
  have complete := cloud.find?_complete action q now nonce
  have fresh : (cloud.complete action q now nonce).find? cloud.signatureName = none := by
    rw [complete, lookup_signatureName, unsigned]
    rfl
  obtain ⟨target, fragment, heads, front, -, text⟩ := signedUrl_eq addressed action q now nonce
  have split := Url.splitMark_text front
    ((Query.unmarked_listed (cloud.sentParameters action q now nonce)).not_mem rfl) fragment
  rw [← text] at split
  refine ⟨cloud.sentParameters action q now nonce, cloud.lines, ?query, ?target, ?parameters,
    ?signature, fun sent prepared => exists_received addressed prepared⟩
  case query =>
    rw [Url.queryOf, split]
    exact Query.read_listed _
  case target =>
    rw [Url.targetOf, split, String.ofList_toList]
    exact heads
  case parameters => exact Signed.carries_of_parameters fresh complete rfl
  case signature => exact Signed.verifies_of_parameters fresh rfl

/-- A request to either cloud on this machine is verified by what is received of it. -/
theorem signedUrl_verifies_examples :
    (∃ sent received, Http.prepare .get ((Cloud.qingcloud .loopback).signedUrl "DescribeInstances"
        (Query.empty.set "zone" "&=#") ⟨0⟩ "") none "" = .ok sent ∧
      Received.ofRequest sent = some received ∧
      Signed.Carries received.parameters "signature"
        ((Cloud.qingcloud .loopback).systemParameters "DescribeInstances" ⟨0⟩ "")
        (Query.empty.set "zone" "&=#") ∧
      Signed.Verifies received.parameters "signature" "s"
        ((Cloud.qingcloud .loopback).linesOf received)) ∧
    (∃ sent received, Http.prepare .get ((Cloud.hwcloud .loopback).signedUrl "DescribeVolumes"
        (Query.empty.set "Name" "data disk") ⟨0⟩ "") none "" = .ok sent ∧
      Received.ofRequest sent = some received ∧
      Signed.Carries received.parameters "Signature"
        ((Cloud.hwcloud .loopback).systemParameters "DescribeVolumes" ⟨0⟩ "")
        (Query.empty.set "Name" "data disk") ∧
      Signed.Verifies received.parameters "Signature" "s"
        ((Cloud.hwcloud .loopback).linesOf received)) := by
  constructor
  · have addressed : (Cloud.qingcloud .loopback).Addressed := by
      show Unmarked QingCloud.loopback.account.endpoint.toList
      decide
    have straight : (Cloud.qingcloud .loopback).Straight :=
      ⟨⟨"http", "", none, some (.ipv6 [0, 0, 0, 0, 0, 0, 0, 1]), none, "/", some "", none⟩,
        by decide +kernel, by decide +kernel⟩
    obtain ⟨parameters, lines, -, -, carries, verifies, requested⟩ :=
      signedUrl_verifies (.qingcloud .loopback) addressed "DescribeInstances"
        (Query.empty.set "zone" "&=#") rfl ⟨0⟩ ""
    obtain ⟨sent, prepared⟩ := QingCloud.exists_prepared_loopback "DescribeInstances"
      (Query.empty.set "zone" "&=#") (by decide +kernel)
    obtain ⟨received, own, rfl, same⟩ := requested sent prepared
    exact ⟨sent, received, prepared, own, carries, same straight ▸ verifies⟩
  · have addressed : (Cloud.hwcloud .loopback).Addressed := by
      show HwCloudAccount.ofSettings _ = .ok _
      decide +kernel
    have straight : (Cloud.hwcloud .loopback).Straight := ⟨_, rfl, by decide +kernel⟩
    obtain ⟨parameters, lines, -, -, carries, verifies, requested⟩ :=
      signedUrl_verifies (.hwcloud .loopback) addressed "DescribeVolumes"
        (Query.empty.set "Name" "data disk") rfl ⟨0⟩ ""
    obtain ⟨sent, prepared⟩ := HwCloud.exists_prepared_loopback "DescribeVolumes"
      (Query.empty.set "Name" "data disk") (by decide +kernel)
    obtain ⟨received, own, rfl, same⟩ := requested sent prepared
    exact ⟨sent, received, prepared, own, carries, same straight ▸ verifies⟩

end Cloud

end CloudLifecycle

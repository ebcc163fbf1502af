import CloudLifecycle.Proofs.QingCloud.Requests

/-!
# Requests to HwCloud

The URL of a request to HwCloud is its endpoint with a query that is not much longer than the
parameters that are signed (`HwCloud.exists_signedUrl`), so that a request can be made for each
action whose parameters are not too long.
-/

set_option autoImplicit false

namespace CloudLifecycle.HwCloud

/-- The query of a request is longer than the parameters that are signed, but not by much. -/
theorem exists_signedUrl (cloud : HwCloud) {host : String}
    (hosted : cloud.account.endpoint.hostAndPort = some host)
    (bare : cloud.account.endpoint.fragment = none) (action : String) (q : Query) (now : Timestamp)
    (nonce : String) : ∃ t, Url.QueryText t.toList ∧
      cloud.account.signedUrl action q now nonce =
        cloud.account.endpoint.target host ++ ("?" ++ t) ∧
      t.utf8ByteSize ≤
        (cloud.account.complete action q now nonce).canonical.utf8ByteSize + 6155 := by
  let canonical := (cloud.account.complete action q now nonce).canonical
  let signature :=
    Hmac.signature cloud.account.settings.secretKey (cloud.account.signedText canonical)
  refine ⟨canonical ++ "&Signature=" ++ Text.percentEncode signature, ?text, ?url, ?size⟩
  case text =>
    have mark : "&Signature=" = "&" ++ ("Signature" ++ "=") := rfl
    have listed := (Cloud.hwcloud cloud).listed_signed action q now nonce signature
    rw [mark, ← String.append_assoc, ← String.append_assoc]
    exact listed ▸ Query.queryText_listed _
  case url =>
    have written := Url.text_withQuery hosted
      (canonical ++ "&Signature=" ++ Text.percentEncode signature)
    rw [bare, Option.elim_none, String.append_empty] at written
    exact written.trans (String.append_assoc ..)
  case size =>
    have mark : "&Signature=".utf8ByteSize = 11 := rfl
    have encoded := Text.utf8ByteSize_percentEncode_le signature
    have short : signature.utf8ByteSize ≤ 512 := QingCloudAccount.utf8ByteSize_signature_le _ _
    show _ ≤ canonical.utf8ByteSize + 6155
    rw [String.utf8ByteSize_append, String.utf8ByteSize_append]
    omega

/-- A cloud on this machine. -/
def loopback : HwCloud := ⟨⟨⟨"http://[::1]/", "k", "s", "r", "2", "HmacSHA256", "2"⟩,
  ⟨"http", "", none, some (.ipv6 [0, 0, 0, 0, 0, 0, 0, 1]), none, "/", none, none⟩⟩, none, []⟩

theorem exists_prepared_loopback (action : String) (q : Query)
    (fits : (loopback.account.complete action q ⟨0⟩ "").canonical.utf8ByteSize ≤ 50000) :
    ∃ sent, Http.prepare .get (loopback.account.signedUrl action q ⟨0⟩ "") none "" = .ok sent := by
  have base : Http.prepare .get "http://[::1]/" none "" =
      .ok ⟨.get, loopback.account.endpoint, none, ""⟩ := by decide +kernel
  have size : loopback.account.endpoint.text.utf8ByteSize = 13 := by decide +kernel
  have target : loopback.account.endpoint.target "[::1]" = "http://[::1]/" := by decide +kernel
  have hosted : loopback.account.endpoint.hostAndPort = some "[::1]" := by decide +kernel
  obtain ⟨t, text, url, short⟩ := loopback.exists_signedUrl hosted rfl action q ⟨0⟩ ""
  rw [url, target]
  refine Http.exists_prepared_query base (by decide) text rfl rfl ?_
  rw [size, Http.maxLength]
  omega

end CloudLifecycle.HwCloud

import CloudLifecycle.Proofs.Json.Text
import CloudLifecycle.Proofs.Runs.Playing
import CloudLifecycle.Proofs.Settings.Document
import CloudLifecycle.Proofs.Url.Below
import CloudLifecycle.Registry.Client
import CloudLifecycle.Rehearsal.Script
import CloudLifecycle.Settings.Store

/-!
# A registry that keeps texts

A `RegistryServer` keeps one text for each path of a request.  It gives a text inside a document,
takes a new one, and removes one; what else is in its answers is its own affair.  A document that
its client reads back is the one that was written (`Registry.decodeSettings_document`).
-/

set_option autoImplicit false

namespace CloudLifecycle

/-- What a registry decides on its own: the order of the two fields of a document, whether a removal
is confirmed or answered as one of something absent, and the rest of its answers. -/
structure RegistryServer where
  statusFirst : Bool
  confirmsRemoval : HttpRequest → Dict String → Bool
  remark : HttpRequest → List UInt8
  retryAfter : HttpRequest → Option String

namespace RegistryServer

/-- The answer that holds a text. -/
def document (server : RegistryServer) (text : String) : Json :=
  .object (if server.statusFirst then [("status", .text "ok"), ("settings", .text text)]
    else [("settings", .text text), ("status", .text "ok")])

/-- A response without a text. -/
def remarks (server : RegistryServer) (request : HttpRequest) (status : Nat) : HttpResponse :=
  ⟨status, server.retryAfter request, server.remark request⟩

/-- Answers a request and changes the texts. -/
def respond (server : RegistryServer) (request : HttpRequest) (texts : Dict String) :
    HttpResponse × Dict String :=
  match request.method with
  | .get =>
    match texts.find? request.url.path with
    | some text =>
      (⟨200, server.retryAfter request, Text.utf8 (server.document text).render⟩, texts)
    | none => (server.remarks request 404, texts)
  | .put => (server.remarks request 200, texts.insert request.url.path request.body)
  | .delete =>
    (server.remarks request (if server.confirmsRemoval request texts then 200 else 404),
      texts.erase request.url.path)

/-- The registry as surroundings of its clients. -/
def surroundings (server : RegistryServer) :
    Surroundings WebAction WebAction.Answer (Dict String) where
  answer
    | .send request, texts => (server.respond request texts).map (some ∘ some) id
    | .now, texts => (none, texts)
    | .freshName, texts => (none, texts)

/-- A registry that tells whether there was something to remove, and says nothing else. -/
def reticent : RegistryServer where
  statusFirst := true
  confirmsRemoval request texts := texts.contains request.url.path
  remark _ := []
  retryAfter _ := none

end RegistryServer

/-- The settings can be written as a text and read back: their keys stay apart, and their text is a
legible one without more nesting than may be read. -/
structure AgentSettings.Storable (s : AgentSettings) : Prop where
  wellFormed : s.WellFormed
  legible : s.toJson.Legible
  depth : s.toJson.depth ≤ Source.maxLevels

theorem AgentSettings.annotated_storable : annotated.Storable where
  wellFormed := (kept_of_decoder annotatedValue_ordered decoder_annotatedValue).1
  legible := by
    have written : annotated.toJson = .object [
        ("vm", .object [("name", .text "vm-1")]),
        ("agent_id", .text "agent-1"),
        ("networks", .object [("default", .object [
          ("dns", .list [.text "8.8.8.8"]),
          ("cloud_properties", .object [
            ("net_id", .text "vxnet-1"), ("tag", .object [("zone", .bool true)])]),
          ("mtu", .whole 1450)])]),
        ("disks", .object [("system", .text "/dev/sda"), ("persistent", .object [])]),
        ("env", .object [("bosh", .object [("tags", .list [.text "green"])])]),
        ("blobstore", .object [("options", .object [
          ("paths", .list [.text "/var", .null])])])] := rfl
    have number : Numeral.IsWord 1450 := by decide
    simp [written, Json.Legible, Json.LegibleFields, Json.LegibleItems, number]
  depth := by decide

namespace Registry

open Fields

/-- The text is found in the answer that holds it. -/
theorem answer_document (server : RegistryServer) (text : String) :
    answer.fromText (server.document text).render = .ok (some text) := by
  have legible : (server.document text).Legible := by
    unfold RegistryServer.document
    split <;> simp [Json.Legible, Json.LegibleFields]
  rw [Decoder.fromText_render legible]
  obtain ⟨fields, shape, distinct, held⟩ : ∃ fields, server.document text = .object fields ∧
      Dict.DistinctKeys fields ∧ fields.lookup "settings" = some (.text text) := by
    refine ⟨_, rfl, ?_, ?_⟩
    · split <;> simp [Dict.DistinctKeys]
    · split <;> simp [Dict.lookup_cons_if]
  rw [shape]
  refine (Decoder.record_eq_ok_iff (describes_field _ _ _ _) distinct).2 ⟨.text 126, rfl, ?_⟩
  dsimp only
  rw [held]
  rfl

/-- **A document that a registry gives is read as the settings that were written.** -/
theorem decodeSettings_document {s : AgentSettings} (h : s.Storable) (server : RegistryServer) :
    decodeSettings (server.document s.render).render = .ok s := by
  have read : AgentSettings.decoder (.text Source.maxLevels) s.toJson.toTree = .ok s :=
    AgentSettings.recovers h.wellFormed (AgentSettings.distinct_toJson h.wellFormed) rfl h.depth
  have text : AgentSettings.decoder.fromText s.render = .ok s := by
    rw [AgentSettings.render, Decoder.fromText_render h.legible, read]
  unfold decodeSettings
  rw [answer_document]
  simp only [Except.mapError, bind, Except.bind, text]

end Registry

end CloudLifecycle

import CloudLifecycle.Proofs.HwCloud.Requests
import CloudLifecycle.Proofs.HwCloud.Sets
import CloudLifecycle.Proofs.Json.Records
import CloudLifecycle.Proofs.Json.Text
import CloudLifecycle.Proofs.Runs.Verb

/-!
# Failures that HwCloud reports

An answer with a code reports a failure, and the code decides which one, whatever the status of the
response is.  The code is decoded together with the message, so it is not found where one of them
has not the form that is expected (`HwCloudAccount.apiError_object_iff`): a number in place of the
message is enough.  Then the status decides, and an action that gives nothing of interest counts as
done (`HwCloud.code_decides_iff`).
-/

set_option autoImplicit false

namespace CloudLifecycle

namespace Tree

variable {members : List (Option String × Tree)} {key : String}

/-- The text is an object with these members, and nothing is wrong with its form. -/
structure IsObject (text : String) (members : List (Option String × Tree)) : Prop where
  parsed : parse text = (.object members true, true)
  intact : intactFields members = true

theorem isObject_render {entries : List (String × Json)} (h : (Json.object entries).Legible) :
    IsObject (Json.object entries).render (Json.toFieldTrees entries) :=
  ⟨parse_render h, Json.intact_toFieldTrees entries⟩

/-- All keys have a value. -/
def Named (members : List (Option String × Tree)) : Prop :=
  ∀ member ∈ members, member.1.isSome = true

/-- What an object has under a key. -/
def under (key : String) (members : List (Option String × Tree)) : List Tree :=
  (members.filter fun member => member.1 = some key).map (·.2)

theorem named_nil : Named [] := fun _ none => nomatch none

theorem named_cons {name : Option String} {tree : Tree} :
    Named ((name, tree) :: members) ↔ name.isSome = true ∧ Named members :=
  List.forall_mem_cons

theorem under_cons (name : String) (tree : Tree) : under key ((some name, tree) :: members) =
    if name = key then tree :: under key members else under key members := by
  unfold under
  rw [List.filter_cons]
  by_cases same : name = key <;> simp [same]

/-- What is read of a text that may be missing or null, given all that is under its key. -/
inductive MaybeText : List Tree → Option String → Prop where
  | missing : MaybeText [] none
  | null : MaybeText [.null] none
  | text (s : String) : MaybeText [.text s] (some s)

theorem maybeText_some_iff {trees : List Tree} {s : String} :
    MaybeText trees (some s) ↔ trees = [.text s] := by
  constructor
  · rintro ⟨⟩
    rfl
  · rintro rfl
    exact .text s

end Tree

open CloudLifecycle.Tree

namespace Fields

variable {α : Type} {source : Source} {members rest : List (Option String × Tree)}
  {key name : String} {tree : Tree}

section Member

variable {fields : Fields α} {state : fields.State}

theorem takeAll_cons_of_none (other : fields.take source key tree state = none)
    (whole : tree.intact = true) :
    fields.takeAll source ((some key, tree) :: rest) state = fields.takeAll source rest state := by
  rw [takeAll, other]
  exact if_pos whole

theorem takeAll_cons_of_some {result : Except DecodeError fields.State}
    (own : fields.take source key tree state = some result) :
    fields.takeAll source ((some key, tree) :: rest) state =
      result.bind (fields.takeAll source rest) := by
  rw [takeAll, own]
  cases result <;> rfl

end Member

variable {d : Decoder α} {state : Option (Option α)} {a : Option α}

theorem take_maybe_of_ne (other : key ≠ name) :
    (maybe name d).take source key tree state = none := by
  simp [maybe, field, other]

theorem hasNames_maybe (name : String) (d : Decoder α) : (maybe name d).HasNames [name] :=
  hasNames_field name [] d.optional (some none) (some none)

/-- A field that was taken stays, and nothing else may be under its name. -/
theorem takeAll_maybe_some_iff (intact : intactFields members = true) :
    (maybe name d).takeAll source members (some a) = .ok state ↔
      Named members ∧ under name members = [] ∧ state = some a := by
  induction members with
  | nil =>
    constructor
    · intro h
      exact ⟨named_nil, rfl, (Except.ok.inj h).symm⟩
    · rintro ⟨-, -, rfl⟩
      rfl
  | cons member rest ih =>
    obtain ⟨key, tree⟩ := member
    obtain ⟨whole, fewer⟩ := Bool.and_eq_true_iff.1 intact
    cases key with
    | none => simp [takeAll, named_cons]
    | some key =>
      rw [named_cons, under_cons]
      by_cases own : key = name
      · have twice : (maybe name d).take source key tree (some a) =
            some (.error (.duplicateField name)) := by simp [maybe, field, own]
        rw [takeAll_cons_of_some twice]
        simp [own, Except.bind]
      · rw [takeAll_cons_of_none (take_maybe_of_ne own) whole, ih fewer]
        simp [own]

/-- A field that may be missing or null is decoded from the one thing that is under its name. -/
theorem takeAll_maybe_iff (intact : intactFields members = true) :
    (maybe name d).takeAll source members none = .ok state ↔
      Named members ∧ ((under name members = [] ∧ state = none) ∨
        ∃ tree a, under name members = [tree] ∧ d.optional source tree = .ok a ∧
          state = some a) := by
  induction members with
  | nil =>
    constructor
    · intro h
      exact ⟨named_nil, .inl ⟨rfl, (Except.ok.inj h).symm⟩⟩
    · rintro ⟨-, ⟨-, rfl⟩ | ⟨_, _, filled, -⟩⟩
      · rfl
      · cases filled
  | cons member rest ih =>
    obtain ⟨key, tree⟩ := member
    obtain ⟨whole, fewer⟩ := Bool.and_eq_true_iff.1 intact
    cases key with
    | none => simp [takeAll, named_cons]
    | some key =>
      rw [named_cons, under_cons]
      by_cases own : key = name
      · have taken : (maybe name d).take source key tree none =
            some ((d.optional source tree).map some) := by simp [maybe, field, own]
        rw [takeAll_cons_of_some taken]
        cases decoded : d.optional source tree with
        | error e => simp_all [Except.map, Except.bind]
        | ok a =>
          refine (takeAll_maybe_some_iff fewer).trans ?_
          simp_all
      · rw [takeAll_cons_of_none (take_maybe_of_ne own) whole, ih fewer]
        simp [own]

/-- **What a text that may be missing or null is read as**, in an object that is read as a text. -/
theorem makes_maybe_text_iff (intact : intactFields members = true) {text : Option String} :
    (maybe name Decoder.text).Makes source members text ↔
      Named members ∧ MaybeText (under name members) text := by
  constructor
  · rintro ⟨state, taken, finished⟩
    obtain ⟨named, ⟨empty, rfl⟩ | ⟨tree, a, single, decoded, rfl⟩⟩ :=
      (takeAll_maybe_iff intact).1 taken
    all_goals
      obtain rfl := Except.ok.inj finished
    · exact ⟨named, empty ▸ .missing⟩
    · refine ⟨named, single ▸ ?_⟩
      cases tree with
      | null => exact Except.ok.inj decoded ▸ .null
      | text s => exact Except.ok.inj decoded ▸ .text s
      | bool _ | whole _ | real _ | list _ _ | object _ _ | valueless | broken => cases decoded
  · rintro ⟨named, legible⟩
    generalize found : under name members = trees at legible
    cases legible with
    | missing => exact ⟨none, (takeAll_maybe_iff intact).2 ⟨named, .inl ⟨found, rfl⟩⟩, rfl⟩
    | null =>
      exact ⟨some none, (takeAll_maybe_iff intact).2 ⟨named, .inr ⟨_, _, found, rfl, rfl⟩⟩, rfl⟩
    | text s =>
      exact ⟨some (some s), (takeAll_maybe_iff intact).2 ⟨named, .inr ⟨_, _, found, rfl, rfl⟩⟩,
        rfl⟩

end Fields

/-! ## The answers -/

namespace HwCloudAccount

open Fields

variable {members : List (Option String × Tree)} {body code text : String}

/-- The members of an answer report a failure with this code and this text: the code is there once,
and the message, if there is one, is a text or null. -/
structure Reports (members : List (Option String × Tree)) (code text : String) : Prop where
  named : Named members
  coded : under "code" members = [.text code]
  message : ∃ message, MaybeText (under "message" members) message ∧ text = message.getD ""

/-- An object is decoded as the record that its members make. -/
theorem fromText_record_eq_ok_iff {α : Type} {name : String} {fields : Fields α}
    (object : IsObject body members) {a : α} :
    (Decoder.record name fields).fromText body = .ok a ↔
      fields.Makes (.text (Source.maxLevels - 1)) members a := by
  rw [Decoder.fromText, object.parsed]
  simp only [if_true, Decoder.bind_eq_ok_iff, Decoder.record_object_eq_ok_iff]
  constructor
  · rintro ⟨_, ⟨_, entered, made⟩, same⟩
    obtain rfl := Except.ok.inj entered
    exact Except.ok.inj same ▸ made
  · intro made
    exact ⟨a, ⟨_, rfl, made⟩, rfl⟩

/-- The code and the message are read if each of them can be. -/
theorem errorBody_eq_ok_iff (object : IsObject body members) {code message : Option String} :
    errorBody.fromText body = .ok (code, message) ↔
      Named members ∧ MaybeText (under "code" members) code ∧
        MaybeText (under "message" members) message := by
  have codes : (Prod.mk (β := Option String) <$> maybe "code" Decoder.text).HasNames ["code"] :=
    hasNames_maybe "code" Decoder.text
  have messages := hasNames_maybe "message" Decoder.text
  rw [errorBody, fromText_record_eq_ok_iff object]
  simp only [makes_seq_iff codes messages (by decide) object.intact, makes_map_iff,
    makes_maybe_text_iff object.intact]
  constructor
  · rintro ⟨_, _, ⟨_, ⟨named, first⟩, rfl⟩, ⟨-, second⟩, same⟩
    obtain ⟨rfl, rfl⟩ := Prod.mk.inj same
    exact ⟨named, first, second⟩
  · rintro ⟨named, first, second⟩
    exact ⟨_, _, ⟨_, ⟨named, first⟩, rfl⟩, ⟨named, second⟩, rfl⟩

/-- A failure is reported by a code that is not empty. -/
theorem apiError_eq_some_iff {e : HwCloudError} :
    apiError body = some e ↔ ∃ code message, errorBody.fromText body = .ok (some code, message) ∧
      code ≠ "" ∧ .api code (message.getD "") = e := by
  unfold apiError
  cases errorBody.fromText body with
  | error e => simp
  | ok found =>
    obtain ⟨_ | code, message⟩ := found
    · simp
    · by_cases empty : code = "" <;> simp [empty]

/-- **Which failure an object reports.** -/
theorem apiError_object_iff (object : IsObject body members) {e : HwCloudError} :
    apiError body = some e ↔
      ∃ code text, Reports members code text ∧ code ≠ "" ∧ .api code text = e := by
  simp only [apiError_eq_some_iff, errorBody_eq_ok_iff object]
  constructor
  · rintro ⟨code, message, ⟨named, coded, legible⟩, nonempty, rfl⟩
    exact ⟨code, _, ⟨named, maybeText_some_iff.1 coded, message, legible, rfl⟩, nonempty, rfl⟩
  · rintro ⟨code, _, ⟨named, coded, message, legible, rfl⟩, nonempty, rfl⟩
    exact ⟨code, message, ⟨named, maybeText_some_iff.2 coded, legible⟩, nonempty, rfl⟩

/-- The only code of an object is the one that it reports. -/
theorem Reports.code_eq (h : Reports members code text) {other : String}
    (member : (some "code", .text other) ∈ members) : code = other := by
  have found : Tree.text other ∈ under "code" members :=
    List.mem_map.2 ⟨_, List.mem_filter.2 ⟨member, by simp⟩, rfl⟩
  rw [h.coded, List.mem_singleton] at found
  exact (Tree.text.inj found).symm

/-- An object acknowledges an action if its id, where there is one, can be read. -/
theorem acknowledged_iff (object : IsObject body members) :
    HwCloudAnswer.acknowledged.fromText body = .ok () ↔
      Named members ∧ ∃ id, MaybeText (under "requestId" members) id := by
  rw [HwCloudAnswer.acknowledged, fromText_record_eq_ok_iff object]
  simp only [makes_map_iff, makes_maybe_text_iff object.intact]
  simp

variable {α : Type} {d : Decoder α} {response : HttpResponse}

/-- A failure that is reported is the outcome, whatever the status is. -/
theorem readResponse_of_reports (object : IsObject response.text members)
    (h : Reports members code text) (nonempty : code ≠ "") :
    readResponse d response = .error (.api code text) := by
  rw [readResponse, (apiError_object_iff object).2 ⟨code, text, h, nonempty, rfl⟩]

/-- Without a report the status decides. -/
theorem readResponse_of_silent (object : IsObject response.text members)
    (silent : ∀ code text, ¬Reports members code text) : readResponse d response =
      if response.isSuccess then (d.fromText response.text).mapError .undecodable
      else .error (.http response.status
        ((response.retryAfter.bind Http.seconds?).map Duration.ofSeconds) response.text) := by
  have none : apiError response.text = none := by
    by_contra some_
    obtain ⟨e, found⟩ := Option.ne_none_iff_exists'.1 some_
    obtain ⟨code, text, reports, -⟩ := (apiError_object_iff object).1 found
    exact silent code text reports
  rw [readResponse, none]

section Coded

variable (object : IsObject response.text members) (coded : (some "code", .text code) ∈ members)
  (nonempty : code ≠ "")

include coded in
theorem not_reports_of_coded (silent : ∀ text, ¬Reports members code text) (other text : String) :
    ¬Reports members other text := fun h => silent text (h.code_eq coded ▸ h)

include object coded nonempty

/-- An answer with a code fails with this code exactly if the code is reported. -/
theorem readResponse_eq_api_iff :
    (∃ text, readResponse d response = .error (.api code text)) ↔
      ∃ text, Reports members code text := by
  constructor
  · rintro ⟨text, failed⟩
    by_contra silent
    rw [not_exists] at silent
    rw [readResponse_of_silent object (not_reports_of_coded coded silent)] at failed
    split at failed
    · cases decoded : d.fromText response.text <;> simp [decoded, Except.mapError] at failed
    · simp at failed
  · rintro ⟨text, h⟩
    exact ⟨text, readResponse_of_reports object h nonempty⟩

/-- An answer with a code acknowledges an action if it is a success that does not report the code
and whose id, where there is one, can be read. -/
theorem readResponse_acknowledged_iff :
    readResponse HwCloudAnswer.acknowledged response = .ok () ↔
      response.isSuccess = true ∧ (∀ text, ¬Reports members code text) ∧
        Named members ∧ ∃ id, MaybeText (under "requestId" members) id := by
  rw [← acknowledged_iff object]
  by_cases h : ∃ text, Reports members code text
  · obtain ⟨text, h⟩ := h
    rw [readResponse_of_reports object h nonempty]
    constructor
    · intro done
      cases done
    · rintro ⟨-, silent, -⟩
      exact absurd h (silent text)
  · rw [not_exists] at h
    rw [readResponse_of_silent object (not_reports_of_coded coded h)]
    cases response.isSuccess with
    | false => simp
    | true =>
      rw [if_pos rfl, Verb.mapError_eq_ok_iff]
      exact ⟨fun done => ⟨rfl, h, done⟩, fun done => done.2.2⟩

end Coded

end HwCloudAccount

namespace HwCloud

open HwCloudAccount

variable {members : List (Option String × Tree)} {code : String} {response : HttpResponse}
  {request : HttpRequest} {events : List (Program.Event WebAction WebAction.Answer)}

/-- **When a code decides.**  An action whose response is an object with a code fails with this
code exactly if the object reports it: each key has a value, there is no second code, and no message
but one text or null.  The failure is then the one that the code means, whatever the status is and
whatever the action gives.  Without a report the status decides, and an action that gives nothing of
interest counts as done if the response is a success and has at most one id, a text or null. -/
theorem code_decides_iff (cloud : HwCloud) (object : IsObject response.text members)
    (coded : (some "code", .text code) ∈ members) (nonempty : code ≠ "")
    (received : ⟨.send request, some response⟩ ∈ events) (action : String) (q : Query) :
    (∀ {α : Type} (d : Decoder α) outcome,
      Program.Runs (cloud.account.call action q d) events outcome →
        ((∃ text, outcome = .error (.api code text)) ↔ ∃ text, Reports members code text)) ∧
    (∀ {α : Type} (d : Decoder α) outcome,
      Program.Runs (cloud.call action q d) events outcome →
        (∀ text, Reports members code text → outcome = .error (HwCloudError.ofCode code text)) ∧
        ((∀ text, ¬Reports members code text) → outcome =
          if response.isSuccess then (d.fromText response.text).mapError .ofDecodeError
          else .error (HwCloudError.ofStatus response.status
            ((response.retryAfter.bind Http.seconds?).map Duration.ofSeconds) response.text))) ∧
    ∀ outcome, Program.Runs (cloud.order action q) events outcome →
      (outcome = .ok () ↔ response.isSuccess = true ∧ (∀ text, ¬Reports members code text) ∧
        Named members ∧ ∃ id, MaybeText (under "requestId" members) id) := by
  refine ⟨fun d outcome run => ?fails,
    fun d outcome run => ⟨fun text h => ?reported, fun silent => ?silent⟩,
    fun outcome run => ?order⟩
  case fails =>
    rw [runs_accountCall run received, readResponse_eq_api_iff object coded nonempty]
  case reported =>
    rw [mapError_of_runs_call run received, readResponse_of_reports object h nonempty]
    rfl
  case silent =>
    rw [mapError_of_runs_call run received,
      readResponse_of_silent object (not_reports_of_coded coded silent)]
    split
    · cases d.fromText response.text <;> rfl
    · rfl
  case order =>
    rw [mapError_of_runs_call run received, Verb.mapError_eq_ok_iff,
      readResponse_acknowledged_iff object coded nonempty]

/-! ## A volume that is not deleted -/

/-- What happens around a request. -/
def exchange (request : HttpRequest) (response : HttpResponse) :
    List (Program.Event WebAction WebAction.Answer) :=
  [⟨.now, ⟨0⟩⟩, ⟨.freshName, ""⟩, ⟨.send request, some response⟩]

/-- A response that was carried out, with the code of a volume that is in use. -/
def inUse (message : Json) : HttpResponse := ⟨200, none, Text.utf8
  (Json.object [("code", .text "IncorrectState"), ("message", message)]).render⟩

theorem isObject_inUse {message : Json} (legible : message.Legible) : IsObject (inUse message).text
    [(some "code", .text "IncorrectState"), (some "message", message.toTree)] := by
  rw [HttpResponse.text, inUse, Text.decodeLossy_utf8]
  exact isObject_render ⟨trivial, legible, trivial⟩

theorem exists_deletion : ∃ request, ∀ response,
    Program.Runs (loopback.perform (.deleteVolume ⟨"vol-1"⟩)) (exchange request response)
      ((readResponse HwCloudAnswer.acknowledged response).mapError
        HwCloudError.toProviderError) := by
  obtain ⟨request, prepared⟩ := exists_prepared_loopback "DeleteVolume"
    (single "VolumeId" "vol-1") (by decide +kernel)
  exact ⟨request, fun response => call_runs prepared HwCloudAnswer.acknowledged response⟩

/-- With a message that can be read the deletion fails. -/
theorem code_decides_iff_inUse : ∃ request,
    Program.Runs (loopback.perform (.deleteVolume ⟨"vol-1"⟩))
      (exchange request (inUse (.text "attached"))) (.error (.conflict "attached")) := by
  obtain ⟨request, deletion⟩ := exists_deletion
  have run := deletion (inUse (.text "attached"))
  have received : ⟨.send request, some (inUse (.text "attached"))⟩ ∈
      exchange request (inUse (.text "attached")) := by simp [exchange]
  have object := isObject_inUse (show (Json.text "attached").Legible from trivial)
  have decides := (code_decides_iff loopback object List.mem_cons_self (by decide) received
    "DeleteVolume" (single "VolumeId" "vol-1")).2.1 HwCloudAnswer.acknowledged _ run
  have failed := decides.1 "attached" ⟨by simp [Named], rfl, _, .text _, rfl⟩
  rw [failed] at run
  exact ⟨request, run⟩

/-- With a number in place of the message the deletion counts as done. -/
theorem deleteVolume_inUse : ∃ request,
    IsObject (inUse (.whole 5)).text
      [(some "code", .text "IncorrectState"), (some "message", .whole 5)] ∧
    Program.Runs (loopback.perform (.deleteVolume ⟨"vol-1"⟩))
      (exchange request (inUse (.whole 5))) (.ok ()) := by
  obtain ⟨request, deletion⟩ := exists_deletion
  have run := deletion (inUse (.whole 5))
  have done : readResponse HwCloudAnswer.acknowledged (inUse (.whole 5)) = .ok () := by
    decide +kernel
  rw [done] at run
  exact ⟨request, isObject_inUse (show Numeral.IsWord 5 by decide), run⟩

end HwCloud

end CloudLifecycle

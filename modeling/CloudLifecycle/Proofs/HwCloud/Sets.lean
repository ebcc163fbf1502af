import CloudLifecycle.HwCloud.Backend
import CloudLifecycle.Proofs.Http.Sending
import CloudLifecycle.Proofs.Json.Values

/-!
# Sets in the answers of HwCloud

A set is an object of lists, and a value without items is read as the empty set.  So is every other
value: one that is no object of lists, and one where any field of any item has not the form that is
expected.  A VM, a volume or a snapshot that an answer lists in such a form is taken for missing
(`faithful_iff`, `describesFrom_set`).
-/

set_option autoImplicit false

namespace CloudLifecycle

namespace HwCloudAnswer

variable {α : Type} {d : Decoder α} {source : Source} {value : Json} {items : List α}

/-- A value that stands for a set without items. -/
def NoItems : Json → Prop
  | .null => True
  | .text s => s = "null"
  | .object fields => ∀ part ∈ (Dict.ofList fields).values, part = .list []
  | _ => False

/-- The value is a list, and these are its items. -/
def ListOf (d : Decoder α) (value : Json) (items : List α) : Prop :=
  ∃ values, value = .list values ∧
    List.Forall₂ (fun item a => d .value item.toTree = .ok a) values items

/-- The value is an object of lists, and these are the items of all of them, in the order of the
keys. -/
inductive Listed (d : Decoder α) : Json → List α → Prop where
  | object {fields : List (String × Json)} {lists : List (String × List α)}
      (h : List.Forall₂ (fun field list => field.1 = list.1 ∧ ListOf d field.2 list.2)
        fields lists) :
      Listed d (.object fields) (Dict.ofList lists).values.flatten

/-- The value has the form of a set of such items. -/
def IsSet (d : Decoder α) (value : Json) : Prop := ∃ items, Listed d value items

theorem listed_iff :
    Listed d value items ↔
      ∃ lists, (Decoder.dict (Decoder.list d)) .value value.toTree = .ok lists ∧
        items = lists.values.flatten := by
  simp only [Decoder.dict_eq_ok_iff, Decoder.list_eq_ok_iff]
  constructor
  · rintro ⟨h⟩
    exact ⟨_, ⟨_, _, rfl, h, rfl⟩, rfl⟩
  · rintro ⟨_, ⟨_, _, rfl, h, rfl⟩, rfl⟩
    exact .object h

theorem ListOf.eq_nil_iff (h : ListOf d value items) : items = [] ↔ value = .list [] := by
  obtain ⟨values, rfl, decoded⟩ := h
  cases decoded <;> simp

theorem ListOf.all_nil_iff {parts : List Json} {lists : List (List α)}
    (h : List.Forall₂ (ListOf d) parts lists) :
    (∀ list ∈ lists, list = []) ↔ ∀ part ∈ parts, part = .list [] := by
  induction h with
  | nil => simp
  | cons decoded _ ih => simp only [List.forall_mem_cons, ih, decoded.eq_nil_iff]

/-- A set has no items exactly if all its lists are empty. -/
theorem Listed.eq_nil_iff (h : Listed d value items) : items = [] ↔ NoItems value := by
  obtain ⟨h⟩ := h
  exact List.flatten_eq_nil_iff.trans (ListOf.all_nil_iff (Dict.forall₂_ofList h))

/-- **What a set is read as**: its items, or nothing where the value has not the form of a set. -/
theorem itemSet_eq_ok_iff :
    itemSet d source value.toTree = .ok items ↔
      (∃ any, Decoder.any source value.toTree = .ok any) ∧
        (Listed d value items ∨ (items = [] ∧ ¬IsSet d value)) := by
  simp only [IsSet, listed_iff, itemSet]
  cases Decoder.any source value.toTree with
  | error e =>
    show Except.error e = Except.ok items ↔ _
    simp
  | ok any =>
    cases (Decoder.dict (Decoder.list d)) .value value.toTree with
    | error e =>
      show Except.ok [] = Except.ok items ↔ _
      simp [eq_comm]
    | ok lists =>
      show Except.ok lists.values.flatten = Except.ok items ↔ _
      simp [eq_comm]

/-- A value is read as the empty set if it stands for no items or has not the form of a set. -/
theorem eq_nil_iff_of_itemSet (h : itemSet d source value.toTree = .ok items) :
    items = [] ↔ NoItems value ∨ ¬IsSet d value := by
  obtain ⟨_, listed | ⟨rfl, formless⟩⟩ := itemSet_eq_ok_iff.1 h
  · have isSet : IsSet d value := ⟨items, listed⟩
    simp [listed.eq_nil_iff, isSet]
  · simp [formless]

theorem exists_of_itemSet {tree : Tree} (h : itemSet d source tree = .ok items) :
    ∃ whole : Json, tree = whole.toTree := by
  unfold itemSet at h
  cases hany : Decoder.any source tree with
  | error e =>
    rw [hany] at h
    cases h
  | ok any => exact Decoder.exists_of_json tree hany

/-- Only a value without items is read as the empty set, and every other one as all that it
lists. -/
def Faithful (d : Decoder α) (source : Source) (value : Json) : Prop :=
  ∀ items, itemSet d source value.toTree = .ok items →
    (items = [] → NoItems value) ∧ (¬NoItems value → Listed d value items)

/-- A value that is read at all is read faithfully exactly if it stands for no items or has the form
of a set. -/
theorem faithful_iff :
    Faithful d source value ↔
      (∀ items, itemSet d source value.toTree ≠ .ok items) ∨ NoItems value ∨ IsSet d value := by
  constructor
  · intro faithful
    by_cases read : ∃ items, itemSet d source value.toTree = .ok items
    · obtain ⟨items, read⟩ := read
      by_cases empty : NoItems value
      · exact .inr (.inl empty)
      · exact .inr (.inr ⟨items, (faithful items read).2 empty⟩)
    · exact .inl fun items h => read ⟨items, h⟩
  · rintro h items read
    obtain ⟨_, listed | ⟨rfl, formless⟩⟩ := itemSet_eq_ok_iff.1 read
    · exact ⟨listed.eq_nil_iff.1, fun _ => listed⟩
    · obtain unread | empty | isSet := h
      · exact absurd read (unread [])
      · exact ⟨fun _ => empty, fun occupied => absurd empty occupied⟩
      · exact absurd isSet formless

end HwCloudAnswer

namespace HwCloud

open HwCloudAnswer

variable {α : Type} {cloud : HwCloud} {d : Decoder α}
  {events : List (Program.Event WebAction WebAction.Answer)} {request : HttpRequest}
  {response : HttpResponse}

/-- A response that was carried out and reports no failure. -/
structure Accepted (response : HttpResponse) : Prop where
  success : response.isSuccess = true
  clean : HwCloudAccount.apiError response.text = none

/-- The response has a set of that name, which is the value. -/
def Carries (field : String) (response : HttpResponse) (value : Json) : Prop :=
  (Tree.parse response.text).1.part field = some value.toTree

theorem runs_send {url : String} {outcome : Except HttpError HttpResponse}
    (h : Program.Runs (Http.send .get url) events outcome)
    (received : ⟨.send request, some response⟩ ∈ events) : outcome = .ok response := by
  unfold Http.send at h
  split at h
  · obtain ⟨rfl, -⟩ := Program.runs_done_iff.1 h
    cases received
  · obtain ⟨_, _, answer, rfl, hr, hrest⟩ := Program.runs_bind_iff.1 h
    obtain rfl := Program.runs_request_iff.1 hr
    cases answer with
    | none =>
      obtain ⟨rfl, -⟩ := Program.runs_done_iff.1 hrest
      simp at received
    | some given =>
      obtain ⟨rfl, rfl⟩ := Program.runs_done_iff.1 hrest
      simp at received
      rw [received.2]

/-- The response to an action decides its outcome. -/
theorem runs_accountCall {account : HwCloudAccount} {action : String} {q : Query}
    {outcome : Except HwCloudError α} (h : Program.Runs (account.call action q d) events outcome)
    (received : ⟨.send request, some response⟩ ∈ events) :
    outcome = HwCloudAccount.readResponse d response := by
  obtain ⟨_, _, now, rfl, hn, hnow⟩ := Program.runs_bind_iff.1 h
  obtain rfl := Program.runs_request_iff.1 hn
  obtain ⟨_, _, nonce, rfl, hf, hnonce⟩ := Program.runs_bind_iff.1 hnow
  obtain rfl := Program.runs_request_iff.1 hf
  obtain ⟨_, _, answer, rfl, hs, hanswer⟩ := Program.runs_bind_iff.1 hnonce
  cases answer with
  | error cause =>
    obtain ⟨rfl, -⟩ := Program.runs_done_iff.1 hanswer
    cases runs_send hs (by simpa using received)
  | ok given =>
    obtain ⟨rfl, rfl⟩ := Program.runs_done_iff.1 hanswer
    obtain rfl := Except.ok.inj (runs_send hs (by simpa using received))
    rfl

/-- A call to the backend fails as its action does. -/
theorem mapError_of_runs_call {action : String} {q : Query} {outcome : ProviderResult α}
    (h : Program.Runs (cloud.call action q d) events outcome)
    (received : ⟨.send request, some response⟩ ∈ events) :
    outcome =
      (HwCloudAccount.readResponse d response).mapError HwCloudError.toProviderError := by
  obtain ⟨_, _, read, rfl, hc, hread⟩ := Program.runs_bind_iff.1 h
  obtain ⟨rfl, rfl⟩ := Program.runs_done_iff.1 hread
  rw [runs_accountCall hc (by simpa using received)]

/-- An accepted response is read as what is asked for, or the call fails to be decoded. -/
theorem runs_call {action : String} {q : Query} {outcome : ProviderResult α}
    (h : Program.Runs (cloud.call action q d) events outcome)
    (received : ⟨.send request, some response⟩ ∈ events) (accepted : Accepted response) :
    outcome = (d.fromText response.text).mapError .ofDecodeError := by
  rw [mapError_of_runs_call h received, HwCloudAccount.readResponse, accepted.clean]
  simp only [accepted.success, if_pos]
  cases d.fromText response.text <;> rfl

/-- What a description finds in an accepted response is the first thing that is decoded. -/
theorem runs_describe {action : String} {q : Query} {d : Decoder (List α)} {found : Option α}
    (h : Program.Runs (cloud.describe action q d) events (.ok found))
    (received : ⟨.send request, some response⟩ ∈ events) (accepted : Accepted response) :
    ∃ items, d.fromText response.text = .ok items ∧ found = items.head? := by
  obtain ⟨_, _, described, rfl, hd, hdescribed⟩ := Program.runs_bind_iff.1 h
  obtain ⟨rfl, hfound⟩ := Program.runs_done_iff.1 hdescribed
  obtain ⟨called, after, answer, rfl, hc, hanswer⟩ := Program.runs_bind_iff.1 hd
  have silent : after = [] := by
    split at hanswer <;> exact (Program.runs_done_iff.1 hanswer).1
  subst silent
  obtain rfl := runs_call hc (by simpa using received) accepted
  cases hread : d.fromText response.text with
  | error e =>
    rw [hread] at hanswer
    obtain ⟨-, rfl⟩ := Program.runs_done_iff.1 hanswer
    cases hfound
  | ok items =>
    rw [hread] at hanswer
    obtain ⟨-, rfl⟩ := Program.runs_done_iff.1 hanswer
    exact ⟨items, rfl, Except.ok.inj hfound⟩

/-- An action that can be sent may get any response. -/
theorem accountCall_runs {account : HwCloudAccount} {action : String} {q : Query}
    {now : Timestamp} {nonce : String} (prepared : Http.prepare .get
      (account.signedUrl action q now nonce) none "" = .ok request)
    (d : Decoder α) (response : HttpResponse) :
    Program.Runs (account.call action q d)
      [⟨.now, now⟩, ⟨.freshName, nonce⟩, ⟨.send request, some response⟩]
      (HwCloudAccount.readResponse d response) := by
  have sent := Http.runs_send prepared response
  refine Program.runs_bind_iff.2 ⟨[_], _, now, rfl, Program.runs_request_iff.2 rfl, ?_⟩
  refine Program.runs_bind_iff.2 ⟨[_], _, nonce, rfl, Program.runs_request_iff.2 rfl, ?_⟩
  exact Program.runs_bind_iff.2 ⟨[_], [], .ok response, rfl, sent, .done _⟩

theorem call_runs {action : String} {q : Query} {now : Timestamp} {nonce : String}
    (prepared : Http.prepare .get (cloud.account.signedUrl action q now nonce) none "" =
      .ok request) (d : Decoder α) (response : HttpResponse) :
    Program.Runs (cloud.call action q d)
      [⟨.now, now⟩, ⟨.freshName, nonce⟩, ⟨.send request, some response⟩]
      ((HwCloudAccount.readResponse d response).mapError HwCloudError.toProviderError) :=
  Program.runs_bind_iff.2
    ⟨_, [], _, (List.append_nil _).symm, accountCall_runs prepared d response, .done _⟩

/-- The request of an action is sent once the time and a fresh name are known. -/
theorem poses_call {action : String} {q : Query} {now : Timestamp} {nonce : String}
    (prepared : Http.prepare .get (cloud.account.signedUrl action q now nonce) none "" =
      .ok request) (d : Decoder α) :
    Program.Poses (cloud.call action q d) [⟨.now, now⟩, ⟨.freshName, nonce⟩] (.send request) := by
  have answered : Program.Runs (cloud.call action q d) ([⟨.now, now⟩, ⟨.freshName, nonce⟩] ++
      ⟨.send request, some ⟨200, none, []⟩⟩ :: []) _ := cloud.call_runs prepared d ⟨200, none, []⟩
  exact answered.poses

/-- The items of a response are those of its set, if it has one. -/
theorem fromText_set_eq_ok {name field : String} {items : List α}
    (h : (set name field d).fromText response.text = .ok items) :
    (∃ value inner, Carries field response value ∧ itemSet d inner value.toTree = .ok items) ∨
      (items = [] ∧ ∀ value, ¬Carries field response value) := by
  simp only [Decoder.fromText, Decoder.bind_eq_ok_iff] at h
  obtain ⟨read, decoded, hread⟩ := h
  have same : read = items := by
    split at hread
    · exact Except.ok.inj hread
    · cases hread
  subst same
  have parted := Decoder.record_eq_ok decoded
  unfold Carries
  split at parted
  · obtain ⟨inner, hset⟩ := parted
    obtain ⟨value, rfl⟩ := exists_of_itemSet hset
    exact .inl ⟨value, inner, ‹_›, hset⟩
  · exact .inr ⟨parted, by simp [*]⟩

/-- In an accepted response the description of a thing finds nothing exactly if the set of that name
is missing, stands for no items or has not the form of a set. -/
def DescribesFrom (field : String) (d : Decoder α) (task : Web (ProviderResult (Option α))) :
    Prop :=
  ∀ events found request response, Program.Runs task events (.ok found) →
    ⟨.send request, some response⟩ ∈ events → Accepted response →
      (found = none ↔ ∀ value, Carries field response value → NoItems value ∨ ¬IsSet d value)

theorem describesFrom_set {action : String} {q : Query} {name field : String} :
    DescribesFrom field d (cloud.describe action q (set name field d)) := by
  intro events found request response h received accepted
  obtain ⟨items, hitems, rfl⟩ := runs_describe h received accepted
  rw [List.head?_eq_none_iff]
  obtain ⟨value, inner, carried, read⟩ | ⟨rfl, bare⟩ := fromText_set_eq_ok hitems
  · rw [eq_nil_iff_of_itemSet read]
    constructor
    · intro h value' carried'
      obtain same : value.toTree = value'.toTree := Option.some.inj (carried.symm.trans carried')
      exact (eq_nil_iff_of_itemSet (same ▸ read)).1 ((eq_nil_iff_of_itemSet read).2 h)
    · intro h
      exact h value carried
  · simp [bare]

/-- **When what HwCloud lists is found.**  A set is read faithfully, whatever its items are, exactly
if it cannot be read at all, stands for no items or has the form of a set of such items; and a VM, a
volume or a snapshot is missing in an accepted response exactly if the response has no set, one that
stands for no items, or a value that has not the form of a set. -/
theorem sets_faithful_iff (cloud : HwCloud) :
    (∀ {α : Type} (d : Decoder α) (source : Source) (value : Json), Faithful d source value ↔
      (∀ items, itemSet d source value.toTree ≠ .ok items) ∨ NoItems value ∨ IsSet d value) ∧
    ∀ id : ResourceId,
      DescribesFrom "instancesSet" vm (cloud.perform (.describeVm id)) ∧
      DescribesFrom "volumeSet" volume (cloud.perform (.describeVolume id)) ∧
      DescribesFrom "snapshotSet" snapshot (cloud.perform (.describeSnapshot id)) :=
  ⟨fun _ _ _ => faithful_iff, fun _ => ⟨describesFrom_set, describesFrom_set, describesFrom_set⟩⟩

/-- A set with one VM, whose name is null. -/
def unnamed : Json :=
  .object [("instancesSet", .list [.object [("instanceId", .text "i-1"), ("instanceName", .null)]])]

/-- A response with that set. -/
def unnamedResponse : HttpResponse := ⟨200, none, Text.utf8
  ("\x7b\"instancesSet\":\x7b\"instancesSet\":"
    ++ "[\x7b\"instanceId\":\"i-1\",\"instanceName\":null\x7d]\x7d\x7d")⟩

theorem unnamedResponse_empty : HwCloudAccount.readResponse vms unnamedResponse = .ok [] := by
  decide +kernel

/-- A VM without a name makes the set that lists it, and the response, read as empty. -/
theorem unnamed_not_faithful :
    itemSet vm .value unnamed.toTree = .ok [] ∧ ¬NoItems unnamed ∧ Accepted unnamedResponse ∧
      HwCloudAccount.readResponse vms unnamedResponse = .ok [] := by
  refine ⟨rfl, ?_, ⟨by decide, by decide +kernel⟩, unnamedResponse_empty⟩
  simp [NoItems, unnamed, Dict.ofList, Dict.values, Dict.insert, Dict.put, Dict.empty]

end HwCloud

end CloudLifecycle

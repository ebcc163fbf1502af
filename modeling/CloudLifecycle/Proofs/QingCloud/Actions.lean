import CloudLifecycle.Proofs.Backend.Reissue
import CloudLifecycle.Proofs.Http.Sending
import CloudLifecycle.Proofs.QingCloud.Requests
import CloudLifecycle.Proofs.Runs.Refined
import CloudLifecycle.Proofs.Runs.Reports

/-!
# Actions of QingCloud

An action is one request.  Its response accepts it, or refuses it as unauthorized or as one too
many, which makes the call that it belongs to be repeated (`QingCloudAccount.final_iff`), or it
fails for another reason.  All calls to the backend are one action at most, but for one: binding an
address asks for a second action once the first was accepted (`QingCloud.refused_of_bindAddress`).
-/

set_option autoImplicit false

namespace CloudLifecycle

namespace QingCloudAccount

/-! ## Responses -/

/-- The answer in the response has this code. -/
def Carries (code : Int) (response : HttpResponse) : Prop :=
  ∃ value text, Json.parse response.text = .ok value ∧ envelope.fromJson value = .ok (code, text)

/-- The action was done. -/
structure Accepted (response : HttpResponse) : Prop where
  success : response.isSuccess = true
  carried : Carries 0 response

/-- The action was not done, because of the credentials or because there were too many requests. -/
inductive Refused (response : HttpResponse) : Prop where
  | status (h : response.status = 401 ∨ response.status = 403 ∨ response.status = 429)
  | code {code : Int} (success : response.isSuccess = true) (carried : Carries code response)
      (h : code = 1200 ∨ code = 1300 ∨ code = 5100)

variable {response : HttpResponse} {code : Int}

theorem Carries.unique {other : Int} (h : Carries code response) (ho : Carries other response) :
    code = other := by
  obtain ⟨value, text, parsed, read⟩ := h
  obtain ⟨_, _, parsed', read'⟩ := ho
  rw [parsed] at parsed'
  obtain rfl := Except.ok.inj parsed'
  rw [read] at read'
  exact (Prod.mk.inj (Except.ok.inj read')).1

/-- A success has none of the statuses that refuse an action. -/
theorem not_status_of_isSuccess (success : response.isSuccess = true) :
    ¬(response.status = 401 ∨ response.status = 403 ∨ response.status = 429) := by
  simp only [HttpResponse.isSuccess, Http.isSuccess, Bool.and_eq_true, decide_eq_true_eq] at success
  omega

theorem Accepted.not_refused (h : Accepted response) : ¬Refused response := by
  rintro (status | ⟨_, carried, code⟩)
  · exact not_status_of_isSuccess h.success status
  · obtain rfl := h.carried.unique carried
    omega

/-- Of the codes three ask for a repetition. -/
theorem final_ofCode {α : Type} {text : String} :
    Retry.Final (.error (QingCloudError.ofCode code text) : ProviderResult α) ↔
      ¬(code = 1200 ∨ code = 1300 ∨ code = 5100) := by
  unfold QingCloudError.ofCode
  simp only [Bool.or_eq_true, Bool.and_eq_true, decide_eq_true_eq]
  split_ifs <;> simp only [Retry.Final, true_iff, false_iff, not_not] <;> omega

/-- Of the statuses three ask for a repetition. -/
theorem final_ofStatus {α : Type} {status : Nat} {retryAfter : Option Duration} {body : String} :
    Retry.Final (.error (QingCloudError.ofStatus status retryAfter body) : ProviderResult α) ↔
      ¬(status = 401 ∨ status = 403 ∨ status = 429) := by
  unfold QingCloudError.ofStatus
  simp only [Bool.or_eq_true, Bool.and_eq_true, decide_eq_true_eq]
  split_ifs <;> simp only [Retry.Final, true_iff, false_iff, not_not] <;> omega

/-- What is read from an answer asks for a repetition exactly if its code does. -/
theorem final_readAnswer {α : Type} {d : Decoder α} :
    Retry.Final ((readAnswer d response.text).mapError QingCloudError.toProviderError) ↔
      ∀ code, Carries code response → ¬(code = 1200 ∨ code = 1300 ∨ code = 5100) := by
  have unread (h : ∀ code, ¬Carries code response) :
      ∀ code, Carries code response → ¬(code = 1200 ∨ code = 1300 ∨ code = 5100) :=
    fun code carried => absurd carried (h code)
  unfold readAnswer
  cases parsed : Json.parse response.text with
  | error e =>
    refine iff_of_true trivial (unread fun code => ?_)
    rintro ⟨_, _, impossible, _⟩
    rw [parsed] at impossible
    cases impossible
  | ok value =>
    cases read : envelope.fromJson value with
    | error e =>
      refine iff_of_true ?_ (unread fun code => ?_)
      · simp only [bind, Except.bind, Except.mapError, read]
        trivial
      · rintro ⟨_, _, same, impossible⟩
        rw [parsed] at same
        rw [← Except.ok.inj same, read] at impossible
        cases impossible
    | ok found =>
      obtain ⟨code, text⟩ := found
      have carried : Carries code response := ⟨value, text, parsed, read⟩
      have all {P : Int → Prop} : (∀ code, Carries code response → P code) ↔ P code :=
        ⟨fun h => h code carried, fun h other own => carried.unique own ▸ h⟩
      rw [all]
      simp only [bind, Except.bind, Except.mapError, read]
      by_cases zero : code = 0
      · subst zero
        refine iff_of_true ?_ (by decide)
        cases d.fromJson value <;> trivial
      · rw [if_pos zero]
        exact final_ofCode

/-- **Which responses make a call be repeated**: those that refuse the action. -/
theorem final_iff {α : Type} {d : Decoder α} :
    Retry.Final ((readResponse d response).mapError QingCloudError.toProviderError) ↔
      ¬Refused response := by
  unfold readResponse
  split
  · rename_i success
    rw [final_readAnswer]
    constructor
    · rintro h (status | ⟨_, carried, code⟩)
      · exact not_status_of_isSuccess success status
      · exact h _ carried code
    · intro h code carried refuses
      exact h (.code success carried refuses)
  · rename_i failed
    refine final_ofStatus.trans (not_congr ⟨.status, ?_⟩)
    rintro (status | ⟨success, _, _⟩)
    · exact status
    · exact absurd success failed

/-! ## What is sent -/

/-- What is sent is a request for one of the actions. -/
def Sends (account : QingCloudAccount) (actions : String → Prop) : WebAction → Prop
  | .send sent => ∃ action, actions action ∧ account.Requests action sent
  | _ => True

end QingCloudAccount

namespace QingCloud

variable {cloud : QingCloud} {α : Type} {action : String} {q : Query} {now : Timestamp}
  {sent : HttpRequest} {events : List (Program.Event WebAction WebAction.Answer)}

open QingCloudAccount

theorem asks_call (action : String) (q : Query) (d : Decoder α) :
    Program.Asks (cloud.account.Sends (· = action)) (cloud.call action q d) := by
  have calling : Program.Asks (cloud.account.Sends (· = action))
      (cloud.account.call action q d) := by
    refine Program.Asks.bind (.request trivial) fun now => ?_
    refine Program.Asks.bind (Http.asks_send fun request prepared => ?_) fun answer => ?_
    · exact ⟨action, rfl, q, now, prepared⟩
    · cases answer <;> exact .done _
  exact calling.bind fun _ => .done _

/-- **Only one call registers an address.** -/
theorem asks_perform {c : ProviderCall} (other : c.mutation? ≠ some .bindAddress) :
    Program.Asks (cloud.account.Sends (· ≠ "AddRouterStatics")) (cloud.perform c) := by
  have sends {action : String} (ne : action ≠ "AddRouterStatics") :
      ∀ question, cloud.account.Sends (· = action) question →
        cloud.account.Sends (· ≠ "AddRouterStatics") question
    | .send _, ⟨_, same, requests⟩ => ⟨_, same ▸ ne, requests⟩
    | .now, _ | .freshName, _ => trivial
  have calls {β : Type} {action : String} (ne : action ≠ "AddRouterStatics") (q : Query)
      (d : Decoder β) :
      Program.Asks (cloud.account.Sends (· ≠ "AddRouterStatics")) (cloud.call action q d) :=
    (asks_call action q d).mono (sends ne)
  have describes {β : Type} {action : String} (ne : action ≠ "AddRouterStatics") (q : Query)
      (d : Decoder (List β)) :
      Program.Asks (cloud.account.Sends (· ≠ "AddRouterStatics")) (cloud.describe action q d) := by
    refine (calls ne q d).bind fun found => ?_
    rcases found with (_ | _ | _ | _ | _ | _ | _ | _) | _ <;> exact .done _
  cases c with
  | refreshCredentials | listInstanceTypes _ => exact .done _
  | describeVm _ | describeVolume _ | describeSnapshot _ | describeImage _ =>
    exact describes (by decide) _ _
  | describeFloatingIp _ | findImageByName _ | findKeyPairs _ | runInstance _ | createVolume _
  | createSnapshot _ _ =>
    exact (calls (by decide) _ _).bind fun _ => .done _
  | listSecurityGroups | terminateInstance _ | restartInstance _ | deleteVolume _
  | attachVolume _ _ | detachVolume _ _ | deleteSnapshot _ | deleteImage _
  | associateFloatingIp _ _ | dissociateFloatingIp _ =>
    exact calls (by decide) _ _
  | bindStaticAddress _ _ _ => exact absurd rfl other

/-- An action fails before there is a response, or its result is what the response says. -/
theorem outcome_of_order {result : ProviderResult Unit}
    (h : Program.Runs (cloud.order action q) events result) :
    ∃ now, (∃ e, result = .error (.transport e) ∧
        (events = [⟨.now, now⟩] ∨ ∃ sent, events = [⟨.now, now⟩, ⟨.send sent, none⟩])) ∨
      ∃ sent response, cloud.account.Requests action sent ∧
        events = [⟨.now, now⟩, ⟨.send sent, some response⟩] ∧
        result = (readResponse QingCloudAnswer.acknowledged response).mapError
          QingCloudError.toProviderError := by
  obtain ⟨called, silent, outcome, rfl, hc, done⟩ := Program.runs_bind_iff.1 h
  obtain ⟨rfl, rfl⟩ := Program.runs_done_iff.1 done
  obtain ⟨_, rest, now, rfl, asked, hs⟩ := Program.runs_bind_iff.1 hc
  obtain rfl := Program.runs_request_iff.1 asked
  obtain ⟨sending, silent, answer, rfl, sent, done⟩ := Program.runs_bind_iff.1 hs
  refine ⟨now, ?_⟩
  rcases Http.outcome_of_send sent with ⟨e, rfl, course⟩ | ⟨request, response, prepared, rfl, rfl⟩
  · obtain ⟨rfl, rfl⟩ := Program.runs_done_iff.1 done
    left
    refine ⟨_, rfl, ?_⟩
    rcases course with rfl | ⟨request, rfl⟩
    · exact .inl rfl
    · exact .inr ⟨request, rfl⟩
  · obtain ⟨rfl, rfl⟩ := Program.runs_done_iff.1 done
    exact .inr ⟨request, response, ⟨q, now, prepared⟩, rfl, rfl⟩

/-- An action whose request can be made gives what the response says, whichever this is. -/
theorem runs_call
    (prepared : Http.prepare .get (cloud.account.signedUrl action q now) none "" = .ok sent)
    (d : Decoder α) (response : HttpResponse) :
    Program.Runs (cloud.call action q d) [⟨.now, now⟩, ⟨.send sent, some response⟩]
      ((readResponse d response).mapError QingCloudError.toProviderError) := by
  have sending := Http.runs_send prepared response
  have calling : Program.Runs (cloud.account.call action q d)
      [⟨.now, now⟩, ⟨.send sent, some response⟩] (readResponse d response) :=
    Program.runs_bind_iff.2 ⟨[_], [_], now, rfl, Program.runs_request_iff.2 rfl,
      Program.runs_bind_iff.2 ⟨[_], [], .ok response, rfl, sending, .done _⟩⟩
  exact Program.runs_bind_iff.2 ⟨_, [], _, rfl, calling, .done _⟩

/-- The request of an action is sent once the time is known. -/
theorem poses_call
    (prepared : Http.prepare .get (cloud.account.signedUrl action q now) none "" = .ok sent)
    (d : Decoder α) : Program.Poses (cloud.call action q d) [⟨.now, now⟩] (.send sent) := by
  have answered := runs_call prepared d ⟨200, none, []⟩
  rw [← List.singleton_append] at answered
  exact answered.poses

/-- An action sends its request first. -/
theorem unsent_of_poses_order {posed : WebAction} (h : Program.Poses (cloud.order action q) events
    posed) : ∀ sent answer, ⟨.send sent, answer⟩ ∉ events := by
  intro sent answer made
  rcases Program.poses_bind_iff.1 h with calling | ⟨_, _, _, _, _, nothing⟩
  · rcases Program.poses_bind_iff.1 calling with clock | ⟨_, rest, now, rfl, asked, sending⟩
    · obtain ⟨rfl, -⟩ := Program.poses_request_iff.1 clock
      cases made
    · obtain rfl := Program.runs_request_iff.1 asked
      rcases Program.poses_bind_iff.1 sending with sends | ⟨_, _, found, _, _, nothing⟩
      · obtain rfl := Http.past_of_poses_send sends
        simp at made
      · cases found <;> exact Program.not_poses_done nothing
  · exact Program.not_poses_done nothing

variable {routerId ip : String} {vm : ResourceId}

/-- Binding an address registers it first. -/
theorem unsent_of_poses_bindAddress
    (h : Program.Poses (cloud.bindAddress routerId vm ip) events (.send sent))
    (registers : cloud.account.Requests "AddRouterStatics" sent) :
    ∀ other answer, ⟨.send other, answer⟩ ∉ events := by
  rcases Program.poses_bind_iff.1 h with first | ⟨_, rest, result, rfl, _, second⟩
  · exact unsent_of_poses_order first
  · cases result with
    | error e => exact absurd second Program.not_poses_done
    | ok _ =>
      obtain ⟨_, rfl, updates⟩ := ((asks_call _ _ _).of_poses second :
        cloud.account.Sends (· = "UpdateRouters") (.send sent))
      exact absurd (registers.unique updates) (by decide)

/-- A binding whose first action was done ends as the second one does. -/
theorem runs_bindAddress {later : Timestamp} {update : HttpRequest}
    (registers : Http.prepare .get (cloud.account.signedUrl "AddRouterStatics"
      (bindingQuery routerId vm ip) now) none "" = .ok sent)
    (updates : Http.prepare .get (cloud.account.signedUrl "UpdateRouters"
      (Query.empty.numbered "routers" [routerId]) later) none "" = .ok update)
    {response : HttpResponse} (done : readResponse QingCloudAnswer.acknowledged response = .ok ())
    (answer : HttpResponse) :
    Program.Runs (cloud.bindAddress routerId vm ip)
      ([⟨.now, now⟩, ⟨.send sent, some response⟩] ++
        [⟨.now, later⟩, ⟨.send update, some answer⟩])
      ((readResponse QingCloudAnswer.acknowledged answer).mapError
        QingCloudError.toProviderError) := by
  have first := runs_call registers QingCloudAnswer.acknowledged response
  rw [done] at first
  exact Program.runs_bind_iff.2 ⟨_, _, .ok (), rfl, first, runs_call updates _ answer⟩

/-- **Why a binding is made again.**  If the address was registered, and still the whole call asks
for a repetition, the router has refused to take the change. -/
theorem refused_of_bindAddress {before after : List (Program.Event WebAction WebAction.Answer)}
    {response : HttpResponse} {result : ProviderResult Unit}
    (h : Program.Runs (cloud.bindAddress routerId vm ip)
      (before ++ ⟨.send sent, some response⟩ :: after) result)
    (registers : cloud.account.Requests "AddRouterStatics" sent) (accepted : Accepted response)
    (again : ¬Retry.Final result) :
    ∃ now update refusal, after = [⟨.now, now⟩, ⟨.send update, some refusal⟩] ∧
      cloud.account.Requests "UpdateRouters" update ∧ Refused refusal := by
  obtain ⟨first, second, outcome, course, registering, rest⟩ := Program.runs_bind_iff.1 h
  obtain ⟨now, ⟨e, rfl, _⟩ | ⟨own, answer, owns, rfl, rfl⟩⟩ := outcome_of_order registering
  · obtain ⟨-, rfl⟩ := Program.runs_done_iff.1 rest
    exact absurd trivial again
  have decided : Retry.Final ((readResponse QingCloudAnswer.acknowledged answer).mapError
      QingCloudError.toProviderError) ↔ ¬Refused answer := final_iff
  cases read : (readResponse QingCloudAnswer.acknowledged answer).mapError
      QingCloudError.toProviderError with
  | error e =>
    -- There is one response, which was accepted, so the call does not ask for a repetition.
    rw [read] at rest decided
    obtain ⟨rfl, rfl⟩ := Program.runs_done_iff.1 rest
    obtain rfl : response = answer := by
      rcases before with _ | ⟨_, _ | ⟨_, _ | ⟨_, before⟩⟩⟩ <;> simp_all
    exact absurd (decided.2 accepted.not_refused) again
  | ok _ =>
    rw [read] at rest
    obtain ⟨later, ⟨e, rfl, _⟩ | ⟨update, refusal, updates, rfl, rfl⟩⟩ := outcome_of_order rest
    · exact absurd trivial again
    · have refused : Refused refusal := by
        by_contra fine
        exact again (final_iff.2 fine)
      rcases before with _ | ⟨_, _ | ⟨_, _ | ⟨_, _ | ⟨_, before⟩⟩⟩⟩
      · simp at course
      · simp only [List.cons_append, List.nil_append, List.cons.injEq] at course
        exact ⟨later, update, refusal, course.2.2, updates, refused⟩
      · simp at course
      · -- The other response was given to the other action.
        simp only [List.cons_append, List.nil_append, List.cons.injEq] at course
        obtain ⟨-, -, -, same, -⟩ := course
        cases same
        exact absurd (registers.unique updates) (by decide)
      · simp at course

end QingCloud

end CloudLifecycle

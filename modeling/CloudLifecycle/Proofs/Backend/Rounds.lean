import CloudLifecycle.Proofs.Backend.Budgets
import CloudLifecycle.Proofs.Runs.Embedding
import CloudLifecycle.Proofs.Runs.Manager
import CloudLifecycle.Proofs.Store.Stage

/-!
# Rounds of a call

A volume that is not ready answers an attach call with a conflict, and the call is then made again
as a whole.  `Rounds` is the course of these repetitions: every round is a complete call with the
budgets of a fresh one, all but the last one end with a conflict, and a pause stands behind each of
them.  `Underway` is a course of which the end is open.

How often a program asks a question of some kind is bounded by `Program.AtMost`, whatever it is
answered.  The bounds add up along `bind`, so those of a call follow from its attempts and those of
the rounds from one call.

Attaching a disk embeds the rounds between calls that only look (`Manager.embeds_attachDisk`), so
each of its runs makes one course of rounds or none (`Manager.attachDisk_rounds`).
-/

set_option autoImplicit false

namespace CloudLifecycle

/-! ## How often a question is asked -/

namespace Program

variable {Q : Type} {A : Q → Type} {α β : Type} {kind : Q → Prop} {n k : Nat}

/-- Whatever it is answered, the program asks no more than so many questions of the kind. -/
inductive AtMost (kind : Q → Prop) : Nat → Program Q A α → Prop where
  | done {n : Nat} (value : α) : AtMost kind n (.done value)
  | other {n : Nat} {question : Q} {next : A question → Program Q A α} (h : ¬kind question)
      (rest : ∀ answer, AtMost kind n (next answer)) : AtMost kind n (.ask question next)
  | counted {n : Nat} {question : Q} {next : A question → Program Q A α}
      (rest : ∀ answer, AtMost kind n (next answer)) : AtMost kind (n + 1) (.ask question next)

namespace AtMost

theorem request_counted (question : Q) :
    AtMost kind 1 (request question : Program Q A (A question)) :=
  .counted fun answer => .done answer

theorem request_other {question : Q} (h : ¬kind question) :
    AtMost kind n (request question : Program Q A (A question)) :=
  .other h fun answer => .done answer

theorem mono {p : Program Q A α} (h : AtMost kind n p) (le : n ≤ k) : AtMost kind k p := by
  induction h generalizing k with
  | done value => exact .done value
  | other other _ ih => exact .other other fun answer => ih answer le
  | counted _ ih =>
    obtain ⟨k, rfl⟩ := Nat.exists_eq_add_of_le' le
    exact .counted fun answer => ih answer (Nat.le_add_left _ _)

theorem bind {p : Program Q A α} {f : α → Program Q A β} (hp : AtMost kind n p)
    (hf : ∀ a, AtMost kind k (f a)) : AtMost kind (n + k) (p.bind f) := by
  induction hp with
  | done value => exact (hf value).mono (Nat.le_add_left _ _)
  | other other _ ih => exact .other other ih
  | @counted n _ _ _ ih =>
    rw [Nat.add_right_comm]
    exact .counted ih

variable [DecidablePred kind] {p : Program Q A α}

/-- What is posed counts too, also if it is never answered. -/
theorem countP_le_of_poses (h : AtMost kind n p) {past : List (Event Q A)} {posed : Q}
    (posing : Poses p past posed) :
    (past.map Event.question ++ [posed]).countP (fun question => kind question) ≤ n := by
  induction posing generalizing n with
  | @now question next =>
    cases h with
    | other other _ => simp [other]
    | counted _ => exact List.countP_le_length.trans (Nat.le_add_left 1 _)
  | @later question posed next answer past _ ih =>
    rw [List.map_cons, List.cons_append, List.countP_cons]
    cases h with
    | other other rest => simpa [other] using ih (rest answer)
    | counted rest =>
      have le := ih (rest answer)
      split <;> omega

theorem countP_le_of_runs (h : AtMost kind n p) {events : List (Event Q A)} {a : α}
    (ran : Runs p events a) :
    (events.map Event.question).countP (fun question => kind question) ≤ n := by
  induction ran generalizing n with
  | done value => exact Nat.zero_le _
  | @ask question next answer past a _ ih =>
    rw [List.map_cons, List.countP_cons]
    cases h with
    | other other rest => simpa [other] using ih (rest answer)
    | counted rest =>
      have le := ih (rest answer)
      split <;> omega

end AtMost

end Program

/-! ## Repeating -/

namespace Retry

open Program (AtMost)

variable {α : Type} {kind : Action → Prop} {n extra : Nat} {policy : RetryPolicy}
  {attempt : Task (ProviderResult α)}

theorem atMost_pause (sleeps : ∀ span, ¬kind (.sleep span)) (aborts : ¬kind .abort)
    (index : Nat) (retryAfter : Option Duration) :
    AtMost kind 0 (pause policy index retryAfter) := by
  unfold pause pauseFor
  split
  · exact .request_other (sleeps _)
  · exact .other aborts fun impossible => nomatch impossible

theorem atMost_react (single : AtMost kind n attempt)
    {unauthorized : String → Task (ProviderResult α)}
    {limited : String → Option Duration → Task (ProviderResult α)}
    (hu : ∀ text, AtMost kind extra (unauthorized text))
    (hl : ∀ text retryAfter, AtMost kind extra (limited text retryAfter)) :
    AtMost kind (n + extra) (react attempt unauthorized limited) := by
  refine single.bind fun outcome => ?_
  split
  · exact hu _
  · exact hl _ _
  · exact .done _

/-- All rounds together keep to the bounds of as many calls. -/
theorem atMost_roundsLeft {pauseSpan : Duration} {accepts : ProviderError → Bool}
    {round : Task (ProviderResult α)} (single : AtMost kind n round)
    (sleeps : ¬kind (.sleep pauseSpan)) (left : Nat) :
    AtMost kind ((left + 1) * n) (roundsLeft pauseSpan accepts round left) := by
  induction left with
  | zero => exact single.mono (by omega)
  | succ left ih =>
    refine AtMost.mono (n := n + (left + 1) * n) (single.bind fun outcome => ?_) ?_
    · split
      · split
        · exact (AtMost.bind (n := 0) (.request_other sleeps) fun _ => ih).mono (by omega)
        · exact .done _
      · exact .done _
    · rw [Nat.succ_mul (left + 1), Nat.add_comm]

variable (sleeps : ∀ span, ¬kind (.sleep span)) (aborts : ¬kind .abort)
include sleeps aborts

/-- With `left` more attempts, and what is done about a refusal as unauthorized. -/
theorem atMost_attempts (single : AtMost kind n attempt)
    {unauthorized : Nat → String → Task (ProviderResult α)}
    (hu : ∀ left text, AtMost kind (left * n + extra) (unauthorized left text)) (left : Nat) :
    AtMost kind (n + (left * n + extra)) (attempts policy attempt unauthorized left) := by
  induction left with
  | zero => exact atMost_react single (hu 0) fun _ _ => .done _
  | succ left ih =>
    refine atMost_react single (hu (left + 1)) fun _ retryAfter => ?_
    refine ((atMost_pause sleeps aborts _ _).bind fun _ => ih).mono ?_
    rw [Nat.succ_mul]
    omega

theorem atMost_renew (single : AtMost kind n attempt)
    (refresh : AtMost kind extra (Task.provider .refreshCredentials)) (left : Nat) (text : String) :
    AtMost kind (left * n + (n + extra)) (renew policy attempt left text) := by
  have again : AtMost kind (n + (left * n + 0)) (attemptsAgain policy attempt left) :=
    atMost_attempts sleeps aborts single (fun _ _ => .done _) left
  refine AtMost.mono (n := extra + (n + (left * n + 0))) (refresh.bind fun refreshed => ?_)
    (by omega)
  cases refreshed with
  | ok _ => exact again
  | error e => exact .done _

/-- A call makes one attempt more than may be rate limited, and one refresh. -/
theorem atMost_call (single : AtMost kind n attempt)
    (refresh : AtMost kind extra (Task.provider .refreshCredentials)) :
    AtMost kind ((max 1 policy.maxAttempts + 1) * n + extra) (call policy attempt) := by
  refine AtMost.mono (atMost_attempts sleeps aborts single
    (atMost_renew sleeps aborts single refresh) (policy.maxAttempts - 1)) ?_
  obtain ⟨tolerated, first⟩ : ∃ j, max 1 policy.maxAttempts = j + 1 :=
    Nat.exists_eq_add_of_le' (Nat.le_max_left _ _)
  rw [show policy.maxAttempts - 1 = tolerated by omega, first, Nat.succ_mul, Nat.succ_mul]
  omega

end Retry

/-! ## Rounds -/

/-- The events of so many complete calls, each of which ends with a conflict and has a pause behind
it. -/
inductive Conflicts (policy : RetryPolicy) (c : ProviderCall) (span : Duration) :
    Nat → Trace → Prop where
  | none : Conflicts policy c span 0 []
  | round {n : Nat} {call rest : Trace} {text : String}
      (ran : Program.Runs (Retry.call policy (Task.provider c)) call (.error (.conflict text)))
      (later : Conflicts policy c span n rest) :
      Conflicts policy c span (n + 1) (call ++ ⟨.sleep span, ()⟩ :: rest)

/-- The course of up to `count` rounds.  Those before the last one end with a conflict; the last one
may do so too if no further one is left, and its outcome is the outcome of all. -/
inductive Rounds (policy : RetryPolicy) (c : ProviderCall) (span : Duration) (count : Nat)
    (trace : Trace) (outcome : ProviderResult c.Reply) : Prop where
  | over {conflicts : Nat} {earlier last : Trace} (cut : trace = earlier ++ last)
      (conflicted : Conflicts policy c span conflicts earlier) (few : conflicts < count)
      (ran : Program.Runs (Retry.call policy (Task.provider c)) last outcome)
      (exhausted : (∃ text, outcome = .error (.conflict text)) → conflicts + 1 = count)

/-- Rounds that are not over: a call is being made, or there is a pause after one. -/
inductive Underway (policy : RetryPolicy) (c : ProviderCall) (span : Duration) (count : Nat)
    (past : Trace) (posed : Action) : Prop where
  | calling {conflicts : Nat} {earlier now : Trace} (cut : past = earlier ++ now)
      (conflicted : Conflicts policy c span conflicts earlier) (few : conflicts < count)
      (posing : Program.Poses (Retry.call policy (Task.provider c)) now posed)
  | pausing {conflicts : Nat} {earlier last : Trace} {text : String} (cut : past = earlier ++ last)
      (conflicted : Conflicts policy c span conflicts earlier) (few : conflicts + 1 < count)
      (ran : Program.Runs (Retry.call policy (Task.provider c)) last (.error (.conflict text)))
      (pauses : posed = .sleep span)

section Rounds

variable {policy : RetryPolicy} {c : ProviderCall} {span : Duration} {left : Nat}
  {trace past call rest : Trace} {posed : Action} {outcome : ProviderResult c.Reply}

theorem Manager.isConflict_iff {e : ProviderError} :
    isConflict e = true ↔ ∃ text, e = .conflict text := by
  cases e <;> simp [isConflict]

/-- A round that ends with a conflict comes before the others. -/
theorem Rounds.after {text : String} (h : Rounds policy c span left trace outcome)
    (ran : Program.Runs (Retry.call policy (Task.provider c)) call (.error (.conflict text))) :
    Rounds policy c span (left + 1) (call ++ ⟨.sleep span, ()⟩ :: trace) outcome := by
  obtain ⟨cut, conflicted, few, last, exhausted⟩ := h
  have conflicted := Conflicts.round ran conflicted
  exact .over (by rw [cut]; simp) conflicted (Nat.succ_lt_succ few) last fun conflict =>
    congrArg (· + 1) (exhausted conflict)

theorem Underway.after {text : String} (h : Underway policy c span left past posed)
    (ran : Program.Runs (Retry.call policy (Task.provider c)) call (.error (.conflict text))) :
    Underway policy c span (left + 1) (call ++ ⟨.sleep span, ()⟩ :: past) posed := by
  cases h with
  | calling cut conflicted few posing =>
    exact .calling (by rw [cut]; simp) (.round ran conflicted) (Nat.succ_lt_succ few) posing
  | pausing cut conflicted few last pauses =>
    exact .pausing (by rw [cut]; simp) (.round ran conflicted) (Nat.succ_lt_succ few) last pauses

/-- What is left of the rounds takes the course of rounds. -/
theorem rounds_of_runs (ran : Program.Runs (Retry.roundsLeft span Manager.isConflict
      (Retry.call policy (Task.provider c)) left) trace outcome) :
    Rounds policy c span (left + 1) trace outcome := by
  induction left generalizing trace with
  | zero => exact .over rfl .none (Nat.lt_succ_self 0) ran fun _ => rfl
  | succ left ih =>
    obtain ⟨first, after, ended, rfl, ranFirst, ranRest⟩ := Program.runs_bind_iff.1 ran
    have single (final : outcome = ended)
        (other : ¬∃ text, ended = .error (.conflict text)) (nothing : after = []) :
        Rounds policy c span (left + 2) (first ++ after) outcome := by
      subst final nothing
      exact .over (List.append_nil _) .none (Nat.succ_pos _) ranFirst fun conflict =>
        absurd conflict other
    cases ended with
    | ok reply =>
      obtain ⟨nothing, final⟩ := Program.runs_done_iff.1 ranRest
      exact single final (by simp) nothing
    | error e =>
      dsimp only at ranRest
      split at ranRest
      · rename_i conflict
        obtain ⟨text, rfl⟩ := Manager.isConflict_iff.1 conflict
        obtain ⟨paused, later, _, rfl, hp, hl⟩ := Program.runs_bind_iff.1 ranRest
        obtain rfl := Program.runs_request_iff.1 hp
        exact (ih hl).after ranFirst
      · rename_i other
        obtain ⟨nothing, final⟩ := Program.runs_done_iff.1 ranRest
        refine single final ?_ nothing
        rintro ⟨text, same⟩
        exact other (Manager.isConflict_iff.2 ⟨text, Except.error.inj same⟩)

/-- What is posed in the rounds is posed by one of the calls, or it is a pause. -/
theorem underway_of_poses (h : Program.Poses (Retry.roundsLeft span Manager.isConflict
      (Retry.call policy (Task.provider c)) left) past posed) :
    Underway policy c span (left + 1) past posed := by
  induction left generalizing past with
  | zero => exact .calling rfl .none (Nat.lt_succ_self 0) h
  | succ left ih =>
    rcases Program.poses_bind_iff.1 h with now | ⟨first, after, ended, rfl, ranFirst, later⟩
    · exact .calling rfl .none (Nat.succ_pos _) now
    cases ended with
    | ok reply => exact absurd later Program.not_poses_done
    | error e =>
      dsimp only at later
      split at later
      · rename_i conflict
        obtain ⟨text, rfl⟩ := Manager.isConflict_iff.1 conflict
        rcases Program.poses_bind_iff.1 later with now | ⟨paused, rest, _, rfl, hp, hl⟩
        · obtain ⟨rfl, rfl⟩ := Program.poses_request_iff.1 now
          exact .pausing (by simp) .none (Nat.succ_lt_succ (Nat.succ_pos _)) ranFirst rfl
        · obtain rfl := Program.runs_request_iff.1 hp
          exact (ih hl).after ranFirst
      · exact absurd later Program.not_poses_done

end Rounds

/-! ## Attaching a disk -/

namespace Manager

open Verb

variable (m : Manager)

/-- The calls that attaching a disk makes before and behind its rounds. -/
def Looks (vm disk : ResourceId) (c : ProviderCall) : Prop :=
  c = .describeVm vm ∨ c = .describeVolume disk

theorem embeds_attachDisk (vm disk : ResourceId) :
    Embeds (Looks vm disk) (m.requestAttach vm disk) (m.attachDisk vm disk) := by
  refine ((m.calls_requireVm vm).keepsTo fun _ => .inl).embeds_bind fun seen => ?_
  refine ((m.calls_requireVolume disk).keepsTo fun _ => .inr).embeds_bind fun volume => ?_
  refine (keepsTo_settings _).embeds_bind fun settings => ?_
  refine (keepsTo_outcome _).embeds_bind fun attached => ?_
  cases attached with
  | some device => exact (keepsTo_pure _).embeds _
  | none =>
    dsimp only
    split
    · exact (keepsTo_throw _).embeds _
    · rename_i device _
      have record : KeepsTo (Looks vm disk) (do
          Verb.settings (.update seen.name (recordDevice settings disk device))
          return device) := (keepsTo_settings _).bind fun _ => keepsTo_pure _
      split
      · refine embeds_step fun _ => ?_
        exact ((m.calls_waitVolume _ _).keepsTo fun _ => .inr).bind fun _ => record
      · exact record.embeds _

/-- No more of these actions ask for the disk to be attached, or refresh the credentials, than the
calls of fifteen rounds may. -/
structure AttachBudget (vm disk : ResourceId) (asked : List Action) : Prop where
  attaches : asked.count (.provider (.attachVolume disk vm)) ≤
    15 * (max 1 m.options.retry.maxAttempts + 1)
  refreshes : asked.count (.provider .refreshCredentials) ≤ 15

section Budget

variable {m : Manager} {vm disk : ResourceId}

theorem atMost_requestAttach {kind : Action → Prop} {n extra : Nat}
    (sleeps : ∀ span, ¬kind (.sleep span)) (aborts : ¬kind .abort)
    (single : Program.AtMost kind n (Task.provider (.attachVolume disk vm)))
    (refresh : Program.AtMost kind extra (Task.provider .refreshCredentials)) :
    Program.AtMost kind (15 * ((max 1 m.options.retry.maxAttempts + 1) * n + extra))
      (m.requestAttach vm disk).run :=
  (Retry.atMost_roundsLeft (Retry.atMost_call sleeps aborts single refresh) (sleeps _) 14).bind
    (k := 0) fun _ => .done _

theorem atMost_attachVolume : Program.AtMost (· = .provider (.attachVolume disk vm))
    (15 * (max 1 m.options.retry.maxAttempts + 1)) (m.requestAttach vm disk).run :=
  (atMost_requestAttach (n := 1) nofun nofun (.request_counted _)
    (.request_other (n := 0) nofun)).mono (by omega)

theorem atMost_refreshCredentials : Program.AtMost (· = .provider .refreshCredentials)
    15 (m.requestAttach vm disk).run :=
  (atMost_requestAttach (n := 0) nofun nofun (.request_other nofun)
    (.request_counted _)).mono (by omega)

theorem attachBudget_of_runs {trace : Trace} {result : Except CpiError Unit}
    (ran : (m.requestAttach vm disk).Runs trace result) :
    m.AttachBudget vm disk (trace.map Program.Event.question) where
  attaches := atMost_attachVolume.countP_le_of_runs ran
  refreshes := atMost_refreshCredentials.countP_le_of_runs ran

theorem attachBudget_of_poses {past : Trace} {posed : Action}
    (posing : (m.requestAttach vm disk).Poses past posed) :
    m.AttachBudget vm disk (past.map Program.Event.question ++ [posed]) where
  attaches := atMost_attachVolume.countP_le_of_poses posing
  refreshes := atMost_refreshCredentials.countP_le_of_poses posing

end Budget

/-- **The rounds of attaching a disk.**  A run makes no attach call at all, or it makes those of one
course of up to fifteen rounds with two seconds between them: complete calls, of which all but the
last end with a conflict.  Another outcome than success ends the run with it, and it is a conflict
only if all fifteen rounds ended so.  Runs that are not over have made a part of this. -/
theorem attachDisk_rounds (m : Manager) (vm disk : ResourceId) :
    (∀ trace result, (m.attachDisk vm disk).Runs trace result →
      trace.CallsIn (Looks vm disk) ∨ ∃ before inner after outcome,
        trace = before ++ (inner ++ after) ∧
          before.CallsIn (Looks vm disk) ∧ after.CallsIn (Looks vm disk) ∧
          Rounds m.options.retry (.attachVolume disk vm) (Duration.ofSeconds 2) 15 inner outcome ∧
          (∀ e, outcome = .error e → after = [] ∧ result = .error (.provider e)) ∧
          m.AttachBudget vm disk (inner.map Program.Event.question)) ∧
    ∀ past posed, (m.attachDisk vm disk).Poses past posed →
      (past.CallsIn (Looks vm disk) ∧ posed.CallsIn (Looks vm disk)) ∨
        (∃ before now, past = before ++ now ∧ before.CallsIn (Looks vm disk) ∧
          Underway m.options.retry (.attachVolume disk vm) (Duration.ofSeconds 2) 15 now posed ∧
          m.AttachBudget vm disk (now.map Program.Event.question ++ [posed])) ∨
        ∃ before inner after, past = before ++ (inner ++ after) ∧
          before.CallsIn (Looks vm disk) ∧ after.CallsIn (Looks vm disk) ∧
          posed.CallsIn (Looks vm disk) ∧
          Rounds m.options.retry (.attachVolume disk vm) (Duration.ofSeconds 2) 15 inner (.ok ()) ∧
          m.AttachBudget vm disk (inner.map Program.Event.question) := by
  have parts := m.embeds_attachDisk vm disk
  refine ⟨fun trace result ran => ?_, fun past posed posing => ?_⟩
  · rcases parts.runs ran with quiet | ⟨before, inner, after, ended, cut, hb, hi, ha, fails⟩
    · exact .inl quiet
    obtain ⟨outcome, rounds, rfl⟩ := runs_mapError_iff.1 hi
    refine .inr ⟨before, inner, after, outcome, cut, hb, ha, rounds_of_runs rounds, ?_,
      attachBudget_of_runs hi⟩
    rintro e rfl
    exact fails _ rfl
  · rcases parts.poses posing with quiet | ⟨before, now, cut, hb, inside⟩ |
      ⟨before, inner, after, _, cut, hb, hi, ha, next⟩
    · exact .inl quiet
    · have underway := underway_of_poses (poses_mapError_iff.1 inside)
      exact .inr (.inl ⟨before, now, cut, hb, underway, attachBudget_of_poses inside⟩)
    · obtain ⟨outcome, rounds, same⟩ := runs_mapError_iff.1 hi
      rw [mapError_eq_ok_iff.1 same.symm] at rounds
      exact .inr (.inr ⟨before, inner, after, cut, hb, ha, next, rounds_of_runs rounds,
        attachBudget_of_runs hi⟩)

/-- A conflict, and then a round with a refresh of the credentials that fails for another reason. -/
theorem attachDisk_rounds_refreshed : ∃ trace before inner after outcome,
    (small.attachDisk ⟨"i-1"⟩ ⟨"d-1"⟩).Runs trace (.error (.provider (.serverError "down"))) ∧
      trace = before ++ (inner ++ after) ∧
      Rounds .standard (.attachVolume ⟨"d-1"⟩ ⟨"i-1"⟩) (Duration.ofSeconds 2) 15 inner outcome ∧
      small.AttachBudget ⟨"i-1"⟩ ⟨"d-1"⟩ (inner.map Program.Event.question) := by
  let attach : ProviderCall := .attachVolume ⟨"d-1"⟩ ⟨"i-1"⟩
  let vm : VmInfo := ⟨⟨"i-1"⟩, "vm-1", .running, none, [], none⟩
  let volume : VolumeInfo := ⟨⟨"d-1"⟩, "disk-1", .available, 1, none⟩
  let trace : Trace := [⟨.provider (.describeVm ⟨"i-1"⟩), .ok (some vm)⟩,
    ⟨.provider (.describeVolume ⟨"d-1"⟩), .ok (some volume)⟩,
    ⟨.settings (.read "vm-1"), .ok (.initial "vm-1" "agent" Dict.empty none)⟩,
    ⟨.provider attach, .error (.conflict "busy")⟩, ⟨.sleep attachPause, ()⟩,
    ⟨.provider attach, .error (.unauthorized "expired")⟩,
    ⟨.provider .refreshCredentials, .ok ()⟩,
    ⟨.provider attach, .error (.serverError "down")⟩]
  have ran : (small.attachDisk ⟨"i-1"⟩ ⟨"d-1"⟩).Runs trace
      (.error (.provider (.serverError "down"))) :=
    .ask _ (.ask _ (.ask _ (.ask _ (.ask _ (.ask _ (.ask _ (.ask _ (.done _))))))))
  rcases (small.attachDisk_rounds ⟨"i-1"⟩ ⟨"d-1"⟩).1 trace _ ran with
    quiet | ⟨before, inner, after, outcome, cut, _, _, rounds, _, budget⟩
  · have asked : ⟨.provider attach, .error (.conflict "busy")⟩ ∈ trace := by simp [trace]
    exact absurd asked (quiet.not_mem (by simp [attach]) (by simp [attach, Looks]) _)
  · exact ⟨trace, before, inner, after, outcome, ran, cut, rounds, budget⟩

end Manager

end CloudLifecycle

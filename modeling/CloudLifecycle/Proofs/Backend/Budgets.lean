import CloudLifecycle.Proofs.Runs.Playing
import CloudLifecycle.Proofs.Runs.Reports
import Mathlib.Data.Nat.Count
import Mathlib.Order.Bounds.Basic

/-!
# The two budgets of a call

A call may be refused as unauthorized once, and be rate limited as often as its policy allows.  Each
refusal counts against its own budget, in whatever order they come.  `Retry.Ends` says which answer
a call makes its outcome, in terms of these two counts and of nothing else, and `Retry.Service`
holds what a call relies on in its surroundings.

An attempt that does not end the call leads over its repair to the next one
(`Service.leads_round`), and one that does to the end (`Service.leads_last`).  So a call makes its
attempts up to the first answer that ends it, and there is one within the budgets; only a refresh of
the credentials that fails cuts this short (`Service.call_ends`).
-/

set_option autoImplicit false

namespace CloudLifecycle

/-- The pause after each tolerated limit, without the backend asking for one, is a duration. -/
def RetryPolicy.Paces (policy : RetryPolicy) (delays : Nat → Duration) : Prop :=
  ∀ j, j + 1 < policy.maxAttempts → policy.delay? j = some (delays j)

/-- The usual pauses are one second, two seconds and so on. -/
theorem RetryPolicy.paces_standard :
    RetryPolicy.standard.Paces fun j => Duration.ofSeconds (2 ^ j) := by
  intro j hj
  change j + 1 < 3 at hj
  obtain rfl | rfl : j = 0 ∨ j = 1 := by omega
  · decide +kernel
  · decide +kernel

namespace Retry

variable {α : Type}

def isUnauthorized : ProviderResult α → Bool
  | .error (.unauthorized _) => true
  | _ => false

def isRateLimited : ProviderResult α → Bool
  | .error (.rateLimited _ _) => true
  | _ => false

/-- How many of the first `n` answers are of some kind. -/
def among (kind : ProviderResult α → Bool) (answers : Nat → ProviderResult α) (n : Nat) : Nat :=
  Nat.count (fun i => kind (answers i) = true) n

/-- The answer cannot be repaired: it is no refusal, or the last one of its budget. -/
inductive Ends (policy : RetryPolicy) (answers : Nat → ProviderResult α) (n : Nat) : Prop where
  | final (h : Final (answers n))
  | unauthorized (h : isUnauthorized (answers n) = true)
      (second : among isUnauthorized answers (n + 1) = 2)
  | rateLimited (h : isRateLimited (answers n) = true)
      (last : among isRateLimited answers (n + 1) = max 1 policy.maxAttempts)

/-! ## Counting refusals -/

section Counts

variable {policy : RetryPolicy} {answers : Nat → ProviderResult α} {n : Nat}

theorem among_succ (kind : ProviderResult α → Bool) :
    among kind answers (n + 1) = among kind answers n + if kind (answers n) = true then 1 else 0 :=
  Nat.count_succ _ n

/-- An answer ends the call by itself, or it counts against one of the budgets. -/
theorem final_or_refused (answer : ProviderResult α) :
    Final answer ∨ (∃ text, answer = .error (.unauthorized text)) ∨
      ∃ text retryAfter, answer = .error (.rateLimited text retryAfter) := by
  cases answer with
  | ok reply => exact .inl trivial
  | error e =>
    cases e with
    | unauthorized text => exact .inr (.inl ⟨text, rfl⟩)
    | rateLimited text retryAfter => exact .inr (.inr ⟨text, retryAfter, rfl⟩)
    | notFound _ | conflict _ | badRequest _ | serverError _ | transport _ | decode _ =>
      exact .inl trivial

theorem exists_of_isUnauthorized {answer : ProviderResult α} (h : isUnauthorized answer = true) :
    ∃ text, answer = .error (.unauthorized text) := by
  unfold isUnauthorized at h
  split at h
  · exact ⟨_, rfl⟩
  · cases h

theorem exists_of_isRateLimited {answer : ProviderResult α} (h : isRateLimited answer = true) :
    ∃ text retryAfter, answer = .error (.rateLimited text retryAfter) := by
  unfold isRateLimited at h
  split at h
  · exact ⟨_, _, rfl⟩
  · cases h

/-- As long as no answer has ended the call, each one counts against one of the budgets, and there
is something left of both. -/
theorem among_of_unended (h : ∀ i < n, ¬Ends policy answers i) :
    among isUnauthorized answers n + among isRateLimited answers n = n ∧
      among isUnauthorized answers n ≤ 1 ∧
      among isRateLimited answers n < max 1 policy.maxAttempts := by
  induction n with
  | zero =>
    have room : 0 < max 1 policy.maxAttempts := by omega
    exact ⟨rfl, Nat.zero_le 1, room⟩
  | succ n ih =>
    obtain ⟨total, once, room⟩ := ih fun i hi => h i (Nat.lt_succ_of_lt hi)
    have unended := h n (Nat.lt_succ_self n)
    have second : isUnauthorized (answers n) = true →
        among isUnauthorized answers (n + 1) ≠ 2 := fun refused last =>
      unended (.unauthorized refused last)
    have exhausted : isRateLimited (answers n) = true →
        among isRateLimited answers (n + 1) ≠ max 1 policy.maxAttempts := fun refused last =>
      unended (.rateLimited refused last)
    simp only [among_succ] at second exhausted ⊢
    rcases final_or_refused (answers n) with final | ⟨text, refused⟩ | ⟨text, retryAfter, refused⟩
    · exact absurd (.final final) unended
    · rw [refused] at second exhausted ⊢
      simp [isUnauthorized, isRateLimited] at second ⊢
      omega
    · rw [refused] at second exhausted ⊢
      simp [isUnauthorized, isRateLimited] at exhausted ⊢
      omega

/-- A tolerated answer that refuses the call as unauthorized is the first one. -/
theorem among_of_tolerated (h : ∀ i < n + 1, ¬Ends policy answers i)
    (refused : isUnauthorized (answers n) = true) : among isUnauthorized answers n = 0 := by
  obtain ⟨-, once, -⟩ := among_of_unended h
  rw [among_succ, if_pos refused] at once
  omega

/-- The budgets are finite: one of so many answers ends the call. -/
theorem exists_isLeast_ends (policy : RetryPolicy) (answers : Nat → ProviderResult α) :
    ∃ n ≤ max 1 policy.maxAttempts, IsLeast {i | Ends policy answers i} n := by
  classical
  have ends : ∃ n, n ≤ max 1 policy.maxAttempts ∧ Ends policy answers n := by
    by_contra unended
    have open_ : ∀ i < max 1 policy.maxAttempts + 1, ¬Ends policy answers i := fun i hi ends =>
      unended ⟨i, Nat.lt_succ_iff.1 hi, ends⟩
    have counts := among_of_unended open_
    omega
  have found : ∃ n, Ends policy answers n := ends.imp fun _ => And.right
  obtain ⟨n, hn, hends⟩ := ends
  refine ⟨Nat.find found, (Nat.find_min' found hends).trans hn, Nat.find_spec found, ?_⟩
  intro i hi
  exact Nat.find_min' found hi

end Counts

/-! ## The service -/

/-- Surroundings of a call.  Each attempt gets the next one of the answers; it may take time and
change everything else.  Every refresh of the credentials has the same outcome. -/
structure Service (attempt : Task (ProviderResult α)) (answers : Nat → ProviderResult α)
    (refresh : ProviderResult Unit) (ω : Type) extends Surroundings Action Action.Answer ω where
  /-- The number of attempts that were made. -/
  made : ω → Nat
  /-- The state after an attempt. -/
  attempted : ω → ω
  /-- The state after a refresh of the credentials. -/
  refreshed : ω → ω
  /-- The state after a pause. -/
  paused : Duration → ω → ω
  run_attempt (state : ω) :
    toSurroundings.run attempt state = (some (answers (made state)), attempted state)
  answer_refresh (state : ω) :
    answer (.provider .refreshCredentials) state = (some refresh, refreshed state)
  answer_sleep (span : Duration) (state : ω) :
    answer (.sleep span) state = (some (), paused span state)
  made_attempted (state : ω) : made (attempted state) = made state + 1
  made_refreshed (state : ω) : made (refreshed state) = made state
  made_paused (span : Duration) (state : ω) : made (paused span state) = made state

/-- The pause after the limit number `j`: what the backend asked for or the policy says, and no
longer than the policy allows. -/
def pauseSpan (policy : RetryPolicy) (delays : Nat → Duration) (j : Nat)
    (retryAfter : Option Duration) : Duration :=
  min (retryAfter.getD (delays j)) policy.maxDelay

theorem pauseFor_eq {policy : RetryPolicy} {delays : Nat → Duration} (paces : policy.Paces delays)
    {j : Nat} (tolerated : j + 1 < policy.maxAttempts) (retryAfter : Option Duration) :
    pause policy j retryAfter = Task.sleep (pauseSpan policy delays j retryAfter) := by
  unfold pause
  cases retryAfter with
  | some span => rfl
  | none =>
    rw [Option.orElse_none, paces j tolerated]
    rfl

/-- What a call does about an answer that it tolerates. -/
def repair (policy : RetryPolicy) (delays : Nat → Duration) (answers : Nat → ProviderResult α)
    (refresh : ProviderResult Unit) (i : Nat) : Trace :=
  match answers i with
  | .error (.unauthorized _) => [⟨.provider .refreshCredentials, refresh⟩]
  | .error (.rateLimited _ retryAfter) =>
    [⟨.sleep (pauseSpan policy delays (among isRateLimited answers i) retryAfter), ()⟩]
  | _ => []

/-- What a call does about a refusal as unauthorized, as long as it may refresh the credentials. -/
def renew (policy : RetryPolicy) (attempt : Task (ProviderResult α)) (left : Nat) (_ : String) :
    Task (ProviderResult α) := do
  match ← Task.provider .refreshCredentials with
  | .ok () => attemptsAgain policy attempt left
  | .error e => pure (.error e)

/-- What is left of a call before attempt `i`. -/
def resume (policy : RetryPolicy) (attempt : Task (ProviderResult α))
    (answers : Nat → ProviderResult α) (i : Nat) : Task (ProviderResult α) :=
  let left := policy.maxAttempts - 1 - among isRateLimited answers i
  if among isUnauthorized answers i = 0 then attempts policy attempt (renew policy attempt) left
  else attemptsAgain policy attempt left

namespace Service

variable {attempt : Task (ProviderResult α)} {answers : Nat → ProviderResult α}
  {refresh : ProviderResult Unit} {ω : Type} (service : Service attempt answers refresh ω)
  (policy : RetryPolicy) (delays : Nat → Duration) (start : ω)

/-! ## Attempts and their repairs -/

/-- The state after the repair of answer `i`. -/
def repaired (i : Nat) (state : ω) : ω :=
  match answers i with
  | .error (.unauthorized _) => service.refreshed state
  | .error (.rateLimited _ retryAfter) =>
    service.paused (pauseSpan policy delays (among isRateLimited answers i) retryAfter) state
  | _ => state

/-- The state before attempt `i`, the first one being attempt 0. -/
def before : Nat → ω
  | 0 => start
  | i + 1 => service.repaired policy delays i (service.attempted (before i))

/-- The events of attempt `i`. -/
def polled (i : Nat) : Trace := service.events attempt (service.before policy delays start i)

/-- The events of the first `n` attempts with their repairs. -/
def rounds (n : Nat) : Trace :=
  (List.range n).flatMap fun i =>
    service.polled policy delays start i ++ repair policy delays answers refresh i

variable {service policy delays start} {i n : Nat}

theorem rounds_succ : service.rounds policy delays start (n + 1) =
    service.rounds policy delays start n ++
      (service.polled policy delays start n ++ repair policy delays answers refresh n) := by
  rw [rounds, List.range_succ, List.flatMap_append, List.flatMap_singleton]
  rfl

theorem made_before (unused : service.made start = 0) (i : Nat) :
    service.made (service.before policy delays start i) = i := by
  induction i with
  | zero => exact unused
  | succ i ih =>
    rw [before, repaired]
    split <;> simp [made_attempted, made_refreshed, made_paused, ih]

/-- An attempt leads to what is done about its answer. -/
theorem leads_react (unused : service.made start = 0)
    {onUnauthorized : String → Task (ProviderResult α)}
    {onLimited : String → Option Duration → Task (ProviderResult α)}
    {rest : Task (ProviderResult α)}
    (h : (match answers i with
      | .error (.unauthorized text) => onUnauthorized text
      | .error (.rateLimited text retryAfter) => onLimited text retryAfter
      | other => pure other) = rest) :
    service.Leads (react attempt onUnauthorized onLimited)
      (service.before policy delays start i) (service.polled policy delays start i) rest
      (service.attempted (service.before policy delays start i)) := by
  have ran := service.run_attempt (service.before policy delays start i)
  rw [made_before unused] at ran
  rw [← h]
  exact (Surroundings.Leads.of_run ran).bind

/-- An attempt that is refused as unauthorized leads to what is done about that. -/
theorem leads_unauthorized (unused : service.made start = 0) {text : String}
    (refused : answers i = .error (.unauthorized text))
    (onUnauthorized : Nat → String → Task (ProviderResult α)) (left : Nat) :
    service.Leads (attempts policy attempt onUnauthorized left)
      (service.before policy delays start i) (service.polled policy delays start i)
      (onUnauthorized left text) (service.attempted (service.before policy delays start i)) := by
  cases left <;> exact leads_react unused (by rw [refused])

/-- An attempt without a refusal leads to the end. -/
theorem leads_final (unused : service.made start = 0) (final : Final (answers i))
    (onUnauthorized : Nat → String → Task (ProviderResult α)) (left : Nat) :
    service.Leads (attempts policy attempt onUnauthorized left)
      (service.before policy delays start i) (service.polled policy delays start i)
      (.done (answers i)) (service.attempted (service.before policy delays start i)) := by
  have resolved {onUnauthorized : String → Task (ProviderResult α)}
      {onLimited : String → Option Duration → Task (ProviderResult α)} :
      (match answers i with
        | .error (.unauthorized text) => onUnauthorized text
        | .error (.rateLimited text retryAfter) => onLimited text retryAfter
        | other => pure other) = Program.done (answers i) := by
    split
    · rename_i text refused
      rw [refused] at final
      exact final.elim
    · rename_i text retryAfter refused
      rw [refused] at final
      exact final.elim
    · rfl
  cases left <;> exact leads_react unused resolved

/-- An attempt that is rate limited leads over the pause to the next one. -/
theorem leads_limited (unused : service.made start = 0) (paces : policy.Paces delays)
    {text : String} {retryAfter : Option Duration}
    (refused : answers i = .error (.rateLimited text retryAfter))
    (onUnauthorized : Nat → String → Task (ProviderResult α)) {left : Nat}
    (more : among isRateLimited answers i + 1 + left = policy.maxAttempts - 1) :
    service.Leads (attempts policy attempt onUnauthorized (left + 1))
      (service.before policy delays start i)
      (service.polled policy delays start i ++ repair policy delays answers refresh i)
      (attempts policy attempt onUnauthorized left)
      (service.before policy delays start (i + 1)) := by
  have number : policy.maxAttempts - 2 - left = among isRateLimited answers i := by omega
  have tolerated : among isRateLimited answers i + 1 < policy.maxAttempts := by omega
  have paused := pauseFor_eq paces tolerated retryAfter
  have answered := service.answer_sleep
    (pauseSpan policy delays (among isRateLimited answers i) retryAfter)
    (service.attempted (service.before policy delays start i))
  simp only [before, repaired, repair, refused]
  refine (leads_react unused (by rw [refused])).trans ?_
  rw [number]
  dsimp only
  rw [paused]
  exact .ask answered

/-- **An attempt that does not end the call leads over its repair to the next one.** -/
theorem leads_round (unused : service.made start = 0) (paces : policy.Paces delays)
    (unended : ∀ k < i + 1, ¬Ends policy answers k)
    (renewed : isUnauthorized (answers i) = true → refresh = .ok ()) :
    service.Leads (resume policy attempt answers i) (service.before policy delays start i)
      (service.polled policy delays start i ++ repair policy delays answers refresh i)
      (resume policy attempt answers (i + 1)) (service.before policy delays start (i + 1)) := by
  obtain ⟨-, once, room⟩ := among_of_unended unended
  rcases final_or_refused (answers i) with final | ⟨text, refused⟩ | ⟨text, retryAfter, refused⟩
  · exact absurd (.final final) (unended i (Nat.lt_succ_self i))
  · obtain rfl : refresh = .ok () := renewed (by rw [refused]; rfl)
    have spent : among isUnauthorized answers (i + 1) = among isUnauthorized answers i + 1 := by
      simp [among_succ, refused, isUnauthorized]
    have kept : among isRateLimited answers (i + 1) = among isRateLimited answers i := by
      simp [among_succ, refused, isRateLimited]
    have first : among isUnauthorized answers i = 0 := by omega
    have asked := service.answer_refresh (service.attempted (service.before policy delays start i))
    simp only [resume, before, repaired, repair, refused, spent, kept, first, if_true]
    exact (leads_unauthorized unused refused _ _).trans (.ask asked)
  · have kept : among isUnauthorized answers (i + 1) = among isUnauthorized answers i := by
      simp [among_succ, refused, isUnauthorized]
    have spent : among isRateLimited answers (i + 1) = among isRateLimited answers i + 1 := by
      simp [among_succ, refused, isRateLimited]
    obtain ⟨left, hleft⟩ : ∃ left,
        among isRateLimited answers i + 1 + left = policy.maxAttempts - 1 :=
      Nat.exists_eq_add_of_le (by omega : _ ≤ _) |>.imp fun _ => Eq.symm
    have now : policy.maxAttempts - 1 - among isRateLimited answers i = left + 1 := by omega
    have later : policy.maxAttempts - 1 - (among isRateLimited answers i + 1) = left := by omega
    simp only [resume, kept, spent, now, later]
    split
    · exact leads_limited unused paces refused _ hleft
    · exact leads_limited unused paces refused _ hleft

/-- **An attempt that ends the call leads to the end.** -/
theorem leads_last (unused : service.made start = 0) (ends : Ends policy answers i)
    (first : ∀ k < i, ¬Ends policy answers k) :
    service.Leads (resume policy attempt answers i) (service.before policy delays start i)
      (service.polled policy delays start i) (.done (answers i))
      (service.attempted (service.before policy delays start i)) := by
  obtain ⟨-, once, room⟩ := among_of_unended first
  cases ends with
  | final final =>
    unfold resume
    split
    · exact leads_final unused final _ _
    · exact leads_final unused final _ _
  | unauthorized h second =>
    rw [among_succ, if_pos h] at second
    have spent : ¬among isUnauthorized answers i = 0 := by omega
    obtain ⟨text, refused⟩ := exists_of_isUnauthorized h
    rw [resume, if_neg spent, refused]
    exact leads_unauthorized unused refused _ _
  | rateLimited h last =>
    rw [among_succ, if_pos h] at last
    have spent : policy.maxAttempts - 1 - among isRateLimited answers i = 0 := by omega
    obtain ⟨text, retryAfter, refused⟩ := exists_of_isRateLimited h
    simp only [resume, spent]
    split
    · exact leads_react unused (by rw [refused]; rfl)
    · exact leads_react unused (by rw [refused]; rfl)

/-! ## The whole call -/

/-- Attempts that do not end the call lead from the first of them to the one after the last. -/
theorem leads_rounds (unused : service.made start = 0) (paces : policy.Paces delays)
    (unended : ∀ k < n, ¬Ends policy answers k)
    (renewed : ∀ k < n, isUnauthorized (answers k) = true → refresh = .ok ()) :
    service.Leads (call policy attempt) start (service.rounds policy delays start n)
      (resume policy attempt answers n) (service.before policy delays start n) := by
  induction n with
  | zero => exact .refl _ _
  | succ n ih =>
    have earlier := ih (fun k hk => unended k (Nat.lt_succ_of_lt hk))
      (fun k hk => renewed k (Nat.lt_succ_of_lt hk))
    have round := leads_round unused paces unended (renewed n (Nat.lt_succ_self n))
    rw [rounds_succ]
    exact earlier.trans round

/-- A refresh of the credentials that fails ends the call. -/
theorem leads_unrenewed (unused : service.made start = 0)
    (unended : ∀ k < i + 1, ¬Ends policy answers k)
    (refused : isUnauthorized (answers i) = true) {cause : ProviderError}
    (failed : refresh = .error cause) :
    service.Leads (resume policy attempt answers i) (service.before policy delays start i)
      (service.polled policy delays start i ++ repair policy delays answers refresh i)
      (.done (.error cause)) (service.before policy delays start (i + 1)) := by
  have first := among_of_tolerated unended refused
  obtain ⟨text, refused⟩ := exists_of_isUnauthorized refused
  subst failed
  have asked := service.answer_refresh (service.attempted (service.before policy delays start i))
  simp only [resume, before, repaired, repair, refused, first, if_true]
  exact (leads_unauthorized unused refused _ _).trans (.ask asked)

/-- The credentials are refreshed once where a tolerated answer refuses the call as unauthorized,
and else never. -/
theorem countP_repairs (unended : ∀ k < n, ¬Ends policy answers k) :
    ((List.range n).flatMap (repair policy delays answers refresh)).countP
        (fun e => decide (e.question = .provider .refreshCredentials)) =
      if ∃ k < n, isUnauthorized (answers k) = true then 1 else 0 := by
  have counted (n : Nat) : ((List.range n).flatMap (repair policy delays answers refresh)).countP
      (fun e => decide (e.question = .provider .refreshCredentials)) =
        among isUnauthorized answers n := by
    induction n with
    | zero => rfl
    | succ n ih =>
      rw [List.range_succ, List.flatMap_append, List.flatMap_singleton, List.countP_append, ih,
        among_succ, repair]
      congr 1
      split <;> simp_all [isUnauthorized]
  obtain ⟨-, once, -⟩ := among_of_unended unended
  rw [counted]
  by_cases tolerated : ∃ k < n, isUnauthorized (answers k) = true
  · have some_ : among isUnauthorized answers n ≠ 0 := Nat.count_ne_iff_exists.2 tolerated
    rw [if_pos tolerated]
    omega
  · rw [if_neg tolerated]
    exact Decidable.not_not.1 fun some_ => tolerated (Nat.count_ne_iff_exists.1 some_)

/-- **The two budgets of a call.**  A call makes its attempts up to the first answer that ends it,
which is its outcome, and there is one within the budgets.  Each tolerated limit is followed by one
pause, and a tolerated refusal as unauthorized by the one refresh of the credentials; where this
fails the call ends there with the failure. -/
theorem call_ends (service : Service attempt answers refresh ω) (unused : service.made start = 0)
    (paces : policy.Paces delays) :
    ∃ n ≤ max 1 policy.maxAttempts, IsLeast {i | Ends policy answers i} n ∧
      (∀ k ≤ n, ((List.range k).flatMap (repair policy delays answers refresh)).countP
          (fun e => decide (e.question = .provider .refreshCredentials)) =
        if ∃ i < k, isUnauthorized (answers i) = true then 1 else 0) ∧
      ((∀ i < n, isUnauthorized (answers i) = true → refresh = .ok ()) →
        ∃ final, service.run (call policy attempt) start = (some (answers n), final) ∧
          service.made final = n + 1 ∧ service.events (call policy attempt) start =
            service.rounds policy delays start n ++ service.polled policy delays start n) ∧
      (∀ i < n, isUnauthorized (answers i) = true → ∀ cause, refresh = .error cause →
        ∃ final, service.run (call policy attempt) start = (some (.error cause), final) ∧
          service.made final = i + 1 ∧ service.events (call policy attempt) start =
            service.rounds policy delays start (i + 1)) := by
  obtain ⟨n, bound, least⟩ := exists_isLeast_ends policy answers
  have first : ∀ k < n, ¬Ends policy answers k := fun k hk ends =>
    absurd (least.2 ends) (Nat.not_le.2 hk)
  refine ⟨n, bound, least, ?counts, ?ends, ?unrenewed⟩
  case counts =>
    intro k hk
    exact countP_repairs fun i hi => first i (Nat.lt_of_lt_of_le hi hk)
  case ends =>
    intro renewed
    have rounds := leads_rounds unused paces first renewed
    have whole := rounds.trans (leads_last unused least.1 first)
    refine ⟨_, whole.run, ?_, whole.events.trans (List.append_nil _)⟩
    rw [made_attempted, made_before unused]
  case unrenewed =>
    intro i hi refused cause failed
    have unended : ∀ k < i + 1, ¬Ends policy answers k := fun k hk => first k (by omega)
    have earlier : ∀ k < i, isUnauthorized (answers k) = true → refresh = .ok () := by
      intro k hk before
      exact absurd before (Nat.count_iff_forall_not.1 (among_of_tolerated unended refused) k hk)
    have rounds := leads_rounds unused paces (fun k hk => unended k (Nat.lt_succ_of_lt hk)) earlier
    have whole := rounds.trans (leads_unrenewed unused unended refused failed)
    rw [rounds_succ]
    exact ⟨_, whole.run, made_before unused _, whole.events.trans (List.append_nil _)⟩

/-- A service that answers a call from a list without end. -/
def scripted (c : ProviderCall) (other : c ≠ .refreshCredentials)
    (answers : Nat → ProviderResult c.Reply) (refresh : ProviderResult Unit) :
    Service (Task.provider c) answers refresh Nat where
  answer
    | .provider asked, made =>
      if same : c = asked then (some (same ▸ answers made), made + 1)
      else if same : .refreshCredentials = asked then (some (same ▸ refresh), made)
      else (none, made)
    | .sleep _, made => (some (), made)
    | _, made => (none, made)
  made made := made
  attempted made := made + 1
  refreshed made := made
  paused _ made := made
  run_attempt made := by simp [Surroundings.run, Task.provider, Program.request]
  answer_refresh made := by simp [other]
  answer_sleep _ _ := rfl
  made_attempted _ := rfl
  made_refreshed _ := rfl
  made_paused _ _ := rfl

/-- A call that is limited, refused as unauthorized, limited again and then accepted. -/
def interleaved : Nat → ProviderResult Unit
  | 0 => .error (.rateLimited "busy" none)
  | 1 => .error (.unauthorized "expired")
  | 2 => .error (.rateLimited "busy" (some (Duration.ofSeconds 40)))
  | _ => .ok ()

/-- Three attempts may be limited, and the second pause is cut to the longest one. -/
theorem call_ends_interleaved :
    let service := scripted (.restartInstance ⟨"i-1"⟩) (by simp) interleaved (.ok ())
    service.made 0 = 0 ∧
    RetryPolicy.standard.Paces (fun j => Duration.ofSeconds (2 ^ j)) ∧
    IsLeast {i | Ends RetryPolicy.standard interleaved i} 3 ∧
    (service.run (call .standard (Task.provider (.restartInstance ⟨"i-1"⟩))) 0).1 =
      some (.ok ()) ∧
    service.events (call .standard (Task.provider (.restartInstance ⟨"i-1"⟩))) 0 = [
      ⟨.provider (.restartInstance ⟨"i-1"⟩), .error (.rateLimited "busy" none)⟩,
      ⟨.sleep (Duration.ofSeconds 1), ()⟩,
      ⟨.provider (.restartInstance ⟨"i-1"⟩), .error (.unauthorized "expired")⟩,
      ⟨.provider .refreshCredentials, .ok ()⟩,
      ⟨.provider (.restartInstance ⟨"i-1"⟩),
        .error (.rateLimited "busy" (some (Duration.ofSeconds 40)))⟩,
      ⟨.sleep (Duration.ofSeconds 30), ()⟩,
      ⟨.provider (.restartInstance ⟨"i-1"⟩), .ok ()⟩] := by
  intro service
  have paces : RetryPolicy.standard.Paces (fun j => Duration.ofSeconds (2 ^ j)) :=
    RetryPolicy.paces_standard
  have least : IsLeast {i | Ends RetryPolicy.standard interleaved i} 3 := by
    refine ⟨.final trivial, fun i ends => ?_⟩
    by_contra early
    obtain rfl | rfl | rfl : i = 0 ∨ i = 1 ∨ i = 2 := by omega
    all_goals
      cases ends with
      | final final => exact final
      | unauthorized _ second => exact absurd second (by decide)
      | rateLimited _ last => exact absurd last (by decide)
  have unused : service.made 0 = 0 := rfl
  obtain ⟨n, -, ends, -, course, -⟩ := service.call_ends unused paces
  obtain rfl := ends.unique least
  obtain ⟨final, run, -, events⟩ := course fun _ _ _ => rfl
  refine ⟨unused, paces, least, by rw [run]; rfl, events.trans ?_⟩
  rfl

end Service

end Retry

end CloudLifecycle

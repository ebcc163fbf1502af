import CloudLifecycle.Lifecycle.Action

/-!
# Repeating calls to the backend

A call that is refused as unauthorized is repeated once after a refresh of the credentials, and one
that is refused because of too many requests is repeated, after a pause, up to a number of attempts.
The two budgets do not touch each other, and every other failure is final.  `Retry.rounds` repeats
on failures that the caller picks.
-/

set_option autoImplicit false

namespace CloudLifecycle

/-- How often and after which pauses a rate-limited call is repeated. -/
structure RetryPolicy where
  /-- Rate-limited attempts, counting the first. -/
  maxAttempts : Nat
  initialDelay : Duration
  maxDelay : Duration
  multiplier : Double
deriving DecidableEq, Repr

namespace RetryPolicy

def standard : RetryPolicy :=
  ⟨3, Duration.ofSeconds 1, Duration.ofSeconds 30, Double.ofNat 2⟩

/-- A number of 32 bits as a signed one. -/
def signed32 (n : Nat) : Int := (n : Int).bmod 0x100000000

/-- The pause before a repetition, counted from zero: the initial delay times a power of the
multiplier, but at most the longest delay.  There is none where the product is no duration. -/
def delay? (policy : RetryPolicy) (attempt : Nat) : Option Duration :=
  (policy.initialDelay.timesDouble? (policy.multiplier.power (signed32 attempt))).map
    (min · policy.maxDelay)

end RetryPolicy

namespace Retry

variable {α : Type}

/-- Pauses for a span of time; without one there is no going on. -/
def pauseFor : Option Duration → Task Unit
  | some span => Task.sleep span
  | none => Task.abort

/-- Pauses before a repetition, as long as the backend asked for or the policy says. -/
def pause (policy : RetryPolicy) (index : Nat) (retryAfter : Option Duration) : Task Unit :=
  pauseFor ((retryAfter.orElse fun _ => policy.delay? index).map (min · policy.maxDelay))

/-- Makes one attempt and hands the two failures that can be repaired on. -/
def react (attempt : Task (ProviderResult α)) (unauthorized : String → Task (ProviderResult α))
    (limited : String → Option Duration → Task (ProviderResult α)) :
    Task (ProviderResult α) := do
  match ← attempt with
  | .error (.unauthorized text) => unauthorized text
  | .error (.rateLimited text retryAfter) => limited text retryAfter
  | other => pure other

/-- Makes attempts until one is not rate limited, with `left` more to go after the first; a refusal
as unauthorized is handed on with the attempts that are left. -/
def attempts (policy : RetryPolicy) (attempt : Task (ProviderResult α))
    (unauthorized : Nat → String → Task (ProviderResult α)) :
    Nat → Task (ProviderResult α)
  | 0 => react attempt (unauthorized 0) fun text retryAfter =>
    pure (.error (.rateLimited text retryAfter))
  | left + 1 => react attempt (unauthorized (left + 1)) fun _ retryAfter => do
    pause policy (policy.maxAttempts - 2 - left) retryAfter
    attempts policy attempt unauthorized left

/-- The attempts after the one refresh of the credentials. -/
def attemptsAgain (policy : RetryPolicy) (attempt : Task (ProviderResult α)) (left : Nat) :
    Task (ProviderResult α) :=
  attempts policy attempt (fun _ text => pure (.error (.unauthorized text))) left

/-- Makes a call, with one refresh of the credentials and the attempts that the policy allows. -/
def call (policy : RetryPolicy) (attempt : Task (ProviderResult α)) :
    Task (ProviderResult α) :=
  attempts policy attempt (fun left _ => do
    match ← Task.provider .refreshCredentials with
    | .ok () => attemptsAgain policy attempt left
    | .error e => pure (.error e)) (policy.maxAttempts - 1)

/-- An answer that nothing was found reads as an absent resource. -/
def absentIfNotFound : ProviderResult (Option α) → ProviderResult (Option α)
  | .error (.notFound _) => .ok none
  | other => other

/-- Makes a describe call. -/
def describe (policy : RetryPolicy) (attempt : Task (ProviderResult (Option α))) :
    Task (ProviderResult (Option α)) := do
  return absentIfNotFound (← call policy attempt)

/-- Makes rounds as long as they fail as the caller picks, with `left` more to go after the first
and a pause between two of them. -/
def roundsLeft (pauseSpan : Duration) (accepts : ProviderError → Bool)
    (round : Task (ProviderResult α)) : Nat → Task (ProviderResult α)
  | 0 => round
  | left + 1 => do
    match ← round with
    | .error e =>
      if accepts e then do
        Task.sleep pauseSpan
        roundsLeft pauseSpan accepts round left
      else pure (.error e)
    | ok => pure ok

/-- Makes at most `count` rounds, and at least one. -/
def rounds (count : Nat) (pauseSpan : Duration) (accepts : ProviderError → Bool)
    (round : Task (ProviderResult α)) : Task (ProviderResult α) :=
  roundsLeft pauseSpan accepts round (count - 1)

end Retry

end CloudLifecycle

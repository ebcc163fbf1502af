import CloudLifecycle.Lifecycle.Action

/-!
# Waiting for a state

A backend takes its time.  `Waiter.wait` polls the state of a resource until it is one of the target
states.  Before each poll it looks whether the task was cancelled and whether the deadline has
passed; a failed poll, a state of failure and a target end the wait, and all other states are
followed by a pause.
-/

set_option autoImplicit false

namespace CloudLifecycle

/-- How often to poll and for how long. -/
structure Waiter where
  interval : Duration
  timeout : Duration
  /-- Polls to make at most where there is no pause between them. -/
  patience : Nat
deriving DecidableEq, Repr

namespace Waiter

variable {σ : Type} [IsState σ] [DecidableEq σ]

/-- Looks at the flag and the deadline that precede a poll. -/
def checkpoint (w : Waiter) (kind : ResourceKind) (id : String) (expected : List String)
    (started : Duration) : Verb Unit := do
  if ← Task.cancelled then throw .cancelled
  let now ← Task.clock
  if w.timeout < now - started then throw (.timeout kind id expected)

/-- Polls until a target is seen, with a number of polls to go. -/
def poll (w : Waiter) (kind : ResourceKind) (id : String) (targets : List σ) (fetch : Verb σ)
    (started : Duration) : Nat → Verb σ
  | 0 => ExceptT.lift Task.abort
  | left + 1 => do
    let expected := targets.map IsState.text
    w.checkpoint kind id expected started
    let state ← fetch
    if IsState.isFailure state then
      throw (.terminalState kind id (IsState.text state) expected)
    if targets.contains state then return state
    ExceptT.lift (Task.sleep w.interval)
    poll w kind id targets fetch started left

/-- Polls that a wait can need: with a pause between them the deadline comes after this many. -/
def budget (w : Waiter) : Nat :=
  if w.interval.nanos = 0 then w.patience else w.timeout.nanos / w.interval.nanos + 2

/-- Polls from now on until a target is seen. -/
def wait (w : Waiter) (kind : ResourceKind) (id : String) (targets : List σ) (fetch : Verb σ) :
    Verb σ := do
  let started ← Task.clock
  w.poll kind id targets fetch started w.budget

end Waiter

end CloudLifecycle

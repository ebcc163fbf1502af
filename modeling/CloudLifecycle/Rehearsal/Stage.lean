import CloudLifecycle.Lifecycle.Action
import CloudLifecycle.Rehearsal.Script
import CloudLifecycle.Settings.Store

/-!
# Playing a script

A `Stage` is surroundings in which every call is answered by a script, settings are kept in
memory, and time is virtual: it moves only by pauses and by the time that a cue takes, in whole
milliseconds.  The stage keeps a log of all calls.  The last cue of a queue stays and answers all
further calls.

Fresh names are numbered, and a number is used up only when a call carries the name.
-/

set_option autoImplicit false

namespace CloudLifecycle

/-- A call with the time at which it was made. -/
structure LogEntry where
  action : Action
  time : Duration
deriving DecidableEq

/-- Scripted surroundings. -/
structure Stage where
  cues : Dict (List Cue)
  now : Duration
  isCancelled : Bool
  settings : SettingsStore
  /-- The machine's own id, once it was found. -/
  self : Option ResourceId
  /-- Fresh names that calls have carried. -/
  namesUsed : Nat
  /-- A fresh name was given that no call has carried yet. -/
  namePending : Bool
  /-- The name of the last VM that was asked for. -/
  lastVmName : String
  /-- All calls, the last one first. -/
  log : List LogEntry

namespace Stage

/-- A stage before the first call. -/
def initial (cues : Dict (List Cue)) (settings : SettingsStore) : Stage :=
  ⟨cues, Duration.zero, false, settings, none, 0, false, "", []⟩

/-- The first cue of a queue and the queue that it leaves. -/
def draw : List Cue → Option Cue × List Cue
  | [] => (none, [])
  | [cue] => (some cue, [cue])
  | cue :: rest => (some cue, rest)

/-- Takes the next cue for a call of some name. -/
def takeCue (stage : Stage) (name : String) : Option Cue × Stage :=
  match stage.cues.find? name with
  | none => (none, stage)
  | some queue =>
    let (cue, rest) := draw queue
    (cue, { stage with cues := stage.cues.insert name rest })

/-- Lets the time of a cue pass and the task be cancelled by it. -/
def follow (stage : Stage) (cue : Cue) : Stage :=
  { stage with now := stage.now + cue.takes.pause, isCancelled := stage.isCancelled || cue.cancels }

/-- Logs a call and takes its cue. -/
def call (stage : Stage) (action : Action) (name : String) : Option CueReply × Stage :=
  let stage := { stage with log := ⟨action, stage.now⟩ :: stage.log }
  match stage.takeCue name with
  | (none, stage) => (none, stage)
  | (some cue, stage) => (some cue.reply, stage.follow cue)

/-- The name that a call carries is used up. -/
def useName (stage : Stage) : Stage :=
  if stage.namePending then
    { stage with namesUsed := stage.namesUsed + 1, namePending := false }
  else stage

/-- What the stage notes of a call before it is answered. -/
def note (stage : Stage) : ProviderCall → Stage
  | .runInstance params => { stage.useName with lastVmName := params.name }
  | .createVolume _ | .createSnapshot _ _ => stage.useName
  | _ => stage

/-- Answers a call to the backend. -/
def provide (stage : Stage) (call : ProviderCall) : ProviderResult call.Reply × Stage :=
  let stage := stage.note call
  match stage.call (.provider call) call.name with
  | (some (.value value), stage) => (.ok (call.reading stage.lastVmName value), stage)
  | (some (.refused cause), stage) => (.error cause, stage)
  | (_, stage) => (call.unscripted, stage)

/-- Does an operation on the settings in memory. -/
def store (stage : Stage) : (call : SettingsCall) → Except SettingsError call.Reply × Stage
  | .read key => (stage.settings.read key, stage)
  | .update key settings =>
    (.ok (), { stage with settings := stage.settings.update key settings })
  | .delete key => (.ok (), { stage with settings := stage.settings.delete key })

/-- Answers an operation on the settings store; one that is not made to fail reaches the settings in
memory. -/
def keep (stage : Stage) (call : SettingsCall) : Except SettingsError call.Reply × Stage :=
  match stage.call (.settings call) call.name with
  | (some (.storeFailed cause), stage) => (.error cause, stage)
  | (_, stage) => stage.store call

/-- The name of the look-up of the machine's own id in scripts. -/
def lookUpName : String := "instance_id"

/-- Answers the look-up of the machine's own id. -/
def lookUp (stage : Stage) : ProviderResult String × Stage :=
  match stage.call .lookUpSelf lookUpName with
  | (some (.value value), stage) => (.ok (value.asText?.getD ""), stage)
  | (some (.refused cause), stage) => (.error cause, stage)
  | (_, stage) => (.ok "", stage)

/-- The next fresh name. -/
def nextName (stage : Stage) : String := "UUID" ++ (stage.namesUsed + 1).repr

/-- Answers an action. -/
def answer : (action : Action) → Stage → Option action.Answer × Stage
  | .provider call, stage => (stage.provide call).map some id
  | .settings call, stage => (stage.keep call).map some id
  | .lookUpSelf, stage => stage.lookUp.map some id
  | .recallSelf, stage => (some stage.self, stage)
  | .rememberSelf found, stage => (some (), { stage with self := some found })
  | .lockSelf, stage => (some (), stage)
  | .unlockSelf, stage => (some (), stage)
  | .sleep span, stage => (some (), { stage with now := stage.now + span.pause })
  | .clock, stage => (some stage.now, stage)
  | .cancelled, stage => (some stage.isCancelled, stage)
  | .freshName, stage => (some stage.nextName, { stage with namePending := true })
  | .abort, stage => (none, stage)

/-- The stage as surroundings. -/
def surroundings : Surroundings Action Action.Answer Stage := ⟨answer⟩

/-- Plays a task. -/
def play {α : Type} (stage : Stage) (task : Task α) : Option α × Stage :=
  surroundings.run task stage

/-- Replaces the queues of the calls that a script names. -/
def rescript (stage : Stage) (cues : Dict (List Cue)) : Stage :=
  { stage with cues := cues.entries.foldl (fun acc e => acc.insert e.1 e.2) stage.cues }

/-- The calls from the first one on. -/
def calls (stage : Stage) : List LogEntry := stage.log.reverse

end Stage

end CloudLifecycle

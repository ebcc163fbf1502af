import CloudLifecycle.Director.Response
import CloudLifecycle.Proofs.Store.Serves
import CloudLifecycle.Rehearsal.Stage

/-!
# The settings of a stage

A stage keeps its settings in memory and lets an operation fail where its script says so.  So its
settings serve every task that it plays: `Stage.serves_events` makes the runs of a stage, and with
them all rehearsals, runs in the sense of `SettingsStore.Serves`.
-/

set_option autoImplicit false

namespace CloudLifecycle.Stage

variable {α : Type} {stage : Stage}

theorem settings_takeCue (stage : Stage) (name : String) :
    (stage.takeCue name).2.settings = stage.settings := by
  unfold takeCue
  split <;> rfl

theorem settings_call (stage : Stage) (action : Action) (name : String) :
    (stage.call action name).2.settings = stage.settings := by
  unfold call
  have taken := settings_takeCue { stage with log := ⟨action, stage.now⟩ :: stage.log } name
  dsimp only
  split <;> rename_i h <;> rw [h] at taken <;> exact taken

theorem settings_note (stage : Stage) (call : ProviderCall) :
    (stage.note call).settings = stage.settings := by
  unfold note useName
  split <;> (try split) <;> rfl

theorem settings_provide (stage : Stage) (call : ProviderCall) :
    (stage.provide call).2.settings = stage.settings := by
  have called := settings_call (stage.note call) (.provider call) call.name
  rw [settings_note] at called
  unfold provide
  dsimp only
  split <;> rename_i h <;> rw [h] at called <;> exact called

theorem settings_lookUp (stage : Stage) : stage.lookUp.2.settings = stage.settings := by
  have called := settings_call stage .lookUpSelf lookUpName
  unfold lookUp
  split <;> rename_i h <;> rw [h] at called <;> exact called

theorem step_store (stage : Stage) (call : SettingsCall) :
    SettingsStore.Step stage.settings ⟨.settings call, (stage.store call).1⟩
      (stage.store call).2.settings := by
  have step := SettingsStore.step_perform stage.settings call
  cases call <;> exact step

theorem step_keep (stage : Stage) (call : SettingsCall) :
    SettingsStore.Step stage.settings ⟨.settings call, (stage.keep call).1⟩
      (stage.keep call).2.settings := by
  have called := settings_call stage (.settings call) call.name
  unfold keep
  split <;> rename_i h <;> rw [h] at called <;> dsimp only at called
  · rw [← called]
    exact .failed call _
  · rw [← called]
    exact step_store _ call

/-- The settings of a stage serve each action that it answers. -/
theorem step_answer {action : Action} {answer : action.Answer} {next : Stage}
    (h : stage.answer action = (some answer, next)) :
    SettingsStore.Step stage.settings ⟨action, answer⟩ next.settings := by
  have elsewhere (hne : ∀ call, action ≠ .settings call) (kept : next.settings = stage.settings) :
      SettingsStore.Step stage.settings ⟨action, answer⟩ next.settings := by
    rw [kept]
    exact .elsewhere hne
  cases action with
  | settings call =>
    obtain ⟨ha, rfl⟩ := Prod.mk.inj h
    obtain rfl := Option.some.inj ha
    exact step_keep stage call
  | provider call =>
    obtain ⟨-, rfl⟩ := Prod.mk.inj h
    exact elsewhere (fun _ => by simp) (settings_provide stage call)
  | lookUpSelf =>
    obtain ⟨-, rfl⟩ := Prod.mk.inj h
    exact elsewhere (fun _ => by simp) (settings_lookUp stage)
  | abort => cases h
  | recallSelf | rememberSelf _ | lockSelf | unlockSelf | sleep _ | clock | cancelled
  | freshName =>
    obtain ⟨-, rfl⟩ := Prod.mk.inj h
    exact elsewhere (fun _ => by simp) rfl

theorem settings_answer_none {action : Action} {next : Stage}
    (h : stage.answer action = (none, next)) : next.settings = stage.settings := by
  cases action with
  | abort =>
    obtain ⟨-, rfl⟩ := Prod.mk.inj h
    rfl
  | _ => cases (Prod.mk.inj h).1

/-- **A stage keeps its settings in memory**: over everything that it plays, they are a settings
store whose operations succeed or fail without effect. -/
theorem serves_events (task : Task α) (stage : Stage) :
    stage.settings.Serves (surroundings.events task stage) (stage.play task).2.settings := by
  unfold play
  induction task generalizing stage with
  | done value => exact .nil stage.settings
  | ask question next ih =>
    unfold Surroundings.events Surroundings.run
    rcases h : surroundings.answer question stage with ⟨_ | answer, later⟩
    · dsimp only
      rw [settings_answer_none h]
      exact .nil _
    · exact .cons (step_answer h) (ih answer later)

/-- A verb that a stage plays to its end has run. -/
theorem runs_play {verb : Verb α} {result : Except CpiError α}
    (h : (stage.play verb.run).1 = some result) :
    verb.Runs (surroundings.events verb.run stage) result :=
  surroundings.runs_events verb.run stage result h

end CloudLifecycle.Stage

/-! ## A small cloud

Where a theorem is applied to one run, the run is played on this stage. -/

namespace CloudLifecycle

/-- A manager in a cloud with one key pair. -/
def Manager.small : Manager where
  backend := ⟨"cloud", "zone", none⟩
  registryEndpoint := "http://registry"
  options := {
    availabilityZone := none
    defaultKeyName := some "key"
    defaultSecurityGroups := []
    waiter := ⟨Duration.ofSeconds 1, Duration.ofSeconds 10, 10⟩
    diskPolicy := .hwcloud
    retry := .standard
    ephemeralDisk := true
    agentProperties := Dict.empty }
  knowsSelf := false

/-- A request for a VM with one dynamic network. -/
def VmRequest.small : VmRequest where
  agentId := "agent"
  stemcell := ⟨"image"⟩
  properties := ⟨"small", none, none, Dict.empty⟩
  networks := Dict.ofList
    [("default", ⟨some "dynamic", none, none, none, none, [], .empty, Dict.empty⟩)]
  env := none

/-- A stage without settings on which a VM comes up and a disk gets attached, with more cues. -/
def Stage.small (more : List (String × List Cue)) : Stage :=
  let cue (value : Json) : Cue := ⟨Duration.zero, false, .value value⟩
  .initial (Dict.ofList ([
    ("describe_image", [cue (.object [("id", .text "image")])]),
    ("list_instance_types", [cue (.list [.text "small"])]),
    ("find_key_pairs", [cue (.list [.object [("name", .text "key")]])]),
    ("run_instance", [cue (.text "i-1")]),
    ("describe_vm", [cue (.object [("name", .text "$LAST")])]),
    ("describe_volume", [cue (.object []), cue (.object [("state", .text "in-use")])])] ++ more))
    Dict.empty

/-- The small stage once its VM is there. -/
def Stage.withVm : Stage :=
  ((Stage.small []).play (Manager.small.perform (.createVm .small)).run).2

end CloudLifecycle

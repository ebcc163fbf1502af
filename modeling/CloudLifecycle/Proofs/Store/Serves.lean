import CloudLifecycle.Proofs.Runs.Observation
import CloudLifecycle.Settings.Store

/-!
# The settings store over a run

`before.Serves trace after` says that a settings store answers the operations of a trace, starting
as `before` and ending as `after`.  Each operation succeeds as it does on a store in memory or fails
and changes nothing; a store in memory is the case that none fails but the reading of an absent key.
What the trace holds beside these operations is answered in any way at all.

A verb that leaves the settings store alone leaves it as it was (`Verb.Calls.serves`), and the three
operations of the store have one lemma each.
-/

set_option autoImplicit false

namespace CloudLifecycle

namespace SettingsStore

/-- Does an operation on the store in memory. -/
def perform (store : SettingsStore) :
    (call : SettingsCall) → Except SettingsError call.Reply × SettingsStore
  | .read key => (store.read key, store)
  | .update key settings => (.ok (), store.update key settings)
  | .delete key => (.ok (), store.delete key)

/-- One action with its answer, at a store whose operations succeed or fail without effect. -/
inductive Step (store : SettingsStore) :
    Program.Event Action Action.Answer → SettingsStore → Prop where
  | read {key : String} {settings : AgentSettings} (h : store.read key = .ok settings) :
      Step store ⟨.settings (.read key), .ok settings⟩ store
  | update (key : String) (settings : AgentSettings) :
      Step store ⟨.settings (.update key settings), .ok ()⟩ (store.update key settings)
  | delete (key : String) :
      Step store ⟨.settings (.delete key), .ok ()⟩ (store.delete key)
  | failed (call : SettingsCall) (cause : SettingsError) :
      Step store ⟨.settings call, .error cause⟩ store
  | elsewhere {e : Program.Event Action Action.Answer}
      (h : ∀ call, e.question ≠ .settings call) : Step store e store

/-- The store answers the operations of the trace and changes from the first to the second. -/
inductive Serves : SettingsStore → Trace → SettingsStore → Prop where
  | nil (store : SettingsStore) : Serves store [] store
  | cons {before middle after : SettingsStore} {e : Program.Event Action Action.Answer}
      {trace : Trace} (step : Step before e middle) (rest : Serves middle trace after) :
      Serves before (e :: trace) after

/-- A store in memory answers the operations of the trace and changes from the first to the
second. -/
inductive Remembers : SettingsStore → Trace → SettingsStore → Prop where
  | nil (store : SettingsStore) : Remembers store [] store
  | settings {before after : SettingsStore} {trace : Trace} (call : SettingsCall)
      (rest : Remembers (before.perform call).2 trace after) :
      Remembers before (⟨.settings call, (before.perform call).1⟩ :: trace) after
  | elsewhere {before after : SettingsStore} {e : Program.Event Action Action.Answer}
      {trace : Trace} (h : ∀ call, e.question ≠ .settings call)
      (rest : Remembers before trace after) : Remembers before (e :: trace) after

variable {before after : SettingsStore} {trace more : Trace}

theorem read_eq_ok_iff {store : SettingsStore} {key : String} {settings : AgentSettings} :
    store.read key = .ok settings ↔ store.find? key = some settings := by
  unfold read
  cases store.find? key <;> simp

theorem serves_nil_iff : before.Serves [] after ↔ before = after := by
  constructor
  · rintro ⟨⟩
    rfl
  · rintro rfl
    exact .nil before

theorem serves_cons_iff {e : Program.Event Action Action.Answer} :
    before.Serves (e :: trace) after ↔
      ∃ middle, Step before e middle ∧ Serves middle trace after := by
  constructor
  · rintro (_ | ⟨step, rest⟩)
    exact ⟨_, step, rest⟩
  · rintro ⟨middle, step, rest⟩
    exact .cons step rest

theorem serves_append_iff :
    before.Serves (trace ++ more) after ↔
      ∃ middle : SettingsStore, before.Serves trace middle ∧ middle.Serves more after :=
  Trace.along_append_iff serves_nil_iff serves_cons_iff

/-- Without operations on the store it stays as it is. -/
theorem Serves.eq_of_elsewhere (h : before.Serves trace after)
    (quiet : ∀ e ∈ trace, ∀ call, e.question ≠ .settings call) : after = before := by
  induction h with
  | nil store => rfl
  | @cons before middle after e trace step rest ih =>
    rw [ih fun e he => quiet e (List.mem_cons_of_mem _ he)]
    have elsewhere := quiet e List.mem_cons_self
    cases step with
    | read _ | update _ _ | delete _ | failed _ _ => exact absurd rfl (elsewhere _)
    | elsewhere _ => rfl

theorem Serves.step {e : Program.Event Action Action.Answer} (h : before.Serves [e] after) :
    Step before e after := by
  cases h with
  | cons step rest =>
    cases rest
    exact step

theorem step_perform (store : SettingsStore) (call : SettingsCall) :
    Step store ⟨.settings call, (store.perform call).1⟩ (store.perform call).2 := by
  cases call with
  | read key =>
    show Step store ⟨.settings (.read key), store.read key⟩ store
    cases h : store.read key with
    | error cause => exact .failed _ cause
    | ok settings => exact .read h
  | update key settings => exact .update key settings
  | delete key => exact .delete key

/-- A store in memory is one whose operations succeed or fail without effect. -/
theorem Remembers.serves (h : before.Remembers trace after) : before.Serves trace after := by
  induction h with
  | nil store => exact .nil store
  | settings call _ ih => exact .cons (step_perform _ call) ih
  | elsewhere elsewhere _ ih => exact .cons (.elsewhere elsewhere) ih

theorem remembers_nil_iff : before.Remembers [] after ↔ before = after := by
  constructor
  · rintro ⟨⟩
    rfl
  · rintro rfl
    exact .nil before

theorem remembers_cons_iff {e : Program.Event Action Action.Answer} :
    before.Remembers (e :: trace) after ↔ ∃ middle : SettingsStore,
      ((∃ call, e = ⟨.settings call, (before.perform call).1⟩ ∧ middle = (before.perform call).2) ∨
        (∀ call, e.question ≠ .settings call) ∧ middle = before) ∧
      middle.Remembers trace after := by
  constructor
  · intro h
    cases h with
    | settings call rest => exact ⟨_, .inl ⟨call, rfl, rfl⟩, rest⟩
    | elsewhere elsewhere rest => exact ⟨before, .inr ⟨elsewhere, rfl⟩, rest⟩
  · rintro ⟨middle, ⟨call, rfl, rfl⟩ | ⟨elsewhere, rfl⟩, rest⟩
    · exact .settings call rest
    · exact .elsewhere elsewhere rest

theorem remembers_append_iff :
    before.Remembers (trace ++ more) after ↔
      ∃ middle : SettingsStore, before.Remembers trace middle ∧ middle.Remembers more after :=
  Trace.along_append_iff remembers_nil_iff remembers_cons_iff

end SettingsStore

namespace Verb

variable {α : Type} {S : ProviderCall → Prop} {before after : SettingsStore} {trace : Trace}

/-- A verb that makes only calls to the backend leaves the settings store as it was. -/
theorem Calls.serves {verb : Verb α} (hv : verb.Calls S) {result : Except CpiError α}
    (h : verb.Runs trace result) (hs : before.Serves trace after) : after = before := by
  refine hs.eq_of_elsewhere fun e he call heq => ?_
  have within := hv.mem_of_runs h e he
  rw [heq] at within
  exact within

/-- After a verb that makes only calls to the backend the next one starts with the same settings. -/
theorem Calls.serves_bind {β : Type} {verb : Verb α} {f : α → Verb β} (hv : verb.Calls S)
    {result : Except CpiError β} (h : (verb >>= f).Runs trace result)
    (hs : before.Serves trace after) :
    (∃ e, result = .error e ∧ after = before) ∨
      ∃ first rest a, trace = first ++ rest ∧ verb.Runs first (.ok a) ∧ (f a).Runs rest result ∧
        before.Serves rest after := by
  rcases runs_bind_iff.1 h with ⟨e, hr, rfl⟩ | ⟨first, rest, a, rfl, hr, hf⟩
  · exact .inl ⟨e, rfl, hv.serves hr hs⟩
  · obtain ⟨middle, hs, hrest⟩ := SettingsStore.serves_append_iff.1 hs
    obtain rfl := hv.serves hr hs
    exact .inr ⟨first, rest, a, rfl, hr, hf, hrest⟩

theorem runs_settings_iff {c : SettingsCall} {result : Except CpiError c.Reply} :
    (settings c).Runs trace result ↔
      ∃ answer : Except SettingsError c.Reply,
        trace = [⟨.settings c, answer⟩] ∧ result = answer.mapError .settings := by
  refine runs_mapError_iff.trans ⟨?_, ?_⟩
  · rintro ⟨answer, h, rfl⟩
    exact ⟨answer, Program.runs_request_iff.1 h, rfl⟩
  · rintro ⟨answer, rfl, rfl⟩
    exact ⟨answer, Program.runs_request_iff.2 rfl, rfl⟩

/-- Reading fails or goes on with what is stored, and changes nothing. -/
theorem serves_read_bind {key : String} {f : AgentSettings → Verb α} {result : Except CpiError α}
    (h : (settings (.read key) >>= f).Runs trace result) (hs : before.Serves trace after) :
    (∃ e, result = .error e ∧ after = before) ∨
      ∃ found rest, trace = ⟨.settings (.read key), .ok found⟩ :: rest ∧
        before.find? key = some found ∧ (f found).Runs rest result ∧ before.Serves rest after := by
  rcases runs_bind_iff.1 h with ⟨e, hr, rfl⟩ | ⟨first, rest, found, rfl, hr, hf⟩
  · obtain ⟨answer, rfl, ha⟩ := runs_settings_iff.1 hr
    cases hs.step with
    | read _ => cases ha
    | failed _ cause => exact .inl ⟨e, rfl, rfl⟩
    | elsewhere elsewhere => exact absurd rfl (elsewhere _)
  · obtain ⟨answer, rfl, ha⟩ := runs_settings_iff.1 hr
    obtain rfl := mapError_eq_ok_iff.1 ha.symm
    -- The answer is a success, so the store gave what it holds.
    cases hs with
    | cons step hs =>
      cases step with
      | read held => exact .inr ⟨found, rest, rfl, SettingsStore.read_eq_ok_iff.1 held, hf, hs⟩
      | elsewhere elsewhere => exact absurd rfl (elsewhere _)

/-- Writing fails without effect or stores what was written. -/
theorem serves_update {key : String} {written : AgentSettings} {result : Except CpiError Unit}
    (h : (settings (.update key written)).Runs trace result) (hs : before.Serves trace after) :
    (∃ e, result = .error e ∧ after = before) ∨
      (result = .ok () ∧ after = before.update key written) := by
  obtain ⟨answer, rfl, rfl⟩ := runs_settings_iff.1 h
  cases hs.step with
  | update _ _ => exact .inr ⟨rfl, rfl⟩
  | failed _ cause => exact .inl ⟨.settings cause, rfl, rfl⟩
  | elsewhere elsewhere => exact absurd rfl (elsewhere _)

/-- Writing and then returning something fails without effect or stores what was written. -/
theorem serves_update_return {key : String} {written : AgentSettings} {a : α}
    {result : Except CpiError α}
    (h : (settings (.update key written) >>= fun _ => pure a).Runs trace result)
    (hs : before.Serves trace after) :
    (∃ e, result = .error e ∧ after = before) ∨
      (result = .ok a ∧ after = before.update key written) := by
  rcases runs_bind_iff.1 h with ⟨e, hw, rfl⟩ | ⟨first, rest, done, rfl, hw, hr⟩
  · rcases serves_update hw hs with ⟨_, _, rfl⟩ | ⟨he, _⟩
    · exact .inl ⟨e, rfl, rfl⟩
    · cases he
  · obtain ⟨rfl, rfl⟩ := runs_pure_iff.1 hr
    rw [List.append_nil] at hs
    rcases serves_update hw hs with ⟨_, he, _⟩ | ⟨_, rfl⟩
    · cases he
    · exact .inr ⟨rfl, rfl⟩

/-- Removing fails without effect or leaves nothing under the key. -/
theorem serves_delete {key : String} {result : Except CpiError Unit}
    (h : (settings (.delete key)).Runs trace result) (hs : before.Serves trace after) :
    (∃ cause, result = .error (.settings cause) ∧ after = before) ∨
      (result = .ok () ∧ after = before.delete key) := by
  obtain ⟨answer, rfl, rfl⟩ := runs_settings_iff.1 h
  cases hs.step with
  | delete _ => exact .inr ⟨rfl, rfl⟩
  | failed _ cause => exact .inl ⟨cause, rfl, rfl⟩
  | elsewhere elsewhere => exact absurd rfl (elsewhere _)

/-- A store in memory lets read what it holds. -/
theorem remembers_read_bind {key : String} {held : AgentSettings} {f : AgentSettings → Verb α}
    {result : Except CpiError α} (h : (settings (.read key) >>= f).Runs trace result)
    (hs : before.Remembers trace after) (found : before.find? key = some held) :
    ∃ rest, trace = ⟨.settings (.read key), .ok held⟩ :: rest ∧ (f held).Runs rest result ∧
      before.Remembers rest after := by
  have answered : (before.perform (.read key)).1 = .ok held :=
    SettingsStore.read_eq_ok_iff.2 found
  rcases runs_bind_iff.1 h with ⟨e, hr, rfl⟩ | ⟨first, rest, read, rfl, hr, hf⟩
  · obtain ⟨answer, rfl, ha⟩ := runs_settings_iff.1 hr
    cases hs with
    | settings _ _ =>
      rw [answered] at ha
      cases ha
    | elsewhere elsewhere _ => exact absurd rfl (elsewhere _)
  · obtain ⟨answer, rfl, ha⟩ := runs_settings_iff.1 hr
    cases hs with
    | settings _ hs =>
      rw [answered] at ha ⊢
      obtain rfl := Except.ok.inj ha
      exact ⟨rest, rfl, hf, hs⟩
    | elsewhere elsewhere _ => exact absurd rfl (elsewhere _)

end Verb

end CloudLifecycle

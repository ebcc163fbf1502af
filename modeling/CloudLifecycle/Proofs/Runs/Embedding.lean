import CloudLifecycle.Proofs.Runs.Posing

/-!
# A step of a verb

`Verb.KeepsTo S verb` says that a verb makes no calls to the backend but those of the set `S` and
refreshes of the credentials; unlike `Verb.Calls` it leaves the settings store out of this.

`Verb.Embeds S step verb` says that a verb consists of such calls and, somewhere between them, of a
step that is taken at most once.  What is known of the runs of the step is then known of a stretch
of each run of the verb, also where a run is not over.
-/

set_option autoImplicit false

namespace CloudLifecycle

/-- Of calls to the backend, the action is one of the set or a refresh of the credentials. -/
def Action.CallsIn (S : ProviderCall → Prop) (action : Action) : Prop :=
  ∀ c, action = .provider c → c = .refreshCredentials ∨ S c

namespace Verb

variable {α β γ : Type} {S : ProviderCall → Prop} {verb : Verb α} {step : Verb γ}

/-- Whatever it is answered, the verb makes no calls but those of the set and refreshes of the
credentials.  It may use the settings store. -/
def KeepsTo (S : ProviderCall → Prop) (verb : Verb α) : Prop :=
  Program.Asks (Action.CallsIn S) verb.run

theorem keepsTo_outcome (outcome : Except CpiError α) :
    KeepsTo S (ExceptT.mk (pure outcome) : Verb α) := .done _

theorem keepsTo_pure (a : α) : KeepsTo S (pure a : Verb α) := .done _

theorem keepsTo_throw (e : CpiError) : KeepsTo S (throw e : Verb α) := .done _

theorem keepsTo_settings (c : SettingsCall) : (settings c).KeepsTo S :=
  (Program.Asks.request fun _ same => nomatch same).bind fun _ => .done _

theorem Calls.keepsTo {T : ProviderCall → Prop} (hv : verb.Calls T) (h : ∀ c, T c → S c) :
    verb.KeepsTo S := by
  refine Program.Asks.mono (fun action within c same => ?_) hv
  rw [same] at within
  exact within.imp_right (h c)

theorem KeepsTo.bind {f : α → Verb β} (hv : verb.KeepsTo S) (hf : ∀ a, (f a).KeepsTo S) :
    KeepsTo S (verb >>= f) := by
  refine Program.Asks.bind hv fun first => ?_
  cases first with
  | error e => exact .done _
  | ok a => exact hf a

theorem KeepsTo.callsIn_of_runs (hv : verb.KeepsTo S) {trace : Trace} {result : Except CpiError α}
    (ran : verb.Runs trace result) : trace.CallsIn S :=
  fun e he => Program.Asks.mem_of_runs hv ran e he

theorem KeepsTo.callsIn_of_poses (hv : verb.KeepsTo S) {past : Trace} {posed : Action}
    (posing : verb.Poses past posed) : past.CallsIn S ∧ posed.CallsIn S := by
  refine ⟨fun e he => ?_, Program.Asks.of_poses hv posing⟩
  obtain ⟨before, after, rfl⟩ := List.append_of_mem he
  exact Program.Asks.of_poses hv (Program.Poses.earlier posing)

/-- The verb makes calls of the set, and in between it may take the step, once.  If the step fails
the verb fails with it. -/
structure Embeds (S : ProviderCall → Prop) (step : Verb γ) (verb : Verb α) : Prop where
  runs {trace : Trace} {result : Except CpiError α} (ran : verb.Runs trace result) :
    trace.CallsIn S ∨ ∃ before inner after outcome, trace = before ++ (inner ++ after) ∧
      before.CallsIn S ∧ step.Runs inner outcome ∧ after.CallsIn S ∧
        ∀ e, outcome = .error e → after = [] ∧ result = .error e
  poses {past : Trace} {posed : Action} (posing : verb.Poses past posed) :
    (past.CallsIn S ∧ posed.CallsIn S) ∨
      (∃ before now, past = before ++ now ∧ before.CallsIn S ∧ step.Poses now posed) ∨
        ∃ before inner after a, past = before ++ (inner ++ after) ∧ before.CallsIn S ∧
          step.Runs inner (.ok a) ∧ after.CallsIn S ∧ posed.CallsIn S

theorem KeepsTo.embeds (hv : verb.KeepsTo S) (step : Verb γ) : Embeds S step verb where
  runs ran := .inl (hv.callsIn_of_runs ran)
  poses posing := .inl (hv.callsIn_of_poses posing)

/-- The step, and what comes behind it. -/
theorem embeds_step {f : γ → Verb α} (hf : ∀ a, (f a).KeepsTo S) : Embeds S step (step >>= f) where
  runs {trace result} ran := by
    refine .inr ?_
    rcases runs_bind_iff.1 ran with ⟨e, failed, rfl⟩ | ⟨inner, after, a, rfl, ended, rest⟩
    · refine ⟨[], trace, [], _, by simp, .nil, failed, .nil, fun e' same => ⟨rfl, ?_⟩⟩
      rw [Except.error.inj same]
    · exact ⟨[], inner, after, _, rfl, .nil, ended, (hf a).callsIn_of_runs rest, nofun⟩
  poses {past posed} posing := by
    refine .inr ?_
    rcases poses_bind_iff.1 posing with now | ⟨inner, after, a, rfl, ended, later⟩
    · exact .inl ⟨[], past, rfl, .nil, now⟩
    · obtain ⟨quiet, next⟩ := (hf a).callsIn_of_poses later
      exact .inr ⟨[], inner, after, a, rfl, .nil, ended, quiet, next⟩

/-- What comes before the step. -/
theorem KeepsTo.embeds_bind {f : α → Verb β} (hv : verb.KeepsTo S)
    (hf : ∀ a, Embeds S step (f a)) : Embeds S step (verb >>= f) where
  runs {trace result} ran := by
    rcases runs_bind_iff.1 ran with ⟨e, failed, rfl⟩ | ⟨first, rest, a, rfl, ended, later⟩
    · exact .inl (hv.callsIn_of_runs failed)
    have quiet := hv.callsIn_of_runs ended
    rcases (hf a).runs later with all | ⟨before, inner, after, outcome, rfl, hb, hi, ha, fails⟩
    · exact .inl (quiet.append all)
    · exact .inr ⟨first ++ before, inner, after, outcome, by simp, quiet.append hb, hi, ha, fails⟩
  poses {past posed} posing := by
    rcases poses_bind_iff.1 posing with now | ⟨first, rest, a, rfl, ended, later⟩
    · exact .inl (hv.callsIn_of_poses now)
    have quiet := hv.callsIn_of_runs ended
    rcases (hf a).poses later with ⟨all, next⟩ | ⟨before, now, rfl, hb, inside⟩ |
      ⟨before, inner, after, b, rfl, hb, hi, ha, next⟩
    · exact .inl ⟨quiet.append all, next⟩
    · exact .inr (.inl ⟨first ++ before, now, by simp, quiet.append hb, inside⟩)
    · exact .inr (.inr ⟨first ++ before, inner, after, b, by simp, quiet.append hb, hi, ha, next⟩)

end Verb

end CloudLifecycle

import CloudLifecycle.Proofs.Runs.Observation
import CloudLifecycle.Proofs.Runs.Posing

/-!
# Calls that are made again

A call that changes something at the backend may have changed it although it failed.  So it is made
again only where its own answer says that nothing was done: it was refused as unauthorized, as one
call too many, or, to attach a volume, because of a conflict.  `ProviderRefusal` lists these
answers, each with what happens before the next attempt.

`Verb.Issues kinds verb` says of every change that `verb` ever asks for that it is of one of the
kinds, and that it is the first of its kind or comes right after such a refusal of the same call.
Two verbs after one another have this property if they change different kinds of things.
-/

set_option autoImplicit false

namespace CloudLifecycle

/-- What a call changes at the backend. -/
inductive Mutation where
  | run
  | terminate
  | restart
  | createVolume
  | deleteVolume
  | attach
  | detach
  | createSnapshot
  | deleteSnapshot
  | deleteImage
  | associate
  | dissociate
  | bindAddress
deriving DecidableEq, Repr

/-- The kind of change that a call asks for, if it asks for one. -/
def ProviderCall.mutation? : ProviderCall → Option Mutation
  | .runInstance _ => some .run
  | .terminateInstance _ => some .terminate
  | .restartInstance _ => some .restart
  | .createVolume _ => some .createVolume
  | .deleteVolume _ => some .deleteVolume
  | .attachVolume _ _ => some .attach
  | .detachVolume _ _ => some .detach
  | .createSnapshot _ _ => some .createSnapshot
  | .deleteSnapshot _ => some .deleteSnapshot
  | .deleteImage _ => some .deleteImage
  | .associateFloatingIp _ _ => some .associate
  | .dissociateFloatingIp _ => some .dissociate
  | .bindStaticAddress _ _ _ => some .bindAddress
  | _ => none

/-- The calls with a kind are those that may change something. -/
theorem ProviderCall.isSome_mutation? (c : ProviderCall) : c.mutation?.isSome = c.isMutating := by
  cases c <;> rfl

/-- The answer refuses the call before anything was done, and these are the events up to the next
attempt.  A conflict is repaired by waiting only when a volume is to be attached; the refresh of the
credentials may report one as well. -/
inductive ProviderRefusal (c : ProviderCall) : ProviderResult c.Reply → Trace → Prop where
  | refreshed (text : String) :
      ProviderRefusal c (.error (.unauthorized text)) [⟨.provider .refreshCredentials, .ok ()⟩]
  | limited (text : String) (retryAfter : Option Duration) (span : Duration) :
      ProviderRefusal c (.error (.rateLimited text retryAfter)) [⟨.sleep span, ()⟩]
  | conflict (text : String) (attaching : c.mutation? = some .attach) :
      ProviderRefusal c (.error (.conflict text)) [⟨.sleep Manager.attachPause, ()⟩]
  | unrefreshed (text cause : String) (attaching : c.mutation? = some .attach) :
      ProviderRefusal c (.error (.unauthorized text))
        [⟨.provider .refreshCredentials, .error (.conflict cause)⟩,
          ⟨.sleep Manager.attachPause, ()⟩]

namespace Trace

/-- No change of this kind was asked for. -/
def Fresh (kind : Mutation) (past : Trace) : Prop :=
  ∀ e ∈ past, ∀ c, e.question = .provider c → c.mutation? ≠ some kind

/-- The last thing that happened, apart from what repairs it, is that the call was refused. -/
def Refused (c : ProviderCall) (past : Trace) : Prop :=
  ∃ earlier answer repair, past = earlier ++ ⟨.provider c, answer⟩ :: repair ∧
    ProviderRefusal c answer repair

variable {kind : Mutation} {c : ProviderCall} {past more : Trace}

theorem fresh_nil : Fresh kind [] := by
  intro e he
  cases he

theorem Fresh.append (h : Fresh kind past) (hm : Fresh kind more) : Fresh kind (past ++ more) := by
  intro e he
  rcases List.mem_append.1 he with he | he
  · exact h e he
  · exact hm e he

theorem Refused.append_left (h : Refused c past) (before : Trace) : Refused c (before ++ past) := by
  obtain ⟨earlier, answer, repair, rfl, refusal⟩ := h
  exact ⟨before ++ earlier, answer, repair, by simp, refusal⟩

/-- A call made right after the repair of its refusal, or refused again since, was refused. -/
theorem Refused.of_repair {answer : ProviderResult c.Reply} {repair : Trace}
    (refusal : ProviderRefusal c answer repair) (h : past = [] ∨ past.Refused c) :
    Refused c (⟨.provider c, answer⟩ :: repair ++ past) := by
  rcases h with rfl | refused
  · exact ⟨[], answer, repair, by simp, refusal⟩
  · exact refused.append_left _

end Trace

/-- What repairs a refusal changes nothing. -/
theorem ProviderRefusal.fresh_repair {kind : Mutation} {c : ProviderCall}
    {answer : ProviderResult c.Reply} {repair : Trace} (h : ProviderRefusal c answer repair) :
    repair.Fresh kind := by
  cases h <;> simp [Trace.Fresh, ProviderCall.mutation?]

/-- A success is no refusal. -/
theorem ProviderRefusal.ne_ok {c : ProviderCall} {answer : ProviderResult c.Reply} {repair : Trace}
    (h : ProviderRefusal c answer repair) (reply : c.Reply) : answer ≠ .ok reply := by
  cases h <;> simp

/-- An attempt to attach that ends with a conflict is refused once the pause after it is over. -/
theorem Repeats.refused {policy : RetryPolicy} {c : ProviderCall} {refreshable : Bool}
    {limited : Nat} {trace : Trace} {outcome : ProviderResult c.Reply} {text : String}
    (attaching : c.mutation? = some .attach)
    (h : Repeats policy c refreshable limited trace outcome)
    (conflict : outcome = .error (.conflict text)) :
    Trace.Refused c (trace ++ [⟨.sleep Manager.attachPause, ()⟩]) := by
  induction h with
  | answered outcome _ =>
    subst conflict
    exact ⟨[], _, _, rfl, .conflict text attaching⟩
  | limited text retryAfter span _ _ _ ih => exact (ih conflict).append_left [_, _]
  | refreshed text _ ih => exact (ih conflict).append_left [_, _]
  | unrefreshed text cause =>
    obtain rfl := Except.error.inj conflict
    exact ⟨[], _, _, rfl, .unrefreshed _ _ attaching⟩

/-! ## One call with its repetitions -/

/-- After the events `before` the task makes only this call, apart from refreshes of the
credentials: at the very start, or right after a refusal. -/
def Task.Reissues {α : Type} (c : ProviderCall) (before : Trace) (task : Task α) : Prop :=
  ∀ ⦃past : Trace⦄ ⦃posed : ProviderCall⦄, Program.Poses task past (.provider posed) →
    posed = .refreshCredentials ∨ posed = c ∧ (before ++ past = [] ∨ (before ++ past).Refused c)

namespace Retry

variable {c : ProviderCall} {policy : RetryPolicy} {before : Trace}

theorem reissues_pure {α : Type} {a : α} : Task.Reissues c before (pure a : Task α) := by
  intro past posed h
  exact absurd h Program.not_poses_done

/-- A task that only makes the call may follow its refusal. -/
theorem reissues_repaired {α : Type} {task : Task α} {answer : ProviderResult c.Reply}
    {repair : Trace} (refusal : ProviderRefusal c answer repair) (h : task.Reissues c []) :
    task.Reissues c (⟨.provider c, answer⟩ :: repair) := by
  intro past posed hp
  rcases h hp with hr | ⟨rfl, start⟩
  · exact .inl hr
  · exact .inr ⟨rfl, .inr (.of_repair refusal start)⟩

/-- Pauses make no calls. -/
theorem reissues_pauseFor_bind {α : Type} {span : Option Duration} {next : Unit → Task α}
    (h : ∀ length, (next ()).Reissues c (before ++ [⟨.sleep length, ()⟩])) :
    Task.Reissues c before (pauseFor span >>= next) := by
  intro past posed hp
  cases span with
  | none => cases hp with | later impossible _ => exact impossible.elim
  | some length =>
    cases hp with
    | later answer rest => simpa using h length rest

theorem reissues_react {unauthorized : String → Task (ProviderResult c.Reply)}
    {limited : String → Option Duration → Task (ProviderResult c.Reply)}
    (hu : ∀ text,
      (unauthorized text).Reissues c [⟨.provider c, .error (.unauthorized text)⟩])
    (hl : ∀ text retryAfter,
      (limited text retryAfter).Reissues c [⟨.provider c, .error (.rateLimited text retryAfter)⟩]) :
    (react (Task.provider c) unauthorized limited).Reissues c [] := by
  intro past posed h
  cases h with
  | now => exact .inr ⟨rfl, .inl rfl⟩
  | later answer rest =>
    cases answer with
    | ok reply => exact absurd rest Program.not_poses_done
    | error e =>
      cases e with
      | unauthorized text => exact hu text rest
      | rateLimited text retryAfter => exact hl text retryAfter rest
      | notFound _ | conflict _ | badRequest _ | serverError _ | transport _ | decode _ =>
        exact absurd rest Program.not_poses_done

theorem reissues_attempts {unauthorized : Nat → String → Task (ProviderResult c.Reply)}
    (hu : ∀ left text,
      (unauthorized left text).Reissues c [⟨.provider c, .error (.unauthorized text)⟩])
    (left : Nat) :
    (attempts policy (Task.provider c) unauthorized left).Reissues c [] := by
  induction left with
  | zero => exact reissues_react (hu 0) fun text retryAfter => reissues_pure
  | succ left ih =>
    refine reissues_react (hu (left + 1)) fun text retryAfter => ?_
    refine reissues_pauseFor_bind fun span => ?_
    exact reissues_repaired (.limited text retryAfter span) ih

/-- A call is made again only after it was refused as unauthorized, with one successful refresh of
the credentials in between, or because of too many requests. -/
theorem reissues_call : (call policy (Task.provider c)).Reissues c [] := by
  refine reissues_attempts (fun left text past posed h => ?_) _
  cases h with
  | now => exact .inl rfl
  | later answer rest =>
    cases answer with
    | error e => exact absurd rest Program.not_poses_done
    | ok _ =>
      have again : (attemptsAgain policy (Task.provider c) left).Reissues c [] :=
        reissues_attempts (fun left text => reissues_pure) left
      exact reissues_repaired (.refreshed text) again rest

/-- A volume that is not ready is attached again after a pause. -/
theorem reissues_rounds (attaching : c.mutation? = some .attach) (left : Nat) :
    (roundsLeft Manager.attachPause Manager.isConflict (call policy (Task.provider c))
      left).Reissues c [] := by
  induction left with
  | zero => exact reissues_call
  | succ left ih =>
    intro past posed h
    rcases Program.poses_bind_iff.1 h with hp | ⟨round, after, outcome, rfl, hround, hp⟩
    · exact reissues_call hp
    cases outcome with
    | ok reply => exact absurd hp Program.not_poses_done
    | error e =>
      cases e with
      | conflict text =>
        cases hp with
        | later answer rest =>
          have refused := (repeats_of_runs hround).refused attaching rfl
          rcases ih rest with hr | ⟨rfl, rfl | again⟩
          · exact .inl hr
          · exact .inr ⟨rfl, .inr refused⟩
          · have later := again.append_left (round ++ [⟨.sleep Manager.attachPause, answer⟩])
            exact .inr ⟨rfl, .inr (by simpa using later)⟩
      | unauthorized _ | rateLimited _ _ | notFound _ | badRequest _ | serverError _ | transport _
      | decode _ => exact absurd hp Program.not_poses_done

end Retry

/-- After a success of this call the task asks for nothing more. -/
def Task.Closes {α : Type} (c : ProviderCall) (task : Task α) : Prop :=
  ∀ ⦃past : Trace⦄ ⦃posed : Action⦄, Program.Poses task past posed →
    ∀ reply, ⟨.provider c, .ok reply⟩ ∉ past

namespace Retry

variable {c : ProviderCall} {policy : RetryPolicy}

theorem closes_pure {α : Type} {a : α} : Task.Closes c (pure a : Task α) :=
  fun _ _ posed => absurd posed Program.not_poses_done

theorem closes_react {unauthorized : String → Task (ProviderResult c.Reply)}
    {limited : String → Option Duration → Task (ProviderResult c.Reply)}
    (hu : ∀ text, (unauthorized text).Closes c)
    (hl : ∀ text retryAfter, (limited text retryAfter).Closes c) :
    (react (Task.provider c) unauthorized limited).Closes c := by
  intro past posed h reply made
  cases h with
  | now => cases made
  | later answer rest =>
    rcases List.mem_cons.1 made with first | later
    · cases first
      exact Program.not_poses_done rest
    cases answer with
    | ok reply => exact Program.not_poses_done rest
    | error e =>
      cases e with
      | unauthorized text => exact hu text rest reply later
      | rateLimited text retryAfter => exact hl text retryAfter rest reply later
      | notFound _ | conflict _ | badRequest _ | serverError _ | transport _ | decode _ =>
        exact Program.not_poses_done rest

theorem closes_attempts {unauthorized : Nat → String → Task (ProviderResult c.Reply)}
    (hu : ∀ left text, (unauthorized left text).Closes c) (left : Nat) :
    (attempts policy (Task.provider c) unauthorized left).Closes c := by
  induction left with
  | zero => exact closes_react (hu 0) fun _ _ => closes_pure
  | succ left ih =>
    refine closes_react (hu (left + 1)) fun text retryAfter => ?_
    intro past posed h reply made
    unfold pause at h
    generalize (retryAfter.orElse fun _ => policy.delay? _).map (min · policy.maxDelay) = span at h
    cases span with
    | none => cases h with
      | now => cases made
      | later impossible _ => exact impossible.elim
    | some length => cases h with
      | now => cases made
      | later answer rest => exact ih rest reply (by simpa using made)

/-- A call that was accepted is over. -/
theorem closes_call (hc : c ≠ .refreshCredentials) :
    (call policy (Task.provider c)).Closes c := by
  refine closes_attempts (fun left text past posed h reply made => ?_) _
  cases h with
  | now => cases made
  | later answer rest =>
    have later := (List.mem_cons.1 made).resolve_left (refresh_ne hc answer (.ok reply)).symm
    cases answer with
    | error e => exact Program.not_poses_done rest
    | ok _ => exact closes_attempts (fun _ _ => closes_pure) left rest reply later

end Retry

/-! ## Verbs -/

/-- Every change that the verb asks for is of one of these kinds, and it is the first one of its
kind or follows right after its own refusal. -/
def Verb.Issues {α : Type} (kinds : List Mutation) (verb : Verb α) : Prop :=
  ∀ ⦃past : Trace⦄ ⦃c : ProviderCall⦄ ⦃kind : Mutation⦄, verb.Poses past (.provider c) →
    c.mutation? = some kind → kind ∈ kinds ∧ (past.Fresh kind ∨ past.Refused c)

namespace Verb

variable {α β : Type} {verb : Verb α} {kinds later : List Mutation}

/-- A verb that only looks asks for no change. -/
theorem Calls.issues {S : ProviderCall → Prop} (hv : verb.Calls S)
    (looks : ∀ c, S c → c.mutation? = none) : verb.Issues [] := by
  intro past c kind posed mutates
  rcases hv.of_poses posed with rfl | hS
  · cases mutates
  · rw [looks c hS] at mutates
    cases mutates

/-- A verb that makes one call, which changes nothing. -/
theorem Calls.looks {c : ProviderCall} (hv : verb.Calls (· = c)) (quiet : c.mutation? = none) :
    verb.Issues [] :=
  hv.issues fun _ same => same ▸ quiet

theorem issues_pure {a : α} : (pure a : Verb α).Issues kinds := by
  intro past c kind posed
  exact absurd posed not_poses_pure

theorem issues_throw {e : CpiError} : (throw e : Verb α).Issues kinds := by
  intro past c kind posed
  exact absurd posed not_poses_throw

theorem issues_throw_bind {e : CpiError} {f : α → Verb β} :
    ((throw e : Verb α) >>= f).Issues kinds := by
  intro past c kind posed
  exact absurd posed not_poses_throw_bind

theorem issues_settings (c : SettingsCall) : (Verb.settings c).Issues [] := by
  intro past posed kind h
  exact absurd h not_poses_settings

/-- What a task asks for whose calls are one call with its repetitions. -/
theorem issues_of_reissues {c : ProviderCall} {kind : Mutation} (mutates : c.mutation? = some kind)
    (h : ∀ past posed, verb.Poses past (.provider posed) →
      posed = .refreshCredentials ∨ posed = c ∧ (past = [] ∨ past.Refused c)) :
    verb.Issues [kind] := by
  intro past posed other hp hother
  rcases h past posed hp with rfl | ⟨rfl, start⟩
  · cases hother
  · obtain rfl : kind = other := Option.some.inj (mutates.symm.trans hother)
    refine ⟨List.mem_singleton_self kind, start.imp_left fun first => ?_⟩
    rw [first]
    exact Trace.fresh_nil

namespace Issues

theorem mono (hv : verb.Issues kinds) (h : kinds ⊆ later) : verb.Issues later := by
  intro past c kind posed mutates
  exact (hv posed mutates).imp_left fun among => h among

/-- What was asked for in a run is of the kinds of the verb. -/
theorem fresh_of_runs (hv : verb.Issues kinds) {trace : Trace} {result : Except CpiError α}
    (h : verb.Runs trace result) {kind : Mutation} (other : kind ∉ kinds) : trace.Fresh kind := by
  intro e he c hc mutates
  obtain ⟨before, after, rfl⟩ := List.append_of_mem he
  have posed := h.poses
  rw [hc] at posed
  exact other (hv posed mutates).1

/-- Of two verbs that change different kinds of things, what the second one asks for first is the
first of its kind altogether. -/
theorem later_of_runs {next : Verb β} (hv : verb.Issues kinds) (hn : next.Issues later)
    (disjoint : ∀ kind ∈ later, kind ∉ kinds) {before after : Trace} {result : Except CpiError α}
    (h : verb.Runs before result) {c : ProviderCall} {kind : Mutation}
    (posed : next.Poses after (.provider c)) (mutates : c.mutation? = some kind) :
    kind ∈ kinds ++ later ∧ ((before ++ after).Fresh kind ∨ (before ++ after).Refused c) := by
  obtain ⟨among, start⟩ := hn posed mutates
  refine ⟨List.mem_append_right kinds among, ?_⟩
  rcases start with fresh | refused
  · exact .inl ((hv.fresh_of_runs h (disjoint kind among)).append fresh)
  · exact .inr (refused.append_left before)

theorem bind {f : α → Verb β} (hv : verb.Issues kinds) (hf : ∀ a, (f a).Issues later)
    (disjoint : ∀ kind ∈ later, kind ∉ kinds) : (verb >>= f).Issues (kinds ++ later) := by
  intro past c kind posed mutates
  rcases poses_bind_iff.1 posed with first | ⟨before, after, a, rfl, ran, second⟩
  · exact (hv first mutates).imp_left fun among => List.mem_append_left later among
  · exact hv.later_of_runs (hf a) disjoint ran second mutates

theorem tryCatch {handle : CpiError → Verb α} (hv : verb.Issues kinds)
    (hh : ∀ e, (handle e).Issues later) (disjoint : ∀ kind ∈ later, kind ∉ kinds) :
    (tryCatch verb handle).Issues (kinds ++ later) := by
  intro past c kind posed mutates
  rcases poses_tryCatch_iff.1 posed with first | ⟨before, after, e, rfl, ran, second⟩
  · exact (hv first mutates).imp_left fun among => List.mem_append_left later among
  · exact hv.later_of_runs (hh e) disjoint ran second mutates

/-- What is asked for again was refused each time before: no other call of its kind was made, and no
other answer was given. -/
theorem refused_before (hv : verb.Issues kinds) {past : Trace} {c : ProviderCall} {kind : Mutation}
    (posed : verb.Poses past (.provider c)) (mutates : c.mutation? = some kind)
    {other : ProviderCall} {answer : ProviderResult other.Reply}
    (same : other.mutation? = some kind) (made : ⟨.provider other, answer⟩ ∈ past) :
    other = c ∧ ∃ repair, ProviderRefusal other answer repair := by
  -- The induction goes back over the refusals, up to the first attempt.
  induction length : past.length using Nat.strongRecOn generalizing past with
  | _ n ih =>
    rcases (hv posed mutates).2 with fresh | ⟨earlier, refused, repair, rfl, refusal⟩
    · exact absurd same (fresh _ made other rfl)
    · rcases List.mem_append.1 made with before | now
      · have shorter : earlier.length < n := by
          rw [← length]
          simp
        exact ih _ shorter (Program.Poses.earlier posed) before rfl
      · rcases List.mem_cons.1 now with now | repairing
        · cases now
          exact ⟨rfl, repair, refusal⟩
        · exact absurd same (refusal.fresh_repair _ repairing other rfl)

/-- In a run at most one change of a kind is accepted. -/
theorem accepted_once (hv : verb.Issues kinds) {trace : Trace} {result : Except CpiError α}
    (h : verb.Runs trace result) (kind : Mutation) :
    (∀ c reply, c.mutation? = some kind → ⟨.provider c, .ok reply⟩ ∉ trace) ∨
      ∃ before c reply after, trace = before ++ ⟨.provider c, .ok reply⟩ :: after ∧
        c.mutation? = some kind ∧ verb.Poses before (.provider c) ∧
        ∀ other reply, other.mutation? = some kind →
          ⟨.provider other, .ok reply⟩ ∉ before ∧ ⟨.provider other, .ok reply⟩ ∉ after := by
  by_cases accepted : ∃ c reply, c.mutation? = some kind ∧ ⟨.provider c, .ok reply⟩ ∈ trace
  · obtain ⟨c, reply, mutates, made⟩ := accepted
    obtain ⟨before, after, rfl⟩ := List.append_of_mem made
    have posed : verb.Poses before (.provider c) := h.poses
    refine .inr ⟨before, c, reply, after, rfl, mutates, posed, fun other again same => ?_⟩
    constructor
    · intro earlier
      obtain ⟨-, repair, refusal⟩ := hv.refused_before posed mutates same earlier
      exact refusal.ne_ok again rfl
    · intro later
      obtain ⟨between, rest, rfl⟩ := List.append_of_mem later
      -- The second one would have been posed after the first one was accepted.
      have course : verb.Runs ((before ++ ⟨.provider c, .ok reply⟩ :: between) ++
          ⟨.provider other, .ok again⟩ :: rest) result := by simpa using h
      have first : ⟨.provider c, .ok reply⟩ ∈
          before ++ ⟨.provider c, .ok reply⟩ :: between := by simp
      obtain ⟨-, repair, refusal⟩ := hv.refused_before course.poses same mutates first
      exact refusal.ne_ok reply rfl
  · refine .inl fun c reply mutates made => accepted ⟨c, reply, mutates, made⟩

/-- Looking first changes nothing. -/
theorem after {f : α → Verb β} (hv : verb.Issues []) (hf : ∀ a, (f a).Issues later) :
    (verb >>= f).Issues later :=
  hv.bind hf fun _ _ => List.not_mem_nil

/-- Looking afterwards changes nothing. -/
theorem andThen {f : α → Verb β} (hv : verb.Issues kinds) (hf : ∀ a, (f a).Issues []) :
    (verb >>= f).Issues kinds := by
  have both := hv.bind hf fun kind impossible => absurd impossible List.not_mem_nil
  rwa [List.append_nil] at both

end Issues

end Verb

end CloudLifecycle

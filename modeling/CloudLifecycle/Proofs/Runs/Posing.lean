import CloudLifecycle.Proofs.Runs.Manager

/-!
# Questions in the middle of a run

A run that is not over has got its answers so far and asks for the next one.
`Program.Poses p past question` says that the program, given the events `past`, asks the question
next.  Nothing is said about what follows, so what holds of all questions that are posed holds of
runs that end, of runs that are given up and of runs that never come to an end.

Of two programs after one another a question is posed by the first, or by the second once the first
has run (`Program.poses_bind_iff`).  What was answered in a run was posed before
(`Verb.Runs.poses`).
-/

set_option autoImplicit false

namespace CloudLifecycle

namespace Program

variable {Q : Type} {A : Q → Type} {α β : Type}

/-- Given the events so far, the program asks this question next. -/
inductive Poses : Program Q A α → List (Event Q A) → Q → Prop where
  | now {question : Q} {next : A question → Program Q A α} :
      Poses (.ask question next) [] question
  | later {question posed : Q} {next : A question → Program Q A α} (answer : A question)
      {past : List (Event Q A)} (rest : Poses (next answer) past posed) :
      Poses (.ask question next) (⟨question, answer⟩ :: past) posed

theorem not_poses_done {a : α} {past : List (Event Q A)} {posed : Q} :
    ¬Poses (.done a : Program Q A α) past posed := by
  intro h
  cases h

theorem poses_request_iff {question posed : Q} {past : List (Event Q A)} :
    Poses (request question : Program Q A (A question)) past posed ↔
      past = [] ∧ posed = question := by
  constructor
  · intro h
    cases h with
    | now => exact ⟨rfl, rfl⟩
    | later answer rest => exact absurd rest not_poses_done
  · rintro ⟨rfl, rfl⟩
    exact .now

/-- Of two programs after one another a question is posed by the first, or by the second once the
first has run. -/
theorem poses_bind_iff {p : Program Q A α} {f : α → Program Q A β} {past : List (Event Q A)}
    {posed : Q} :
    Poses (p.bind f) past posed ↔
      Poses p past posed ∨
        ∃ before after a, past = before ++ after ∧ Runs p before a ∧ Poses (f a) after posed := by
  constructor
  · intro h
    induction p generalizing past with
    | done value => exact .inr ⟨[], past, value, rfl, .done value, h⟩
    | ask question next ih =>
      cases h with
      | now => exact .inl .now
      | later answer rest =>
        rcases ih answer rest with hp | ⟨before, after, a, rfl, hp, hf⟩
        · exact .inl (.later answer hp)
        · exact .inr ⟨⟨question, answer⟩ :: before, after, a, rfl, .ask answer hp, hf⟩
  · rintro (h | ⟨before, after, a, rfl, hp, hf⟩)
    · induction h with
      | now => exact .now
      | later answer _ ih => exact .later answer ih
    · induction hp with
      | done value => exact hf
      | ask answer _ ih => exact .later answer (ih hf)

/-- What was answered in a run was posed before. -/
theorem Runs.poses {p : Program Q A α} {before after : List (Event Q A)} {e : Event Q A} {a : α}
    (h : Runs p (before ++ e :: after) a) : Poses p before e.question := by
  induction before generalizing p with
  | nil =>
    cases h with
    | ask answer rest => exact .now
  | cons first before ih =>
    cases h with
    | ask answer rest => exact .later answer (ih rest)

/-- What was answered before a question was posed itself. -/
theorem Poses.earlier {p : Program Q A α} {before after : List (Event Q A)} {e : Event Q A}
    {posed : Q} (h : Poses p (before ++ e :: after) posed) : Poses p before e.question := by
  induction before generalizing p with
  | nil =>
    cases h with
    | later answer rest => exact .now
  | cons first before ih =>
    cases h with
    | later answer rest => exact .later answer (ih rest)

/-- Once the first of two programs has run, what is posed is posed by the second. -/
theorem poses_bind_of_runs {p : Program Q A α} {f : α → Program Q A β}
    {before after : List (Event Q A)} {a : α} {posed : Q} (h : Runs p before a) :
    Poses (p.bind f) (before ++ after) posed ↔ Poses (f a) after posed := by
  induction h with
  | done value => exact Iff.rfl
  | @ask question next answer before value rest ih =>
    refine Iff.trans ⟨fun h => ?_, fun h => .later answer h⟩ ih
    cases h with
    | later _ rest => exact rest

/-- A program goes one way with given answers: of two runs that agree as far as they go, neither
goes further. -/
theorem Runs.unique {p : Program Q A α} {before other after more : List (Event Q A)} {a b : α}
    (h : Runs p before a) (ho : Runs p other b) (same : before ++ after = other ++ more) :
    before = other ∧ a = b ∧ after = more := by
  induction h generalizing other with
  | done value =>
    cases ho with
    | done _ => exact ⟨rfl, rfl, same⟩
  | @ask question next answer before value rest ih =>
    cases ho with
    | ask _ restOther =>
      obtain ⟨first, later⟩ := List.cons.inj same
      cases first
      obtain ⟨rfl, hab, hafter⟩ := ih restOther later
      exact ⟨rfl, hab, hafter⟩

theorem Asks.of_poses {S : Q → Prop} {p : Program Q A α} (hp : Asks S p)
    {past : List (Event Q A)} {posed : Q} (h : Poses p past posed) : S posed := by
  induction h with
  | now =>
    cases hp with
    | ask hq rest => exact hq
  | later answer _ ih =>
    cases hp with
    | ask hq rest => exact ih (rest answer)

end Program

namespace Verb

variable {α β : Type} {past : Trace} {posed : Action}

/-- Given the events so far, the verb takes this action next. -/
def Poses (verb : Verb α) (past : Trace) (posed : Action) : Prop :=
  Program.Poses verb.run past posed

/-- What was answered in a run was posed before. -/
theorem Runs.poses {verb : Verb α} {before after : Trace}
    {e : Program.Event Action Action.Answer} {result : Except CpiError α}
    (h : verb.Runs (before ++ e :: after) result) : verb.Poses before e.question :=
  Program.Runs.poses h

theorem not_poses_pure {a : α} : ¬Poses (pure a : Verb α) past posed := Program.not_poses_done

theorem not_poses_throw {e : CpiError} : ¬Poses (throw e : Verb α) past posed :=
  Program.not_poses_done

theorem not_poses_throw_bind {e : CpiError} {f : α → Verb β} :
    ¬Poses ((throw e : Verb α) >>= f) past posed := Program.not_poses_done

theorem poses_bind_iff {verb : Verb α} {f : α → Verb β} :
    Poses (verb >>= f) past posed ↔
      verb.Poses past posed ∨
        ∃ before after a, past = before ++ after ∧ verb.Runs before (.ok a) ∧
          (f a).Poses after posed := by
  refine Program.poses_bind_iff.trans (or_congr_right ?_)
  constructor
  · rintro ⟨before, after, first, rfl, hv, hf⟩
    cases first with
    | error e => exact absurd hf Program.not_poses_done
    | ok a => exact ⟨before, after, a, rfl, hv, hf⟩
  · rintro ⟨before, after, a, rfl, hv, hf⟩
    exact ⟨before, after, .ok a, rfl, hv, hf⟩

/-- A verb whose failure is caught poses what it poses itself, and what catches the failure does. -/
theorem poses_tryCatch_iff {verb : Verb α} {handle : CpiError → Verb α} :
    Poses (tryCatch verb handle) past posed ↔
      verb.Poses past posed ∨
        ∃ before after e, past = before ++ after ∧ verb.Runs before (.error e) ∧
          (handle e).Poses after posed := by
  refine Program.poses_bind_iff.trans (or_congr_right ?_)
  constructor
  · rintro ⟨before, after, first, rfl, hv, hf⟩
    cases first with
    | ok a => exact absurd hf Program.not_poses_done
    | error e => exact ⟨before, after, e, rfl, hv, hf⟩
  · rintro ⟨before, after, e, rfl, hv, hf⟩
    exact ⟨before, after, .error e, rfl, hv, hf⟩

/-- A task whose failures are renamed poses what the task does. -/
theorem poses_mapError_iff {ε : Type} {task : Task (Except ε α)} {f : ε → CpiError} :
    Poses (ExceptT.mk do return (← task).mapError f : Verb α) past posed ↔
      Program.Poses task past posed := by
  refine Program.poses_bind_iff.trans (or_iff_left ?_)
  rintro ⟨_, _, _, _, _, hf⟩
  exact Program.not_poses_done hf

theorem poses_lift_iff {task : Task α} :
    Poses (ExceptT.lift task : Verb α) past posed ↔ Program.Poses task past posed := by
  refine Program.poses_bind_iff.trans (or_iff_left ?_)
  rintro ⟨_, _, _, _, _, hf⟩
  exact Program.not_poses_done hf

/-- What the second of two verbs never poses is posed by the first. -/
theorem poses_of_bind {verb : Verb α} {f : α → Verb β} (h : Poses (verb >>= f) past posed)
    (hf : ∀ a after, ¬(f a).Poses after posed) : verb.Poses past posed := by
  refine (poses_bind_iff.1 h).resolve_right ?_
  rintro ⟨_, after, a, _, _, second⟩
  exact hf a after second

/-- A verb whose result is changed at the end poses what the verb does. -/
theorem poses_bind_pure_iff {verb : Verb α} {f : α → β} :
    Poses (do return f (← verb)) past posed ↔ verb.Poses past posed := by
  refine poses_bind_iff.trans (or_iff_left ?_)
  rintro ⟨_, _, _, _, _, nothing⟩
  exact not_poses_pure nothing

/-- Once a verb has failed whose failure is caught, what catches it goes on. -/
theorem poses_caught_bind {verb : Verb α} {handle : CpiError → Verb α} {f : α → Verb β}
    {before after : Trace} {e : CpiError} (h : verb.Runs before (.error e)) :
    Poses (tryCatch verb handle >>= f) (before ++ after) posed ↔
      Poses (handle e >>= f) after posed := by
  have course : (tryCatch verb handle >>= f).run = Program.bind verb.run _ :=
    Program.bind_assoc verb.run _ _
  unfold Poses
  rw [course]
  exact Program.poses_bind_of_runs h

/-- An operation on the settings store makes no call to the backend. -/
theorem not_poses_settings {stored : SettingsCall} {c : ProviderCall} :
    ¬Poses (Verb.settings stored) past (.provider c) := by
  intro h
  cases (Program.poses_request_iff.1 (poses_mapError_iff.1 h)).2

namespace Calls

variable {S : ProviderCall → Prop} {verb : Verb α}

/-- A verb that keeps to some set poses only calls of it and refreshes of the credentials. -/
theorem of_poses (hv : verb.Calls S) {c : ProviderCall} (h : verb.Poses past (.provider c)) :
    c = .refreshCredentials ∨ S c :=
  Program.Asks.of_poses hv h

/-- What was answered before a question is posed keeps to the set. -/
theorem callsIn_of_poses (hv : verb.Calls S) (h : verb.Poses past posed) : past.CallsIn S := by
  intro e he c hc
  obtain ⟨before, after, rfl⟩ := List.append_of_mem he
  have earlier : verb.Poses before e.question := Program.Poses.earlier h
  rw [hc] at earlier
  exact hv.of_poses earlier

/-- A call outside the set is never posed. -/
theorem not_poses (hv : verb.Calls S) {c : ProviderCall} (hr : c ≠ .refreshCredentials)
    (hc : ¬S c) : ¬verb.Poses past (.provider c) := by
  intro h
  rcases hv.of_poses h with hrefresh | hS
  · exact hr hrefresh
  · exact hc hS

/-- A call that the first of two verbs does not make is posed by the second. -/
theorem poses_bind (hv : verb.Calls S) {f : α → Verb β} {c : ProviderCall}
    (h : (verb >>= f).Poses past (.provider c)) (hr : c ≠ .refreshCredentials) (hc : ¬S c) :
    ∃ before after a, past = before ++ after ∧ verb.Runs before (.ok a) ∧
      (f a).Poses after (.provider c) :=
  (poses_bind_iff.1 h).resolve_left (hv.not_poses hr hc)

end Calls

end Verb

namespace Manager

open Verb

variable {m : Manager} {c : ProviderCall}

/-- A call that was not refused yet is posed at once. -/
theorem poses_call : (m.call c).Poses [] (.provider c) := by
  refine poses_mapError_iff.2 ?_
  unfold Retry.call
  cases m.options.retry.maxAttempts - 1 with
  | zero => exact .now
  | succ left => exact .now

theorem eq_of_poses_call {past : Trace} {posed : ProviderCall}
    (h : (m.call c).Poses past (.provider posed)) (hr : posed ≠ .refreshCredentials) : posed = c :=
  ((m.calls_call c).of_poses h).resolve_left hr

end Manager

end CloudLifecycle

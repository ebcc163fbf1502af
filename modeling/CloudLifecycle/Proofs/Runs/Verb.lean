import CloudLifecycle.Lifecycle.Action

/-!
# Runs of verbs

A run of a verb is the list of the actions that it took with their answers, a `Trace`, and its
result.  The lemmas here take a run apart along the way in which the verb was put together:
`Verb.runs_bind_iff` for one verb after another, with the case that the first one fails, and
`Verb.runs_tryCatch_iff` for a verb whose failure is caught.

`Program.Asks S p` says that whatever the answers, `p` asks only questions of the set `S`; then so
does every run of it.
-/

set_option autoImplicit false

namespace CloudLifecycle

namespace Program

variable {Q : Type} {A : Q → Type} {α β : Type}

theorem runs_done_iff {value a : α} {events : List (Event Q A)} :
    Runs (.done value) events a ↔ events = [] ∧ a = value := by
  constructor
  · intro h
    cases h
    exact ⟨rfl, rfl⟩
  · rintro ⟨rfl, rfl⟩
    exact .done a

theorem runs_request_iff {question : Q} {answer : A question} {events : List (Event Q A)} :
    Runs (request question) events answer ↔ events = [⟨question, answer⟩] := by
  constructor
  · intro h
    cases h with
    | ask given rest =>
      cases rest
      rfl
  · rintro rfl
    exact .ask answer (.done answer)

/-- Whatever the answers, the program asks only questions of the set. -/
inductive Asks (S : Q → Prop) : Program Q A α → Prop where
  | done (value : α) : Asks S (.done value)
  | ask {question : Q} {next : A question → Program Q A α} (h : S question)
      (rest : ∀ answer, Asks S (next answer)) : Asks S (.ask question next)

namespace Asks

variable {S T : Q → Prop}

theorem request {question : Q} (h : S question) :
    Asks S (Program.request question : Program Q A (A question)) :=
  .ask h fun answer => .done answer

theorem bind {p : Program Q A α} {f : α → Program Q A β} (hp : Asks S p)
    (hf : ∀ a, Asks S (f a)) : Asks S (p >>= f) := by
  show Asks S (p.bind f)
  induction hp with
  | done value => exact hf value
  | ask h _ ih => exact .ask h ih

theorem mono (h : ∀ question, S question → T question) {p : Program Q A α} (hp : Asks S p) :
    Asks T p := by
  induction hp with
  | done value => exact .done value
  | ask hq _ ih => exact .ask (h _ hq) ih

/-- The events of a run are about questions of the set. -/
theorem mem_of_runs {p : Program Q A α} (hp : Asks S p) {events : List (Event Q A)} {a : α}
    (h : Runs p events a) : ∀ e ∈ events, S e.question := by
  induction h with
  | done value => simp
  | ask answer _ ih =>
    cases hp with
    | ask hq rest =>
      intro e he
      rcases List.mem_cons.1 he with rfl | he
      · exact hq
      · exact ih (rest answer) e he

end Asks

end Program

/-- The actions that were taken, with their answers. -/
abbrev Trace : Type := List (Program.Event Action Action.Answer)

namespace Verb

variable {α β : Type} {trace : Trace}

/-- The verb takes the actions of the trace and, given their answers, ends with the result. -/
def Runs (verb : Verb α) (trace : Trace) (result : Except CpiError α) : Prop :=
  Program.Runs verb.run trace result

theorem runs_pure_iff {a : α} {result : Except CpiError α} :
    Runs (pure a) trace result ↔ trace = [] ∧ result = .ok a :=
  Program.runs_done_iff

theorem runs_throw_iff {e : CpiError} {result : Except CpiError α} :
    Runs (throw e : Verb α) trace result ↔ trace = [] ∧ result = .error e :=
  Program.runs_done_iff

/-- Nothing comes after a failure. -/
theorem runs_throw_bind_iff {e : CpiError} {f : α → Verb β} {result : Except CpiError β} :
    Runs ((throw e : Verb α) >>= f) trace result ↔ trace = [] ∧ result = .error e :=
  Program.runs_done_iff

theorem runs_outcome_iff {outcome result : Except CpiError α} :
    Runs (ExceptT.mk (pure outcome) : Verb α) trace result ↔ trace = [] ∧ result = outcome :=
  Program.runs_done_iff

/-- A verb after another runs if the first one fails, or if it succeeds and the second one runs. -/
theorem runs_bind_iff {verb : Verb α} {f : α → Verb β} {result : Except CpiError β} :
    Runs (verb >>= f) trace result ↔
      (∃ e, verb.Runs trace (.error e) ∧ result = .error e) ∨
        ∃ before after a, trace = before ++ after ∧ verb.Runs before (.ok a) ∧
          (f a).Runs after result := by
  refine Program.runs_bind_iff.trans ⟨?_, ?_⟩
  · rintro ⟨before, after, first, rfl, hv, hf⟩
    cases first with
    | error e =>
      obtain ⟨rfl, rfl⟩ := Program.runs_done_iff.1 hf
      exact .inl ⟨e, (List.append_nil before).symm ▸ hv, rfl⟩
    | ok a => exact .inr ⟨before, after, a, rfl, hv, hf⟩
  · rintro (⟨e, hv, rfl⟩ | ⟨before, after, a, rfl, hv, hf⟩)
    · exact ⟨trace, [], .error e, by simp, hv, .done _⟩
    · exact ⟨before, after, .ok a, rfl, hv, hf⟩

theorem runs_bind_ok_iff {verb : Verb α} {f : α → Verb β} {b : β} :
    Runs (verb >>= f) trace (.ok b) ↔
      ∃ before after a, trace = before ++ after ∧ verb.Runs before (.ok a) ∧
        (f a).Runs after (.ok b) := by
  refine runs_bind_iff.trans ⟨?_, .inr⟩
  rintro (⟨e, _, he⟩ | h)
  · cases he
  · exact h

/-- A verb whose result is changed at the end runs as the verb does. -/
theorem runs_bind_pure_iff {verb : Verb α} {f : α → β} {result : Except CpiError β} :
    Runs (do return f (← verb)) trace result ↔
      ∃ first, verb.Runs trace first ∧ result = first.map f := by
  refine runs_bind_iff.trans ⟨?_, ?_⟩
  · rintro (⟨e, hv, rfl⟩ | ⟨before, after, a, rfl, hv, hr⟩)
    · exact ⟨.error e, hv, rfl⟩
    · obtain ⟨rfl, rfl⟩ := runs_pure_iff.1 hr
      exact ⟨.ok a, (List.append_nil before).symm ▸ hv, rfl⟩
  · rintro ⟨first, hv, rfl⟩
    cases first with
    | error e => exact .inl ⟨e, hv, rfl⟩
    | ok a => exact .inr ⟨trace, [], a, by simp, hv, .done _⟩

theorem runs_discard_iff {verb : Verb α} {result : Except CpiError Unit} :
    Runs (discard verb) trace result ↔
      ∃ first, verb.Runs trace first ∧ result = first.map fun _ => () :=
  runs_bind_pure_iff

/-- A verb whose failure is caught succeeds, or it fails and what catches the failure runs. -/
theorem runs_tryCatch_iff {verb : Verb α} {handle : CpiError → Verb α}
    {result : Except CpiError α} :
    Runs (tryCatch verb handle) trace result ↔
      (∃ a, verb.Runs trace (.ok a) ∧ result = .ok a) ∨
        ∃ before after e, trace = before ++ after ∧ verb.Runs before (.error e) ∧
          (handle e).Runs after result := by
  refine Program.runs_bind_iff.trans ⟨?_, ?_⟩
  · rintro ⟨before, after, first, rfl, hv, hf⟩
    cases first with
    | ok a =>
      obtain ⟨rfl, rfl⟩ := Program.runs_done_iff.1 hf
      exact .inl ⟨a, (List.append_nil before).symm ▸ hv, rfl⟩
    | error e => exact .inr ⟨before, after, e, rfl, hv, hf⟩
  · rintro (⟨a, hv, rfl⟩ | ⟨before, after, e, rfl, hv, hf⟩)
    · exact ⟨trace, [], .ok a, by simp, hv, .done _⟩
    · exact ⟨before, after, .error e, rfl, hv, hf⟩

theorem mapError_eq_ok_iff {ε ε' : Type} {outcome : Except ε α} {f : ε → ε'} {a : α} :
    outcome.mapError f = .ok a ↔ outcome = .ok a := by
  cases outcome with
  | error e => exact ⟨fun h => (nomatch h), fun h => (nomatch h)⟩
  | ok b =>
    show Except.ok b = Except.ok a ↔ _
    simp

/-- A task whose failures are renamed runs as the task does. -/
theorem runs_mapError_iff {ε : Type} {task : Task (Except ε α)} {f : ε → CpiError}
    {result : Except CpiError α} :
    Runs (ExceptT.mk do return (← task).mapError f : Verb α) trace result ↔
      ∃ outcome, Program.Runs task trace outcome ∧ result = outcome.mapError f := by
  constructor
  · intro h
    obtain ⟨before, after, outcome, rfl, ht, hr⟩ := Program.runs_bind_iff.1 h
    obtain ⟨rfl, rfl⟩ := Program.runs_done_iff.1 hr
    exact ⟨outcome, by simpa using ht, rfl⟩
  · rintro ⟨outcome, ht, rfl⟩
    exact Program.runs_bind_iff.2 ⟨trace, [], outcome, by simp, ht, .done _⟩

/-- A task as a verb runs as the task does, and never fails. -/
theorem runs_lift_iff {task : Task α} {result : Except CpiError α} :
    Runs (ExceptT.lift task : Verb α) trace result ↔
      ∃ a, Program.Runs task trace a ∧ result = .ok a := by
  constructor
  · intro h
    obtain ⟨before, after, a, rfl, ht, hr⟩ := Program.runs_bind_iff.1 h
    obtain ⟨rfl, rfl⟩ := Program.runs_done_iff.1 hr
    exact ⟨a, by simpa using ht, rfl⟩
  · rintro ⟨a, ht, rfl⟩
    exact Program.runs_bind_iff.2 ⟨trace, [], a, by simp, ht, .done _⟩

/-- One action and what comes after its answer. -/
theorem runs_ask_bind_iff {question : Action} {f : question.Answer → Verb α}
    {result : Except CpiError α} :
    Runs (ExceptT.lift (Program.request question) >>= f) trace result ↔
      ∃ answer rest, trace = ⟨question, answer⟩ :: rest ∧ (f answer).Runs rest result := by
  refine runs_bind_iff.trans ⟨?_, ?_⟩
  · rintro (⟨e, hq, rfl⟩ | ⟨before, after, answer, rfl, hq, hf⟩)
    · obtain ⟨_, _, he⟩ := runs_lift_iff.1 hq
      cases he
    · obtain ⟨_, ha, he⟩ := runs_lift_iff.1 hq
      obtain rfl := Except.ok.inj he
      obtain rfl := Program.runs_request_iff.1 ha
      exact ⟨answer, after, rfl, hf⟩
  · rintro ⟨answer, rest, rfl, hf⟩
    exact .inr ⟨_, rest, answer, rfl, runs_lift_iff.2 ⟨answer, Program.runs_request_iff.2 rfl, rfl⟩,
      hf⟩

end Verb

end CloudLifecycle

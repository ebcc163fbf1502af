import CloudLifecycle.Proofs.Runs.Verb

/-!
# Playing a program

`s.Leads p start events rest middle` says that the surroundings `s`, from the state `start` on, give
the program `p` the answers of `events`, and that from then on they play `rest` from the state
`middle`.  Such stretches of a run are put together by `Leads.trans`; a program that was led to its
end leads on to the next one (`Leads.bind`), and a verb likewise to its result
(`Verb.leads_bind`, `Verb.leads_bind_error`).
-/

set_option autoImplicit false

namespace CloudLifecycle

namespace Surroundings

variable {Q : Type} {A : Q → Type} {ω α β : Type} {s : Surroundings Q A ω}

/-- After these events, the run of a program is that of the rest. -/
structure Leads (s : Surroundings Q A ω) (p : Program Q A α) (start : ω)
    (events : List (Program.Event Q A)) (rest : Program Q A α) (middle : ω) : Prop where
  run : s.run p start = s.run rest middle
  events : s.events p start = events ++ s.events rest middle

/-- A question without an answer ends the run. -/
theorem run_unanswered {question : Q} {next : A question → Program Q A α} {start middle : ω}
    (h : s.answer question start = (none, middle)) :
    s.run (.ask question next) start = (none, middle) := by
  rw [Surroundings.run, h]

namespace Leads

variable {p rest last : Program Q A α} {f : α → Program Q A β} {start middle final : ω}
  {a : α} {before after : List (Program.Event Q A)}

theorem refl (p : Program Q A α) (start : ω) : s.Leads p start [] p start := ⟨rfl, rfl⟩

theorem trans (h : s.Leads p start before rest middle) (hr : s.Leads rest middle after last final) :
    s.Leads p start (before ++ after) last final where
  run := h.run.trans hr.run
  events := by rw [h.events, hr.events, List.append_assoc]

/-- A question that is answered leads to what follows the answer. -/
theorem ask {question : Q} {next : A question → Program Q A α} {answer : A question}
    (h : s.answer question start = (some answer, middle)) :
    s.Leads (.ask question next) start [⟨question, answer⟩] (next answer) middle where
  run := by rw [Surroundings.run, h]
  events := by rw [Surroundings.events, h, List.singleton_append]

/-- A program that comes to a result is led there by its events. -/
theorem of_run (h : s.run p start = (some a, final)) :
    s.Leads p start (s.events p start) (.done a) final where
  run := h
  events := by rw [Surroundings.events, List.append_nil]

/-- A program that was led to its end leads on to the next one. -/
theorem bind (h : s.Leads p start before (.done a) middle) :
    s.Leads (p.bind f) start before (f a) middle := by
  obtain ⟨hrun, hevents⟩ := h
  rw [Surroundings.events, List.append_nil] at hevents
  subst hevents
  induction p generalizing start with
  | done value =>
    obtain ⟨hvalue, rfl⟩ := Prod.mk.inj hrun
    obtain rfl := Option.some.inj hvalue
    exact refl _ _
  | ask question next ih =>
    rw [Program.bind_ask]
    rcases hanswer : s.answer question start with ⟨_ | answer, later⟩
    · cases (run_unanswered hanswer).symm.trans hrun
    · have asked : s.Leads (.ask question next) start _ _ _ := ask hanswer
      rw [asked.run] at hrun
      rw [asked.events]
      exact (ask hanswer).trans (ih answer hrun)

end Leads

end Surroundings

namespace Verb

variable {ω α β : Type} {s : Surroundings Action Action.Answer ω} {verb : Verb α}
  {f : α → Verb β} {start middle : ω} {before : Trace}

theorem leads_bind {a : α} (h : s.Leads verb.run start before (.done (.ok a)) middle) :
    s.Leads (verb >>= f).run start before (f a).run middle :=
  h.bind

theorem leads_bind_error {e : CpiError}
    (h : s.Leads verb.run start before (.done (.error e)) middle) :
    s.Leads (verb >>= f).run start before (.done (.error e)) middle :=
  h.bind

/-- A verb that was led to its result has run. -/
theorem runs_of_leads {result : Except CpiError α}
    (h : s.Leads verb.run start before (.done result) middle) : verb.Runs before result := by
  have ran := s.runs_events verb.run start result (congrArg Prod.fst h.run)
  rwa [h.events, Surroundings.events, List.append_nil] at ran

/-- An action that is answered leads to what comes after its answer. -/
theorem leads_ask_bind {question : Action} {f : question.Answer → Verb β}
    {answer : question.Answer} (h : s.answer question start = (some answer, middle)) :
    s.Leads (ExceptT.lift (Program.request question) >>= f).run start [⟨question, answer⟩]
      (f answer).run middle :=
  .ask h

/-- Nothing comes of a run that is given up. -/
theorem run_abort (state : ω) :
    (s.run (ExceptT.lift Task.abort : Verb α).run state).1 = none := by
  rcases hanswer : s.answer .abort state with ⟨_ | impossible, later⟩
  · exact congrArg Prod.fst (Surroundings.run_unanswered hanswer)
  · exact impossible.elim

end Verb

end CloudLifecycle

import CloudLifecycle.Lifecycle.Online
import CloudLifecycle.Proofs.Runs.Posing

/-!
# Runs of refined programs

Where each question of a program is answered by a program of its own, a run consists of the runs of
these, one after another (`Program.Handled`).  What is posed in its middle is posed by the program
for the question that is open (`Program.poses_refine_iff`), and each event so far belongs to the run
for one of the questions before (`Program.Handled.split`).
-/

set_option autoImplicit false

namespace CloudLifecycle

namespace Program

variable {Q Q' : Type} {A : Q → Type} {A' : Q' → Type} {α β : Type}

/-- The events of the programs that have answered these questions, one after another. -/
inductive Handled (handle : (question : Q) → Program Q' A' (A question)) :
    List (Event Q A) → List (Event Q' A') → Prop where
  | nil : Handled handle [] []
  | cons {question : Q} {answer : A question} {part rest : List (Event Q' A')}
      {trace : List (Event Q A)} (first : Runs (handle question) part answer)
      (later : Handled handle trace rest) :
      Handled handle (⟨question, answer⟩ :: trace) (part ++ rest)

variable {handle : (question : Q) → Program Q' A' (A question)}

/-- What comes out of a refined program comes out of the program too. -/
theorem exists_runs_of_refine {p : Program Q A α} {events : List (Event Q' A')} {a : α}
    (ran : Runs (p.refine handle) events a) : ∃ trace, Runs p trace a := by
  induction p generalizing events with
  | done value =>
    obtain ⟨-, rfl⟩ := runs_done_iff.1 ran
    exact ⟨[], .done a⟩
  | ask question next ih =>
    obtain ⟨_, _, answer, -, -, later⟩ := runs_bind_iff.1 ran
    obtain ⟨trace, own⟩ := ih answer later
    exact ⟨⟨question, answer⟩ :: trace, .ask answer own⟩

/-- A refined program poses what the program for the open question poses, once those for the
questions before have run. -/
theorem poses_refine_iff {p : Program Q A α} {past : List (Event Q' A')} {posed : Q'} :
    Poses (p.refine handle) past posed ↔
      ∃ trace question done last, past = done ++ last ∧ Handled handle trace done ∧
        Poses p trace question ∧ Poses (handle question) last posed := by
  constructor
  · intro h
    induction p generalizing past with
    | done value => exact absurd h not_poses_done
    | ask question next ih =>
      rcases poses_bind_iff.1 h with now | ⟨part, rest, answer, rfl, ran, later⟩
      · exact ⟨[], question, [], past, rfl, .nil, .now, now⟩
      · obtain ⟨trace, open_, done, last, rfl, handled, posing, asks⟩ := ih answer later
        exact ⟨⟨question, answer⟩ :: trace, open_, part ++ done, last, by simp,
          .cons ran handled, .later answer posing, asks⟩
  · rintro ⟨trace, question, done, last, rfl, handled, posing, asks⟩
    induction posing generalizing done with
    | now =>
      cases handled with
      | nil => exact poses_bind_iff.2 (.inl asks)
    | later answer _ ih =>
      cases handled with
      | @cons _ _ part rest _ ran later =>
        exact poses_bind_iff.2 (.inr ⟨part, rest ++ last, answer, by simp, ran, ih rest later asks⟩)

/-- Each event belongs to the run for one of the questions. -/
theorem Handled.split {trace : List (Event Q A)} {before after : List (Event Q' A')}
    {e : Event Q' A'} (h : Handled handle trace (before ++ e :: after)) :
    ∃ earlier question answer later left right rest,
      trace = earlier ++ ⟨question, answer⟩ :: later ∧
        Runs (handle question) (left ++ e :: right) answer ∧ after = right ++ rest := by
  generalize whole : before ++ e :: after = events at h
  induction h generalizing before with
  | nil => simp at whole
  | @cons question answer part rest trace first later ih =>
    rcases List.append_eq_append_iff.1 whole with ⟨more, rfl, same⟩ | ⟨more, rfl, same⟩
    · cases more with
      | nil =>
        obtain ⟨earlier, question, answer, behind, left, right, others, rfl, ran, rfl⟩ :=
          ih (show [] ++ e :: after = rest from same)
        exact ⟨_ :: earlier, question, answer, behind, left, right, others, rfl, ran, rfl⟩
      | cons own right =>
        obtain ⟨rfl, rfl⟩ := List.cons.inj same
        exact ⟨[], question, answer, trace, before, right, rest, rfl, first, rfl⟩
    · obtain ⟨earlier, question, answer, behind, left, right, others, rfl, ran, rfl⟩ :=
        ih same.symm
      exact ⟨_ :: earlier, question, answer, behind, left, right, others, rfl, ran, rfl⟩

end Program

namespace Connection

open Program

variable {α : Type} {p : Web α}

/-- An event of a program over the web, as one of a larger program. -/
def outside (e : Event WebAction WebAction.Answer) : Event Outside Outside.Answer :=
  ⟨.web e.question, e.answer⟩

theorem lift_ask (action : WebAction) (next : action.Answer → Web α) :
    lift (.ask action next) = .ask (Outside.web action) fun answer => lift (next answer) := rfl

/-- A program over the web runs as it would on its own. -/
theorem runs_lift_iff {events : List (Event Outside Outside.Answer)} {a : α} :
    Runs (lift p) events a ↔ ∃ own, events = own.map outside ∧ Runs p own a := by
  constructor
  · intro h
    induction p generalizing events with
    | done value =>
      obtain ⟨rfl, rfl⟩ := runs_done_iff.1 h
      exact ⟨[], rfl, .done a⟩
    | ask question next ih =>
      cases h with
      | ask answer rest =>
        obtain ⟨own, rfl, ran⟩ := ih answer rest
        exact ⟨⟨question, answer⟩ :: own, rfl, Runs.ask (A := WebAction.Answer) answer ran⟩
  · rintro ⟨own, rfl, ran⟩
    induction ran with
    | done value => exact .done value
    | ask answer _ ih =>
      rw [lift_ask]
      exact .ask _ ih

theorem poses_lift_iff {past : List (Event Outside Outside.Answer)} {posed : Outside} :
    Poses (lift p) past posed ↔
      ∃ own question, past = own.map outside ∧ posed = .web question ∧ Poses p own question := by
  constructor
  · intro h
    induction p generalizing past with
    | done value => exact absurd h not_poses_done
    | ask question next ih =>
      cases h with
      | now => exact ⟨[], question, rfl, rfl, .now⟩
      | later answer rest =>
        obtain ⟨own, asked, rfl, rfl, posing⟩ := ih answer rest
        exact ⟨⟨question, answer⟩ :: own, asked, rfl, rfl,
          Poses.later (A := WebAction.Answer) answer posing⟩
  · rintro ⟨own, question, rfl, rfl, posing⟩
    induction posing with
    | now => exact .now
    | later answer _ ih =>
      rw [lift_ask]
      exact .later _ ih

theorem asks_lift {S : Outside → Prop} (h : Asks (fun action => S (.web action)) p) :
    Asks S (lift p) := by
  induction h with
  | done value => exact .done value
  | ask hq _ ih => exact .ask hq ih

end Connection

end CloudLifecycle

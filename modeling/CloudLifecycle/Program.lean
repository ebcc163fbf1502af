/-!
# Programs that ask their surroundings

A `Program Q A α` computes a value of type `α` and may ask questions `q : Q` on its way, each of
which is answered by a value of type `A q`.  A program is finite: whatever the answers, it comes
to an end after finitely many questions.  There are three views of one:

* `Runs p events a`: the program asks the questions of `events`, in this order and given these
  answers, and ends with `a`;
* `Surroundings.run`: the result in surroundings that have a state and answer the questions;
* `Program.refine`: the program with each question answered by another program.
-/

set_option autoImplicit false

namespace CloudLifecycle

/-- A finite computation that asks questions. -/
inductive Program (Q : Type) (A : Q → Type) (α : Type) where
  | done (value : α)
  | ask (question : Q) (next : A question → Program Q A α)

namespace Program

variable {Q : Type} {A : Q → Type} {α β γ : Type}

/-- Goes on with another program after the result is there. -/
protected def bind (p : Program Q A α) (f : α → Program Q A β) : Program Q A β :=
  match p with
  | .done value => f value
  | .ask question next => .ask question fun answer => (next answer).bind f

instance : Monad (Program Q A) where
  pure := .done
  bind := Program.bind

/-- Asks one question and gives its answer. -/
def request (question : Q) : Program Q A (A question) := .ask question .done

@[simp] theorem bind_done (value : α) (f : α → Program Q A β) :
    (Program.done value : Program Q A α).bind f = f value := rfl

@[simp] theorem bind_ask (question : Q) (next : A question → Program Q A α)
    (f : α → Program Q A β) :
    (Program.ask question next).bind f = .ask question fun answer => (next answer).bind f := rfl

@[simp] theorem bind_pure (p : Program Q A α) : p.bind .done = p := by
  induction p with
  | done value => rfl
  | ask question next ih => simp [ih]

theorem bind_assoc (p : Program Q A α) (f : α → Program Q A β) (g : β → Program Q A γ) :
    (p.bind f).bind g = p.bind fun a => (f a).bind g := by
  induction p with
  | done value => rfl
  | ask question next ih => simp [ih]

/-- A question with its answer. -/
structure Event (Q : Type) (A : Q → Type) where
  question : Q
  answer : A question

/-- The program asks the questions of the events and, given their answers, ends with the value. -/
inductive Runs : Program Q A α → List (Event Q A) → α → Prop where
  | done (value : α) : Runs (.done value) [] value
  | ask {question : Q} {next : A question → Program Q A α} (answer : A question)
      {events : List (Event Q A)} {value : α} (rest : Runs (next answer) events value) :
      Runs (.ask question next) (⟨question, answer⟩ :: events) value

/-- A run of two programs after one another is a run of the first and then one of the second. -/
theorem runs_bind_iff {p : Program Q A α} {f : α → Program Q A β} {events : List (Event Q A)}
    {b : β} :
    Runs (p.bind f) events b ↔
      ∃ before after a, events = before ++ after ∧ Runs p before a ∧ Runs (f a) after b := by
  constructor
  · intro h
    induction p generalizing events with
    | done value => exact ⟨[], events, value, rfl, .done value, h⟩
    | ask question next ih =>
      cases h with
      | ask answer rest =>
        obtain ⟨before, after, a, rfl, hp, hf⟩ := ih answer rest
        exact ⟨⟨question, answer⟩ :: before, after, a, rfl, .ask answer hp, hf⟩
  · rintro ⟨before, after, a, rfl, hp, hf⟩
    induction hp with
    | done value => exact hf
    | ask answer _ ih => exact .ask answer (ih hf)

/-- Answers each question by a program that asks others. -/
def refine {Q' : Type} {A' : Q' → Type} (handle : (question : Q) → Program Q' A' (A question)) :
    Program Q A α → Program Q' A' α
  | .done value => .done value
  | .ask question next => (handle question).bind fun answer => (next answer).refine handle

/-- The result where every question has an answer that does not change. -/
def evaluate (answer : (question : Q) → A question) : Program Q A α → α
  | .done value => value
  | .ask question next => (next (answer question)).evaluate answer

end Program

/-- Surroundings with a state.  They may leave a question without an answer, which ends the run. -/
structure Surroundings (Q : Type) (A : Q → Type) (σ : Type) where
  answer : (question : Q) → σ → Option (A question) × σ

namespace Surroundings

variable {Q : Type} {A : Q → Type} {σ α : Type}

/-- The result of a program, if it comes to one, and the state that it leaves. -/
def run (s : Surroundings Q A σ) : Program Q A α → σ → Option α × σ
  | .done value, state => (some value, state)
  | .ask question next, state =>
    match s.answer question state with
    | (some answer, state) => run s (next answer) state
    | (none, state) => (none, state)

/-- The questions of a run that were answered, with their answers. -/
def events (s : Surroundings Q A σ) : Program Q A α → σ → List (Program.Event Q A)
  | .done _, _ => []
  | .ask question next, state =>
    match s.answer question state with
    | (some answer, state) => ⟨question, answer⟩ :: events s (next answer) state
    | (none, _) => []

/-- What surroundings do with a program is one of its runs. -/
theorem runs_events (s : Surroundings Q A σ) (p : Program Q A α) (state : σ) (a : α)
    (h : (s.run p state).1 = some a) : p.Runs (s.events p state) a := by
  induction p generalizing state with
  | done value =>
    obtain rfl : value = a := by simpa [run] using h
    exact .done value
  | ask question next ih =>
    unfold run at h
    unfold events
    split at h
    · rename_i answer state' _
      exact .ask answer (ih answer state' h)
    · simp at h

end Surroundings

end CloudLifecycle

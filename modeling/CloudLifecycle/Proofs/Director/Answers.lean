import CloudLifecycle.CommandLine.Run
import CloudLifecycle.Proofs.Director.Arguments
import CloudLifecycle.Proofs.Runs.Refined
import CloudLifecycle.Proofs.Store.Stage

/-!
# Answers to requests

The manager reads a request before it asks for anything.  Arguments beyond the parameters of a
method that are `null` change nothing, a request with a faulty argument is refused at once, and only
a method that is not listed is not implemented (`Manager.answer_checked`).  The program answers the
same for a method that is not listed, and does not look for a configuration then.
-/

set_option autoImplicit false

namespace CloudLifecycle

open Program

variable {request : Request} {method : Method}

/-- A method is listed exactly if its name is known. -/
theorem Method.ofName?_eq_none_iff {name : String} :
    ofName? name = none ↔ name ∉ all.map Method.name := by
  rw [← isSome_ofName?_iff, Bool.not_eq_true, Option.isSome_eq_false_iff, Option.isNone_iff_eq_none]

/-- An answer fails for its method exactly if the method is not listed: else what goes wrong is an
error of the lifecycle. -/
theorem runs_notImplemented_iff {Q : Type} {A : Q → Type} {p : Program Q A Outcome}
    (known : ∀ {method}, Method.ofName? request.method = some method →
      ∀ {events failure}, Runs p events (.error failure) → ∃ cause, failure = .lifecycle cause)
    (unknown : Method.ofName? request.method = none →
      p = pure (.error (.notImplemented request.method))) :
    (∃ events name, Runs p events (.error (.notImplemented name))) ↔
      request.method ∉ Method.all.map Method.name := by
  rw [← Method.ofName?_eq_none_iff]
  constructor
  · rintro ⟨events, name, ran⟩
    by_contra listed
    obtain ⟨method, listed⟩ := Option.ne_none_iff_exists'.1 listed
    obtain ⟨cause, impossible⟩ := known listed ran
    cases impossible
  · intro missing
    rw [unknown missing]
    exact ⟨[], _, .done _⟩

namespace Manager

variable {m : Manager}

theorem answer_padded (m : Manager) (request : Request) (count : Nat) :
    m.answer (request.padded count) = m.answer request := by
  unfold answer
  rw [Command.ofRequest_padded]

theorem answer_of_unknown (m : Manager) (unknown : Method.ofName? request.method = none) :
    m.answer request = pure (.error (.notImplemented request.method)) := by
  unfold answer
  rw [Command.ofRequest_of_unknown unknown]

theorem answer_of_error {failure : Failure} (m : Manager)
    (refused : Command.ofRequest request = .error failure) :
    m.answer request = pure (.error failure) := by
  unfold answer
  rw [refused]

/-- What goes wrong with a method that is known is an error of the lifecycle. -/
theorem cause_of_runs_answer (known : Method.ofName? request.method = some method)
    {events : Trace} {failure : Failure} (ran : Runs (m.answer request) events (.error failure)) :
    ∃ cause, failure = .lifecycle cause := by
  unfold answer at ran
  cases read : Command.ofRequest request with
  | error refused =>
    rw [read] at ran
    obtain ⟨-, same⟩ := runs_done_iff.1 ran
    obtain rfl := Except.error.inj same
    exact Command.cause_of_ofRequest known read
  | ok command =>
    rw [read] at ran
    obtain ⟨_, _, outcome, -, -, rest⟩ := runs_bind_iff.1 ran
    obtain ⟨-, same⟩ := runs_done_iff.1 rest
    cases outcome with
    | ok a => cases same
    | error cause => exact ⟨cause, Except.error.inj same⟩

end Manager

namespace Run

theorem answer_of_unknown (explicit : Option String)
    (unknown : Method.ofName? request.method = none) :
    answer explicit request = pure (.error (.notImplemented request.method)) := by
  unfold answer
  rw [unknown]
  rfl

/-- What goes wrong with a method that is known is an error of the lifecycle, or of the
configuration in the form of one. -/
theorem cause_of_runs_answer {explicit : Option String}
    (known : Method.ofName? request.method = some method)
    {events : List (Event RunAction RunAction.Answer)} {failure : Failure}
    (ran : Runs (answer explicit request) events (.error failure)) :
    ∃ cause, failure = .lifecycle cause := by
  unfold answer at ran
  rw [known] at ran
  obtain ⟨_, _, loaded, -, -, rest⟩ := runs_bind_iff.1 ran
  cases loaded with
  | error e =>
    obtain ⟨-, same⟩ := runs_done_iff.1 rest
    exact ⟨_, Except.error.inj same⟩
  | ok config =>
    simp only [answerIn] at rest
    cases connected : config.connection with
    | error e =>
      rw [connected] at rest
      obtain ⟨-, same⟩ := runs_done_iff.1 rest
      exact ⟨_, Except.error.inj same⟩
    | ok connection =>
      rw [connected] at rest
      obtain ⟨online, ranOnline⟩ := exists_runs_of_refine rest
      obtain ⟨trace, ranTask⟩ := exists_runs_of_refine ranOnline
      exact Manager.cause_of_runs_answer known ranTask

end Run

namespace Manager

/-- **A request is checked before anything is done.**  More arguments that are `null` do not change
what is asked for and answered.  A faulty argument is answered with the complaint about it, and
nothing is asked for; without one the request is carried out as a command.  It is the methods that
are not listed that are not implemented, for the manager and for the program, and for these nothing
is asked for either. -/
theorem answer_checked (m : Manager) (explicit : Option String) (request : Request) :
    (∀ count, m.answer (request.padded count) = m.answer request) ∧
      (∀ method, Method.ofName? request.method = some method →
        (request.Faulty method → ∃ p ∈ method.parameters, ∃ fault,
          p.fault? (request.positional.value p.position) = some fault ∧
            m.answer request = pure (.error (.lifecycle
              (.invalidArgument ("argument `" ++ p.name ++ fault))))) ∧
          (¬request.Faulty method → ∃ command, m.answer request =
            return (← (m.perform command).run).mapError .lifecycle)) ∧
      ((∃ events name, Runs (m.answer request) events (.error (.notImplemented name))) ↔
        request.method ∉ Method.all.map Method.name) ∧
      ((∃ events name, Runs (Run.answer explicit request) events (.error (.notImplemented name))) ↔
        request.method ∉ Method.all.map Method.name) ∧
      (request.method ∉ Method.all.map Method.name →
        m.answer request = pure (.error (.notImplemented request.method)) ∧
          Run.answer explicit request = pure (.error (.notImplemented request.method))) := by
  refine ⟨m.answer_padded request, fun method known => ⟨fun faulty => ?_, fun faultless => ?_⟩,
    runs_notImplemented_iff cause_of_runs_answer m.answer_of_unknown,
    runs_notImplemented_iff Run.cause_of_runs_answer (Run.answer_of_unknown explicit),
    fun unlisted => ?_⟩
  · obtain ⟨p, hp, fault, fails, refused⟩ := Command.ofRequest_of_faulty known faulty
    exact ⟨p, hp, fault, fails, m.answer_of_error refused⟩
  · obtain ⟨command, read⟩ := Command.ofRequest_of_faultless known faultless
    refine ⟨command, ?_⟩
    unfold answer
    rw [read]
  · have unknown := Method.ofName?_eq_none_iff.2 unlisted
    exact ⟨m.answer_of_unknown unknown, Run.answer_of_unknown explicit unknown⟩

/-- A VM without an id is not deleted. -/
theorem answer_checked_deleteVm :
    ∃ p ∈ Method.parameters .deleteVm, ∃ fault,
      p.fault? (.text "") = some fault ∧ small.answer ⟨"delete_vm", [.text ""], .null⟩ =
        pure (.error (.lifecycle (.invalidArgument ("argument `" ++ p.name ++ fault)))) := by
  obtain ⟨_, checked, _⟩ := small.answer_checked none ⟨"delete_vm", [.text ""], .null⟩
  obtain ⟨refused, _⟩ := checked .deleteVm (by decide)
  obtain ⟨p, hp, fault, fails, answered⟩ := refused
    ⟨.resource 0 "vm_id", List.mem_cons_self, "' must not be empty", rfl, by
      rintro (same | ⟨same, _⟩) <;> cases same⟩
  obtain rfl := List.mem_singleton.1 hp
  exact ⟨_, hp, fault, fails, answered⟩

/-- The metadata of a VM without an id is set, and a disk is made near to such a VM. -/
theorem answer_unchecked :
    (∃ p ∈ Method.parameters .setVmMetadata, p.position = 0 ∧
      p.fault? (.text "") = some "' must not be empty" ∧
        small.answer ⟨"set_vm_metadata", [.text ""], .null⟩ = pure (.ok .null)) ∧
      ∃ p ∈ Method.parameters .createDisk, p.position = 2 ∧
        p.fault? (.text "") = some "' must not be empty" ∧
          small.answer ⟨"create_disk", [.whole 10240, .object [], .text ""], .null⟩ =
            return (← (small.perform (.createDisk 10240)).run).mapError .lifecycle :=
  ⟨⟨_, List.mem_cons_self, rfl, rfl, rfl⟩,
    ⟨_, List.mem_cons_of_mem _ List.mem_cons_self, rfl, rfl, rfl⟩⟩

end Manager

end CloudLifecycle

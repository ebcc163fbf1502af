import CloudLifecycle.CommandLine.Run
import CloudLifecycle.Rehearsal.Exchange
import CloudLifecycle.Rehearsal.FileTree

/-!
# Playing a run of the program

A `Session` is surroundings for a run of the program: files in memory, a given input, and the other
side of the web.
-/

set_option autoImplicit false

namespace CloudLifecycle

/-- Everything around a run of the program. -/
structure Session where
  tree : FileTree
  input : String
  exchange : Exchange
deriving DecidableEq

namespace Session

/-- Answers an action. -/
def answer : (action : RunAction) → Session → Option action.Answer × Session
  | .input, session => (some (.ok session.input), session)
  | .file action, session => (some (session.tree.answer action), session)
  | .outside action, session =>
    let (answer, exchange) := Exchange.answer action session.exchange
    (answer, { session with exchange })

/-- The session as surroundings. -/
def surroundings : Surroundings RunAction RunAction.Answer Session := ⟨answer⟩

/-- Plays a run. -/
def play {α : Type} (session : Session) (run : Run α) : Option α × Session :=
  surroundings.run run session

end Session

end CloudLifecycle

import CloudLifecycle.CommandLine.Arguments
import CloudLifecycle.Config.Search
import CloudLifecycle.Director.Response

/-!
# Running the program

Without a subcommand the program answers one request, which it reads as JSON, and always with a
response: a request that cannot be read, an unknown method and a faulty configuration are answered
too, in this order.  The subcommands write text, and what goes wrong with them goes to the error
output.
-/

set_option autoImplicit false

namespace CloudLifecycle

/-- What a run of the program asks of its surroundings. -/
inductive RunAction where
  /-- The whole input. -/
  | input
  | file (action : FileAction)
  | outside (action : Outside)
deriving DecidableEq

/-- The answer to it. -/
abbrev RunAction.Answer : RunAction → Type
  | .input => Except FileError String
  | .file action => action.Answer
  | .outside action => action.Answer

/-- A run of the program. -/
abbrev Run : Type → Type := Program RunAction RunAction.Answer

/-- What a run leaves behind. -/
structure RunResult where
  code : Nat
  output : String
  errorOutput : String
deriving DecidableEq, Repr

namespace Run

/-- The version of the program. -/
def version : String := "0.3.0"

def files {α : Type} (p : FileProgram α) : Run α :=
  p.refine fun action => Program.request (RunAction.file action)

def online {α : Type} (p : Online α) : Run α :=
  p.refine fun action => Program.request (RunAction.outside action)

/-! ### Errors -/

/-- Indents all lines but the first. -/
def indentedLines (indent : String) (text : String) : String :=
  String.ofList (text.toList.flatMap fun c => if c = '\n' then c :: indent.toList else [c])

/-- A cause in a list of several ones. -/
def numberedCause (number : Nat) (text : String) : String :=
  "\n    " ++ number.repr ++ ": " ++ indentedLines "       " text

/-- The causes of an error. -/
def causesText : List String → String
  | [] => ""
  | [cause] => "\n\nCaused by:\n    " ++ indentedLines "    " cause
  | causes => "\n\nCaused by:" ++ String.join (causes.mapIdx numberedCause)

/-- The run fails with an error and its causes. -/
def failed (text : String) (causes : List String) : RunResult :=
  ⟨1, "", "Error: " ++ text ++ causesText causes ++ "\n"⟩

/-! ### Subcommands -/

/-- The methods that are answered, one in a line. -/
def methodLines : String := String.join (Method.all.map fun method => method.name ++ "\n")

/-- What is told about an options file that could be read. -/
def configText (path : String) (config : Config) : String :=
  let common := config.cloud.common
  "✓ " ++ path ++ "\n  plugin: " ++ config.cloud.plugin
    ++ "\n  registry: " ++ config.registry.endpoint
    ++ "\n  polling: every " ++ common.pollSeconds.repr
    ++ "s, timeout " ++ common.timeoutSeconds.repr ++ "s\n"

/-- Finds the options file and reads it. -/
def validate (explicit : Option String) : Run RunResult := do
  match ← files (Config.locate explicit) with
  | .error e => return failed e.message e.cause?.toList
  | .ok path =>
    match ← files (Config.read path) with
    | .error e => return failed ("invalid options file " ++ path) (e.message :: e.cause?.toList)
    | .ok config => return ⟨0, configText path config, ""⟩

/-! ### Requests -/

/-- A cause of the lifecycle as the outcome of a request. -/
def refused (cause : CpiError) : Outcome := .error (.lifecycle cause)

/-- Answers a request in a configuration. -/
def answerIn (config : Config) (request : Request) : Run Outcome :=
  match config.connection with
  | .error e => return refused e
  | .ok connection => online (connection.online ((config.manager connection).answer request))

/-- Answers a request; the options file is read only if the method is known. -/
def answer (explicit : Option String) (request : Request) : Run Outcome := do
  if (Method.ofName? request.method).isNone then return .error (.notImplemented request.method)
  match ← files (Config.load explicit) with
  | .error e => return refused (.invalidArgument e.message)
  | .ok config => answerIn config request

/-- Answers the request of the input. -/
def serve (explicit : Option String) : Run RunResult := do
  match ← Program.request RunAction.input with
  | .error e => return failed "failed to read request" [e.message]
  | .ok text =>
    let outcome ← match Request.ofText text with
      | .error failure => pure (.error failure)
      | .ok request => answer explicit request
    return ⟨0, (Outcome.response outcome).render ++ "\n", ""⟩

/-! ### The program -/

/-- How the program is called. -/
def usage : String := "Usage: cpi [-c <file>] [info | validate | version]\n"

/-- Does what the arguments say. -/
def invoke (invocation : Invocation) : Run RunResult :=
  match invocation.subcommand with
  | some .version => return ⟨0, "bosh-cpi " ++ version ++ "\n", ""⟩
  | some .info => return ⟨0, methodLines, ""⟩
  | some .validate => validate invocation.config
  | none => serve invocation.config

/-- A run of the program with some arguments. -/
def ofArguments (args : List String) : Run RunResult := do
  match Invocation.ofArguments args (← files (Config.ask (.variable Config.pathVariable))) with
  | .error .badUsage => return ⟨2, "", usage⟩
  | .error .helpWanted => return ⟨0, usage, ""⟩
  | .ok invocation => invoke invocation

end Run

end CloudLifecycle

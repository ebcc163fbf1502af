/-!
# Arguments of the command line

The options file may be named before and after the subcommand, once in each place, or by an
environment variable.  The name that stands last on the command line counts, and the variable only
if there is none.  A name must not be empty, wherever it comes from; and one that stands alone must
not look like an option.
-/

set_option autoImplicit false

namespace CloudLifecycle

/-- What the program can do besides answering a request. -/
inductive Subcommand where
  /-- Lists the methods that are answered. -/
  | info
  /-- Reads the options file. -/
  | validate
  | version
deriving DecidableEq, Repr

/-- What the program is to do. -/
structure Invocation where
  /-- The options file that was named. -/
  config : Option String
  subcommand : Option Subcommand
deriving DecidableEq, Repr

/-- Why the arguments do not say what to do. -/
inductive Refusal where
  | badUsage
  | helpWanted
deriving DecidableEq, Repr

namespace Subcommand

def name : Subcommand → String
  | .info => "info"
  | .validate => "validate"
  | .version => "version"

/-- The subcommand of a name. -/
def ofName? (text : String) : Option Subcommand :=
  [info, validate, version].find? fun command => command.name = text

end Subcommand

namespace Invocation

/-- What a single argument is. -/
inductive Argument where
  /-- Nothing but a plain argument may follow, and none is known. -/
  | terminator
  /-- The options file, named in the same argument. -/
  | config (path : String)
  /-- The options file, to be named in the next argument. -/
  | configNext
  | help
  | unknownOption
  | word (text : String)
deriving DecidableEq, Repr

namespace Argument

/-- Reads an option of one letter; its value may follow a sign. -/
def ofShort : List Char → Argument
  | ['c'] => .configNext
  | 'c' :: '=' :: value => .config (String.ofList value)
  | 'c' :: value => .config (String.ofList value)
  | 'h' :: _ => .help
  | _ => .unknownOption

/-- Reads an option with a name. -/
def ofLong (cs : List Char) : Argument :=
  match cs.takeWhile (· ≠ '='), cs.dropWhile (· ≠ '=') with
  | name, _ :: value =>
    if name = "config".toList then .config (String.ofList value) else .unknownOption
  | name, [] =>
    if name = "config".toList then .configNext
    else if name = "help".toList then .help
    else .unknownOption

def ofText (text : String) : Argument :=
  match text.toList with
  | ['-', '-'] => .terminator
  | '-' :: '-' :: rest => ofLong rest
  | '-' :: c :: rest => ofShort (c :: rest)
  | _ => .word text

end Argument

/-- The arguments of the program or of a subcommand. -/
structure Level where
  config : Option String
  subcommand : Option (Subcommand × List String)
deriving DecidableEq, Repr

/-- Takes in the name of the options file. -/
def name (config : Option String) (path : String) : Except Refusal (Option String) :=
  if config.isSome || path.isEmpty then .error .badUsage else .ok (some path)

/-- What can be explained: the program, a subcommand or the explanation itself. -/
def canExplain : List String → Bool
  | [] => true
  | [name] => name = "help" || (Subcommand.ofName? name).isSome
  | _ => false

/-- The word that begins a subcommand, where there can be one, and what follows it. -/
def subcommandOf (isOuter : Bool) (text : String) (rest : List String) :
    Except Refusal Subcommand :=
  match if isOuter then Subcommand.ofName? text else none with
  | some command => .ok command
  | none =>
    .error (if isOuter && text = "help" && canExplain rest then .helpWanted else .badUsage)

/-- Reads arguments up to a subcommand. -/
def readLevel (isOuter : Bool) (config : Option String) (args : List String) :
    Except Refusal Level :=
  match args with
  | [] => .ok ⟨config, none⟩
  | arg :: rest =>
    match Argument.ofText arg with
    | .terminator => if rest.isEmpty then .ok ⟨config, none⟩ else .error .badUsage
    | .config path => do readLevel isOuter (← name config path) rest
    | .configNext =>
      match rest with
      | [] => .error .badUsage
      | next :: rest =>
        match Argument.ofText next with
        | .word path => do readLevel isOuter (← name config path) rest
        | _ => .error .badUsage
    | .help => .error .helpWanted
    | .unknownOption => .error .badUsage
    | .word text => do return ⟨config, some (← subcommandOf isOuter text rest, rest)⟩
termination_by args.length

/-- The options file of a variable, if one is needed at all. -/
def fallback (environment : Option String) (isNeeded : Bool) : Except Refusal (Option String) :=
  if isNeeded && environment = some "" then .error .badUsage else .ok environment

/-- What the arguments say, and the environment variable that names the options file. -/
def ofArguments (args : List String) (environment : Option String) :
    Except Refusal Invocation := do
  let outer ← readLevel true none args
  match outer.subcommand with
  | none => return ⟨outer.config.or (← fallback environment outer.config.isNone), none⟩
  | some (command, args) =>
    let inner ← readLevel false none args
    let environment ← fallback environment (outer.config.isNone || inner.config.isNone)
    return ⟨(inner.config.or outer.config).or environment, some command⟩

end Invocation

end CloudLifecycle

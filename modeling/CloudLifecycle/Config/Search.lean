import CloudLifecycle.Config.Document
import CloudLifecycle.Program
import CloudLifecycle.Yaml.Document

/-!
# Finding the options file

An options file is named explicitly, or by an environment variable, or it has one of a few names
in the working directory or in the user's directory for configurations.  A file whose extension
says so is read as JSON, every other one as YAML.
-/

set_option autoImplicit false

namespace CloudLifecycle

/-- What the search for a file asks of its surroundings. -/
inductive FileAction where
  /-- The value of an environment variable. -/
  | variable (name : String)
  | workingDirectory
  /-- Whether there is a file or a directory of some path. -/
  | isThere (path : String)
  /-- The text of a file. -/
  | read (path : String)
deriving DecidableEq, Repr

/-- The answer to it. -/
abbrev FileAction.Answer : FileAction → Type
  | .variable _ => Option String
  | .workingDirectory => String
  | .isThere _ => Bool
  | .read _ => Except FileError String

/-- A program that looks at files. -/
abbrev FileProgram : Type → Type := Program FileAction FileAction.Answer

namespace FilePath

/-- A path below another one. -/
def join (path name : String) : String :=
  if path.isEmpty || Text.endsWith path "/" then path ++ name else path ++ "/" ++ name

/-- The path does not depend on the working directory. -/
def isAbsolute (path : String) : Bool := path.startsWith "/"

/-- The steps of a path; empty ones and those to the same directory do not count. -/
def steps (path : String) : List (List Char) :=
  (Text.splitOn '/' path.toList).filter fun piece => piece ≠ [] && piece ≠ ['.']

/-- What follows the last dot of a file name that has something before it. -/
def extensionOf (name : List Char) : Option (List Char) :=
  match name.reverse.dropWhile (· ≠ '.') with
  | _ :: _ :: _ => some (name.reverse.takeWhile (· ≠ '.')).reverse
  | _ => none

/-- The extension of the file of a path. -/
def extension? (path : String) : Option String :=
  match (steps path).getLast? with
  | none => none
  | some ['.', '.'] => none
  | some name => (extensionOf name).map String.ofList

/-- The file of a path is written in JSON. -/
def isJson (path : String) : Bool := (extension? path).any fun e => e.toLower = "json"

end FilePath

namespace Config

/-- The environment variable that names the options file. -/
def pathVariable : String := "BOSH_CPI_CONFIG"

/-- Names of options files in the working directory. -/
def localNames : List String := ["cpi.yml", "cpi.json"]

/-- The options file in the user's directory for configurations. -/
def sharedName : String := "bosh-cpi"

def ask (action : FileAction) : FileProgram action.Answer := Program.request action

/-- The user's directory for configurations; a path that depends on the working directory does not
count. -/
def userDirectory : FileProgram (Option String) := do
  match ← ask (.variable "XDG_CONFIG_HOME") with
  | some path => if FilePath.isAbsolute path then return some path else ofHome
  | none => ofHome
where
  /-- The directory below the home of the user. -/
  ofHome : FileProgram (Option String) := do
    return ((← ask (.variable "HOME")).filter (!·.isEmpty)).map (FilePath.join · ".config")

/-- The first path that there is something at. -/
def firstThere : List String → FileProgram (Option String)
  | [] => return none
  | path :: rest => do
    if ← ask (.isThere path) then return some path
    firstThere rest

/-- Where an options file may be that is not named explicitly, in the order of the search. -/
def candidates : FileProgram (List String) := do
  let named ← ask (.variable pathVariable)
  let directory ← ask .workingDirectory
  let shared := (← userDirectory).map fun d => FilePath.join (FilePath.join d sharedName) "cpi.yml"
  return named.toList ++ localNames.map (FilePath.join directory) ++ shared.toList

/-- Finds the options file. -/
def locate (explicit : Option String) : FileProgram (Except ConfigError String) := do
  match explicit with
  | some path => return if ← ask (.isThere path) then .ok path else .error (.missingFile path)
  | none =>
    match ← firstThere (← candidates) with
    | some path => return .ok path
    | none => return .error .noFile

/-- Reads an options document in one of two notations. -/
def ofText (isJson : Bool) (text : String) : Except ConfigError Config := do
  let value ← if isJson then (Json.parse text).mapError ConfigError.json
    else (Yaml.parse text).mapError ConfigError.yaml
  ofJson value

/-- Reads an options file. -/
def read (path : String) : FileProgram (Except ConfigError Config) := do
  match ← ask (.read path) with
  | .error e => return .error (.file e)
  | .ok text => return ofText (FilePath.isJson path) text

/-- Finds the options file and reads it. -/
def load (explicit : Option String) : FileProgram (Except ConfigError Config) := do
  match ← locate explicit with
  | .error e => return .error e
  | .ok path => read path

end Config

end CloudLifecycle

import CloudLifecycle.Config.Search

/-!
# Files in memory

A `FileTree` is surroundings for a program that looks at files: some files, the directories that
they are in, a working directory and environment variables.  A path is followed step by step, and
every step but the last has to lead to a directory; a slash at the end asks for a directory.  A path
that is too long leads nowhere.
-/

set_option autoImplicit false

namespace CloudLifecycle

/-- Files with their places. -/
structure FileTree where
  /-- The text of every file, by its steps from the root. -/
  files : List (List (List Char) × String)
  /-- The steps from the root to the working directory. -/
  directory : List (List Char)
  environment : Dict String
deriving DecidableEq

namespace FileTree

/-- Files below the working directory. -/
def ofFiles (directory : String) (files : List (String × String)) (environment : Dict String) :
    FileTree :=
  let home := FilePath.steps directory
  ⟨files.map fun (path, text) => (home ++ FilePath.steps path, text), home, environment⟩

variable (tree : FileTree)

/-- There is a directory at a place. -/
def hasDirectory (place : List (List Char)) : Bool :=
  place.isPrefixOf tree.directory
    || tree.files.any fun (file, _) => place.isPrefixOf file && place.length < file.length

/-- The text of the file at a place. -/
def fileAt? (place : List (List Char)) : Option String := tree.files.lookup place

/-- Follows steps from a place. -/
def follow : List (List Char) → List (List Char) → Option (List (List Char))
  | place, [] => some place
  | place, step :: rest =>
    if tree.hasDirectory place then
      if step = ['.', '.'] then follow place.dropLast rest else follow (place ++ [step]) rest
    else none

/-- The path can only be that of a directory. -/
def asksDirectory (path : String) : Bool :=
  match (Text.splitOn '/' path.toList).getLast? with
  | some [] => true
  | some ['.'] => true
  | some ['.', '.'] => true
  | _ => false

/-- A path leads somewhere only if it has fewer bytes. -/
def pathLimit : Nat := 4096

/-- What there is at a path: the text of a file, or no text for a directory. -/
def find? (path : String) : Option (Option String) :=
  if path.isEmpty || pathLimit ≤ path.utf8ByteSize then none
  else
    let start := if FilePath.isAbsolute path then [] else tree.directory
    match tree.follow start (FilePath.steps path) with
    | none => none
    | some place =>
      if tree.hasDirectory place then some none
      else if asksDirectory path then none
      else (tree.fileAt? place).map some

/-- Answers an action. -/
def answer : (action : FileAction) → action.Answer
  | .variable name => tree.environment.find? name
  | .workingDirectory => String.ofList (tree.directory.flatMap ('/' :: ·))
  | .isThere path => (tree.find? path).isSome
  | .read path =>
    match tree.find? path with
    | some (some text) => .ok text
    | some none => .error .isDirectory
    | none => .error .notThere

/-- The result of a program that looks at files. -/
def result {α : Type} (p : FileProgram α) : α := p.evaluate tree.answer

end FileTree

end CloudLifecycle

import CloudLifecycle.Url.Basic

/-!
# Reading URLs

`Url.parse` reads an absolute URL.  Blanks and control characters around it are dropped, tabs and
line breaks in it too; a backslash counts as a slash in a URL with a special scheme.  Each part
keeps the characters that are allowed in it and escapes the others; escapes that are there already
stay.
-/

set_option autoImplicit false

namespace CloudLifecycle.Url

/-- The characters of ASCII that stay in a part, given those that are escaped. -/
def keeping (escaped : String) (c : Char) : Bool :=
  0x20 ≤ c.toNat && c.toNat ≠ 0x7F && !escaped.toList.contains c

/-- Escapes characters of a part. -/
def escape (escaped : String) (cs : List Char) : String :=
  String.ofList (Text.percentEncodeBytes (keeping escaped) (Text.utf8 (String.ofList cs)))

def fragmentEscapes : String := " \"<>`"

def queryEscapes : String := " \"#<>"

def specialQueryEscapes : String := " \"#<>'"

def pathEscapes : String := " \"<>`#?\x7b\x7d"

def userinfoEscapes : String := " \"<>`#?\x7b\x7d/:;=@[\\]^|"

/-- The text without what surrounds a URL and without tabs and line breaks. -/
def cleaned (s : String) : List Char :=
  let start := s.toList.dropWhile (·.toNat ≤ 0x20)
  let inner := (start.reverse.dropWhile (·.toNat ≤ 0x20)).reverse
  inner.filter fun c => c ≠ '\t' && c ≠ '\n' && c ≠ '\r'

/-- A character of a scheme after its first letter. -/
def isSchemeChar (c : Char) : Bool := c.isAlphanum || c = '+' || c = '-' || c = '.'

/-- The scheme in lower case and what follows its colon. -/
def splitScheme (cs : List Char) : Option (String × List Char) :=
  match cs with
  | [] => none
  | first :: _ =>
    if first.isAlpha then
      match cs.dropWhile isSchemeChar with
      | ':' :: rest => some (String.ofList ((cs.takeWhile isSchemeChar).map Char.toLower), rest)
      | _ => none
    else none

/-- A slash of a URL whose scheme is special or not. -/
def isSlash (special : Bool) (c : Char) : Bool := c = '/' || (special && c = '\\')

/-- The end of the part before the path. -/
def endsAuthority (special : Bool) (c : Char) : Bool := isSlash special c || c = '?' || c = '#'

/-- Splits at the last occurrence of a character. -/
def splitAtLast (mark : Char) (cs : List Char) : Option (List Char × List Char) :=
  let tail := (cs.reverse.takeWhile (· ≠ mark)).reverse
  if tail.length = cs.length then none
  else some (cs.take (cs.length - tail.length - 1), tail)

/-- The user and the password in a text before the host. -/
def readUserinfo (cs : List Char) : String × Option String :=
  let user := escape userinfoEscapes (cs.takeWhile (· ≠ ':'))
  match cs.dropWhile (· ≠ ':') with
  | _ :: c :: rest => (user, some (escape userinfoEscapes (c :: rest)))
  | _ => (user, none)

/-- Splits the host, which may have brackets with colons in them, from what follows. -/
def splitHost (bracketed : Bool) : List Char → List Char × List Char
  | [] => ([], [])
  | c :: rest =>
    if c = ':' && !bracketed then ([], c :: rest)
    else
      let inside := if c = '[' then true else if c = ']' then false else bracketed
      let (host, after) := splitHost inside rest
      (c :: host, after)

/-- Reads the port after the host and gives what follows it. -/
def readPort (scheme : String) : List Char → Except UrlError (Option Nat × List Char)
  | ':' :: digits =>
    let rest := digits.dropWhile (· ≠ '\\')
    let digits := digits.takeWhile (· ≠ '\\')
    match Text.digitsValue? 10 digits with
    | none => .error .invalidPort
    | some port =>
      if 65535 < port then .error .invalidPort
      else if digits.isEmpty || defaultPort scheme = some port then .ok (none, rest)
      else .ok (some port, rest)
  | rest => .ok (none, rest)

/-- The parts of a URL before the path. -/
structure Authority where
  username : String
  password : Option String
  host : Option Host
  port : Option Nat

/-- Reads user, password, host and port, which may be the end of the URL, and gives what of the
path comes with them: a backslash ends the port in every URL. -/
def readAuthority (scheme : String) (atEnd : Bool) (cs : List Char) :
    Except UrlError (Authority × List Char) := do
  let (hasUser, username, password, rest) ← match splitAtLast '@' cs with
    | none => pure (false, "", none, cs)
    | some ([], rest) =>
      if rest.isEmpty && !atEnd then throw .emptyHost else pure (false, "", none, rest)
    | some (info, rest) =>
      let (username, password) := readUserinfo info
      pure (!username.isEmpty || password.isSome, username, password, rest)
  let (hostText, after) := splitHost false rest
  if isSpecial scheme && hostText.isEmpty then throw .emptyHost
  let host ← if isSpecial scheme then Host.parse hostText else Host.parseOpaque hostText
  if hostText.isEmpty then
    if hasUser || !after.isEmpty then throw .emptyHost
    pure (⟨username, password, some (.domain ""), none⟩, [])
  else
    let (port, rest) ← readPort scheme after
    pure (⟨username, password, some host, port⟩, rest)

/-- What a path segment does. -/
inductive Step where
  | up
  | stay
  | down (segment : List Char)

/-- A segment with escaped points in it. -/
def plainDots : List Char → List Char
  | '%' :: '2' :: 'e' :: rest => '.' :: plainDots rest
  | '%' :: '2' :: 'E' :: rest => '.' :: plainDots rest
  | c :: rest => c :: plainDots rest
  | [] => []

/-- What a segment does: one point stays, two points go up. -/
def stepOf (segment : List Char) : Step :=
  match plainDots segment with
  | ['.'] => .stay
  | ['.', '.'] => .up
  | _ => .down segment

/-- Splits a path at its slashes. -/
def segments (special : Bool) : List Char → List (List Char)
  | [] => [[]]
  | c :: rest =>
    if isSlash special c then [] :: segments special rest
    else match segments special rest with
      | [] => [[c]]
      | segment :: more => (c :: segment) :: more

/-- A drive letter. -/
def isDriveLetter : List Char → Bool
  | [letter, mark] => letter.isAlpha && (mark = ':' || mark = '|')
  | _ => false

/-- A segment that begins with a drive letter, which two points do not leave. -/
def isDrive (segment : String) : Bool :=
  isDriveLetter (segment.toList.takeWhile (· ≠ '\\'))

/-- The segments above the last one. -/
def parent : List String → List String
  | [] => []
  | segment :: above => if isDrive segment then segment :: above else above

/-- Follows the segments; `done` holds those that stand, the last one first, and `enter` writes the
next one.  Dots at the end leave an empty segment. -/
def walk (enter : List String → List Char → String) :
    List (List Char) → List String → List String
  | [], done => done
  | [last], done => match stepOf last with
    | .up => "" :: parent done
    | .stay => "" :: done
    | .down segment => enter done segment :: done
  | segment :: rest, done => match stepOf segment with
    | .up => walk enter rest (parent done)
    | .stay => walk enter rest done
    | .down segment => walk enter rest (enter done segment :: done)

/-- A path of segments, each behind its slash. -/
def joinSegments (done : List String) : String :=
  done.foldl (fun path segment => "/" ++ segment ++ path) ""

/-- The path of a text that starts behind the first slash. -/
def pathOf (special : Bool) (cs : List Char) : String :=
  joinSegments (walk (fun _ => escape pathEscapes) (segments special cs) [])

/-- Splits off what follows a mark. -/
def splitMark (mark : Char) (cs : List Char) : List Char × Option (List Char) :=
  match cs.dropWhile (· ≠ mark) with
  | _ :: rest => (cs.takeWhile (· ≠ mark), some rest)
  | [] => (cs, none)

/-- Reads path, query and fragment; `readPath` reads the path. -/
def finish (scheme : String) (a : Authority) (readPath : List Char → String) (cs : List Char) :
    Url :=
  let (beforeFragment, fragment) := splitMark '#' cs
  let (path, query) := splitMark '?' beforeFragment
  { scheme
    username := a.username
    password := a.password
    host := a.host
    port := a.port
    path := readPath path
    query := query.map (escape (if isSpecial scheme then specialQueryEscapes else queryEscapes))
    fragment := fragment.map (escape fragmentEscapes) }

/-- The path after a host. -/
def pathAfterHost (special : Bool) : List Char → String
  | [] => if special then "/" else ""
  | c :: rest => if isSlash special c then pathOf special rest else pathOf special (c :: rest)

/-- Reads what follows the slashes before the host. -/
def afterSlashes (scheme : String) (cs : List Char) : Except UrlError Url := do
  let special := isSpecial scheme
  let rest := cs.dropWhile fun c => !endsAuthority special c
  let (a, start) ←
    readAuthority scheme rest.isEmpty (cs.takeWhile fun c => !endsAuthority special c)
  return finish scheme a (pathAfterHost special) (start ++ rest)

def noAuthority : Authority := ⟨"", none, none, none⟩

/-! ## Files -/

/-- Writes a segment of a file's path; a drive letter at its start has a colon. -/
def enterFile (done : List String) (segment : List Char) : String :=
  match segment with
  | [letter, _] =>
    if done.isEmpty && isDriveLetter segment then String.ofList [letter, ':']
    else escape pathEscapes segment
  | _ => escape pathEscapes segment

/-- The segments of a file's path, the last one first. -/
def fileSegments (cs : List Char) : List String :=
  let start := match cs with
    | [] => []
    | c :: rest => if isSlash true c then rest else c :: rest
  walk enterFile (segments true start) []

/-- The path of a file URL, which has one slash at its start. -/
def filePath (cs : List Char) : String :=
  "/" ++ String.ofList ((joinSegments (fileSegments cs)).toList.dropWhile (· = '/'))

/-- A path of a file that starts with a drive letter. -/
def startsWithDrive (cs : List Char) : Bool :=
  (fileSegments (cs.takeWhile fun c => c ≠ '?' && c ≠ '#')).getLast?.any (isDriveLetter ·.toList)

/-- Reads the host of a file URL; the local one is left out. -/
def fileHost (cs : List Char) : Except UrlError Host :=
  if cs.isEmpty then .ok (.domain "")
  else (Host.parse cs).map fun host => if host = .domain "localhost" then .domain "" else host

/-- The authority of a file on a host; a drive is always on this machine. -/
def fileAuthority (host : Host) (rest : List Char) : Authority :=
  { noAuthority with host := some (if startsWithDrive rest then .domain "" else host) }

/-- Reads a file URL. -/
def readFile (cs : List Char) : Except UrlError Url :=
  let here := fileAuthority (.domain "")
  match cs with
  | a :: b :: rest =>
    if isSlash true a && isSlash true b then
      let hostText := rest.takeWhile fun c => !endsAuthority true c
      if isDriveLetter hostText then .ok (finish "file" (here rest) filePath rest)
      else do
        let host ← fileHost hostText
        let rest := rest.dropWhile fun c => !endsAuthority true c
        return finish "file" (fileAuthority host rest) filePath rest
    else .ok (finish "file" (here cs) filePath cs)
  | _ => .ok (finish "file" (here cs) filePath cs)

/-! ## All URLs -/

/-- Reads what follows a scheme that is not special. -/
def readOther (scheme : String) (cs : List Char) : Except UrlError Url :=
  match cs with
  | '/' :: '/' :: rest => afterSlashes scheme rest
  | '/' :: rest => .ok (finish scheme noAuthority (fun path => pathOf false (path.drop 1))
      ('/' :: rest))
  | _ => .ok (finish scheme noAuthority (escape "") cs)

/-- Reads an absolute URL. -/
def parse (s : String) : Except UrlError Url :=
  match splitScheme (cleaned s) with
  | none => .error .relativeWithoutBase
  | some (scheme, rest) =>
    if scheme = "file" then readFile rest
    else if isSpecial scheme then afterSlashes scheme (rest.dropWhile (isSlash true))
    else readOther scheme rest

end CloudLifecycle.Url

import CloudLifecycle.Json.Tree
import CloudLifecycle.Number.Literal
import CloudLifecycle.Text.Percent

/-!
# Reading JSON texts

`Tree.parse` reads a text to a tree and tells whether anything but blanks follows the value.  It
never fails: where the text stops being JSON the tree is marked and reading ends.  Control
characters below U+0020 must be escaped.  A text with an escape that stands for half of a surrogate
pair, and a number that is too large, have no value, but reading goes on behind them.
-/

set_option autoImplicit false

namespace CloudLifecycle.Tree

def isBlank (c : Char) : Bool := c = ' ' || c = '\n' || c = '\t' || c = '\r'

def skipBlanks (cs : List Char) : List Char := cs.dropWhile isBlank

/-- Four hexadecimal digits. -/
def readHex : List Char → Option (Nat × List Char)
  | a :: b :: c :: d :: rest => do
    let w ← Text.hexValue? a
    let x ← Text.hexValue? b
    let y ← Text.hexValue? c
    let z ← Text.hexValue? d
    pure (((w * 16 + x) * 16 + y) * 16 + z, rest)
  | _ => none

/-- The character of a `\u` escape; two escapes make one character when they are a pair of
surrogates. -/
def readUnicode (cs : List Char) : Option (Char × List Char) := do
  let (high, rest) ← readHex cs
  if 0xDC00 ≤ high ∧ high ≤ 0xDFFF then none
  else if 0xD800 ≤ high ∧ high ≤ 0xDBFF then
    match rest with
    | '\\' :: 'u' :: rest =>
      let (low, rest) ← readHex rest
      if 0xDC00 ≤ low ∧ low ≤ 0xDFFF then
        pure (Char.ofNat (0x10000 + (high - 0xD800) * 0x400 + (low - 0xDC00)), rest)
      else none
    | _ => none
  else pure (Char.ofNat high, rest)

/-- The character of an escape, after its backslash. -/
def readEscape : List Char → Option (Char × List Char)
  | '"' :: rest => some ('"', rest)
  | '\\' :: rest => some ('\\', rest)
  | '/' :: rest => some ('/', rest)
  | 'b' :: rest => some (Char.ofNat 0x08, rest)
  | 'f' :: rest => some (Char.ofNat 0x0C, rest)
  | 'n' :: rest => some ('\n', rest)
  | 'r' :: rest => some ('\r', rest)
  | 't' :: rest => some ('\t', rest)
  | 'u' :: rest => readUnicode rest
  | _ => none

/-- The characters of a text after its opening quote, and what follows the closing one. -/
def readChars : Nat → List Char → List Char → Option (List Char × List Char)
  | 0, _, _ => none
  | _ + 1, [], _ => none
  | fuel + 1, c :: rest, acc =>
    if c = '"' then some (acc.reverse, rest)
    else if c = '\\' then
      match readEscape rest with
      | some (c, rest) => readChars fuel rest (c :: acc)
      | none => none
    else if c.toNat < 0x20 then none
    else readChars fuel rest (c :: acc)

/-- A text after its opening quote. -/
def readText (cs : List Char) : Option (String × List Char) :=
  (readChars (cs.length + 1) cs []).map fun (chars, rest) => (String.ofList chars, rest)

/-- Characters that stand behind a backslash on their own. -/
def isShortEscape (c : Char) : Bool := "\"\\/bfnrt".toList.contains c

/-- Passes over a text after its opening quote: what follows the closing one. -/
def skipText : List Char → Option (List Char)
  | [] => none
  | '"' :: rest => some rest
  | '\\' :: 'u' :: a :: b :: c :: d :: rest =>
    if [a, b, c, d].all fun digit => (Text.hexValue? digit).isSome then skipText rest else none
  | '\\' :: c :: rest => if isShortEscape c then skipText rest else none
  | c :: rest => if c = '\\' || c.toNat < 0x20 then none else skipText rest

/-- Reads a text after its opening quote, if it has a value. -/
def takeText (cs : List Char) : Option (Option String × List Char) :=
  match readText cs with
  | some (s, rest) => some (some s, rest)
  | none => (skipText cs).map (none, ·)

/-- Takes a word off the front of a text. -/
def dropWord : List Char → List Char → Option (List Char)
  | [], cs => some cs
  | w :: ws, c :: cs => if w = c then dropWord ws cs else none
  | _ :: _, [] => none

/-- The tree of a word with the rest, or a broken tree. -/
def word (w : String) (tree : Tree) (cs : List Char) : Tree × Option (List Char) :=
  match dropWord w.toList cs with
  | some rest => (tree, some rest)
  | none => (.broken, none)

mutual

/-- Reads a value: its tree, and the rest of the text if reading can go on. -/
def readValue : Nat → List Char → Tree × Option (List Char)
  | 0, _ => (.broken, none)
  | fuel + 1, cs =>
    match skipBlanks cs with
    | [] => (.broken, none)
    | c :: rest =>
      if c = '"' then
        match takeText rest with
        | some (some s, rest) => (.text s, some rest)
        | some (none, rest) => (.valueless, some rest)
        | none => (.broken, none)
      else if c = '[' then
        match skipBlanks rest with
        | ']' :: rest => (.list [] true, some rest)
        | rest =>
          let (items, rest) := readItems fuel rest
          (.list items rest.isSome, rest)
      else if c = '\x7b' then
        match skipBlanks rest with
        | '\x7d' :: rest => (.object [] true, some rest)
        | rest =>
          let (fields, rest) := readFields fuel rest
          (.object fields rest.isSome, rest)
      else if c = 'n' then word "ull" .null rest
      else if c = 't' then word "rue" (.bool true) rest
      else if c = 'f' then word "alse" (.bool false) rest
      else
        match Numeral.read (c :: rest) with
        | some (.whole i, rest) => (.whole i, some rest)
        | some (.real d, rest) => (.real d, some rest)
        | none =>
          match Numeral.skip (c :: rest) with
          | some rest => (.valueless, some rest)
          | none => (.broken, none)

/-- Reads items up to the closing bracket. -/
def readItems : Nat → List Char → List Tree × Option (List Char)
  | 0, _ => ([], none)
  | fuel + 1, cs =>
    let (item, rest) := readValue fuel cs
    match rest.map skipBlanks with
    | some (',' :: rest) =>
      let (items, rest) := readItems fuel rest
      (item :: items, rest)
    | some (']' :: rest) => ([item], some rest)
    | _ => ([item], none)

/-- Reads fields up to the closing brace. -/
def readFields : Nat → List Char → List (Option String × Tree) × Option (List Char)
  | 0, _ => ([], none)
  | fuel + 1, cs =>
    match skipBlanks cs with
    | '"' :: rest =>
      match takeText rest with
      | none => ([], none)
      | some (key, rest) =>
        match skipBlanks rest with
        | ':' :: rest =>
          let (value, rest) := readValue fuel rest
          match rest.map skipBlanks with
          | some (',' :: rest) =>
            let (fields, rest) := readFields fuel rest
            ((key, value) :: fields, rest)
          | some ('\x7d' :: rest) => ([(key, value)], some rest)
          | _ => ([(key, value)], none)
        | _ => ([(key, .broken)], none)
    | _ => ([], none)

end

/-- The tree of a text, and whether nothing but blanks follows the value. -/
def parse (text : String) : Tree × Bool :=
  let cs := text.toList
  let (tree, rest) := readValue (2 * cs.length + 2) cs
  (tree, match rest with
    | some rest => (skipBlanks rest).isEmpty
    | none => false)

end CloudLifecycle.Tree

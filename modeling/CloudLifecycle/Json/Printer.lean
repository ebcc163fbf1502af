import CloudLifecycle.Json.Basic
import CloudLifecycle.Number.Shortest

/-!
# Writing JSON

`Json.render` writes a value without blanks, the fields of an object in the order they have.  A text
keeps every character but the quote, the backslash and the control characters below U+0020; those
with a short escape get it, the others four hexadecimal digits.
-/

set_option autoImplicit false

namespace CloudLifecycle.Json

/-- The lower-case hexadecimal digit of a number below sixteen. -/
def lowerHexDigit (n : Nat) : Char :=
  if n < 10 then Char.ofNat (48 + n) else Char.ofNat (87 + n)

/-- One character of a text between quotes. -/
def escapeChar (c : Char) : List Char :=
  if c = '"' then ['\\', '"']
  else if c = '\\' then ['\\', '\\']
  else if 0x20 ≤ c.toNat then [c]
  else if c.toNat = 0x08 then ['\\', 'b']
  else if c = '\t' then ['\\', 't']
  else if c = '\n' then ['\\', 'n']
  else if c.toNat = 0x0C then ['\\', 'f']
  else if c = '\r' then ['\\', 'r']
  else ['\\', 'u', '0', '0', lowerHexDigit (c.toNat / 16), lowerHexDigit (c.toNat % 16)]

/-- A text between quotes. -/
def renderText (s : String) : List Char := '"' :: (s.toList.flatMap escapeChar ++ ['"'])

mutual

/-- The characters of a value. -/
def renderChars : Json → List Char
  | .null => "null".toList
  | .bool true => "true".toList
  | .bool false => "false".toList
  | .whole i => i.repr.toList
  | .real d => if d.isFinite then d.text.toList else "null".toList
  | .text s => renderText s
  | .list [] => ['[', ']']
  | .list (item :: items) => '[' :: (renderChars item ++ renderItems items)
  | .object [] => ['\x7b', '\x7d']
  | .object ((key, value) :: fields) =>
    '\x7b' :: (renderText key ++ ':' :: (renderChars value ++ renderFields fields))

/-- The items after the first, each behind its comma, and the closing bracket. -/
def renderItems : List Json → List Char
  | [] => [']']
  | item :: items => ',' :: (renderChars item ++ renderItems items)

/-- The fields after the first, each behind its comma, and the closing brace. -/
def renderFields : List (String × Json) → List Char
  | [] => ['\x7d']
  | (key, value) :: fields =>
    ',' :: (renderText key ++ ':' :: (renderChars value ++ renderFields fields))

end

/-- The text of a value, without blanks. -/
def render (v : Json) : String := String.ofList (renderChars v)

end CloudLifecycle.Json

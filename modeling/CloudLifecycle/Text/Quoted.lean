import CloudLifecycle.Text.Printable

/-!
# Quotations in messages

A text is quoted between double quotes; the quote and the backslash are escaped, the usual control
characters have short escapes, and other characters that cannot be shown are given by their code
point in hexadecimal.
-/

set_option autoImplicit false

namespace CloudLifecycle.Text

/-- One character of a quotation. -/
def quotedChar (c : Char) : List Char :=
  if c = '"' then ['\\', '"']
  else if c = '\\' then ['\\', '\\']
  else if c = '\n' then ['\\', 'n']
  else if c = '\r' then ['\\', 'r']
  else if c = '\t' then ['\\', 't']
  else if c.toNat = 0 then ['\\', '0']
  else if isHidden c then
    ['\\', 'u', '\x7b'] ++ Nat.toDigits 16 c.toNat ++ ['\x7d']
  else [c]

/-- A text between double quotes with escapes. -/
def quoted (s : String) : String :=
  String.ofList ('"' :: s.toList.flatMap quotedChar ++ ['"'])

end CloudLifecycle.Text

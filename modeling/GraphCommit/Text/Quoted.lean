import GraphCommit.Text.Quoted.Table

/-!
# Quoted texts

A text between double quotes, in one line.  The quote, the backslash and the common control
characters have short escapes; a character without a visible form is written with its code point
in hexadecimal.
-/

namespace GraphCommit.Text.Quoted

/-- The lower-case hexadecimal digits of a number. -/
def hexDigits (n : Nat) : List Char := Nat.toDigits 16 n

/-- A character by its code point. -/
def byCode (c : Char) : List Char := "\\u\x7b".toList ++ hexDigits c.toNat ++ ['\x7d']

/-- A character as it stands between the quotes. -/
def escape (c : Char) : List Char :=
  if c = '\x00' then ['\\', '0']
  else if c = '\t' then ['\\', 't']
  else if c = '\r' then ['\\', 'r']
  else if c = '\n' then ['\\', 'n']
  else if c = '"' then ['\\', '"']
  else if c = '\\' then ['\\', '\\']
  else if c ≠ ' ' && (invisible.contains c || extending.contains c) then byCode c
  else [c]

/-- The text between double quotes. -/
def encode (text : String) : String :=
  String.ofList ('"' :: text.toList.flatMap escape ++ ['"'])

end GraphCommit.Text.Quoted

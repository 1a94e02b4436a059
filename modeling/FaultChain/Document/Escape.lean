/-!
# Strings in documents

A string of a document stands between double quotes.  The quote, the backslash and the control
characters below U+0020 are escaped: the first two and five of the control characters by a backslash
and one character, the others by `\u` and four lower-case hexadecimal digits.  All other characters
stand for themselves, whether they are ASCII or not.
-/

namespace FaultChain.Document

/-- The lower-case hexadecimal digit of a number below sixteen. -/
def hexDigit (n : Nat) : Char :=
  Nat.digitChar n

/-- The characters that stand for one character of a string. -/
def escapeChar (c : Char) : List Char :=
  if c = '"' then ['\\', '"']
  else if c = '\\' then ['\\', '\\']
  else if c = '\n' then ['\\', 'n']
  else if c = '\r' then ['\\', 'r']
  else if c = '\t' then ['\\', 't']
  else if c = '\x08' then ['\\', 'b']
  else if c = '\x0c' then ['\\', 'f']
  else if c.toNat < 0x20 then
    ['\\', 'u', '0', '0', hexDigit (c.toNat / 16), hexDigit (c.toNat % 16)]
  else [c]

/-- The characters that stand for a text. -/
def escape (cs : List Char) : List Char :=
  cs.flatMap escapeChar

/-- A text as a string of a document. -/
def string (s : String) : String :=
  "\"" ++ String.ofList (escape s.toList) ++ "\""

end FaultChain.Document

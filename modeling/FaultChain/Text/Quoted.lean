import FaultChain.Text.Hidden

/-!
# Quoted texts, for diagnosis

A text is shown between double quotes.  The quote and the backslash are escaped by a backslash, NUL,
tab, line feed and carriage return have a letter of their own, and every other character that shows
nothing is written by its number in lower-case hexadecimal between braces.
-/

namespace FaultChain.Text

/-- The characters that stand for one character inside quotes. -/
def quoteChar (c : Char) : List Char :=
  if c = '\x00' then ['\\', '0']
  else if c = '\t' then ['\\', 't']
  else if c = '\n' then ['\\', 'n']
  else if c = '\r' then ['\\', 'r']
  else if c = '"' then ['\\', '"']
  else if c = '\\' then ['\\', '\\']
  else if isHidden c then ['\\', 'u', '\x7b'] ++ Nat.toDigits 16 c.toNat ++ ['\x7d']
  else [c]

/-- A text between quotes. -/
def quoted (s : String) : String :=
  String.ofList ('"' :: (s.toList.flatMap quoteChar ++ ['"']))

end FaultChain.Text

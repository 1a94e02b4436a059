/-!
# Records with named fields, for diagnosis

A record is shown on one line as `Name { a: x, b: y }`, or spread over several with each field on
lines of its own, indented by four columns.  The indentation applies to every line of a field's
value, also to the lines of a value that itself holds line breaks.
-/

namespace FaultChain.Text

/-- Puts four spaces in front of every line, where `fresh` says that a line is about to start. -/
def indentFrom : Bool → List Char → List Char
  | _, [] => []
  | true, c :: cs => ' ' :: ' ' :: ' ' :: ' ' :: c :: indentFrom (c == '\n') cs
  | false, c :: cs => c :: indentFrom (c == '\n') cs

/-- A text with every line indented by four columns. -/
def indent (s : String) : String :=
  String.ofList (indentFrom true s.toList)

/-- A named record on one line. -/
def recordLine (name : String) (fields : List (String × String)) : String :=
  name ++ " \x7b " ++ ", ".intercalate (fields.map fun (k, v) => k ++ ": " ++ v) ++ " \x7d"

/-- A named record with each field on lines of its own. -/
def recordBlock (name : String) (fields : List (String × String)) : String :=
  name ++ " \x7b\n" ++ String.join (fields.map fun (k, v) => indent (k ++ ": " ++ v ++ ",\n")) ++
    "\x7d"

end FaultChain.Text

/-!
# Source locations

Where an error was raised: a file, a line, and the enclosing function if it is known.
-/

namespace FaultChain

/-- Where an error was raised. -/
structure Location where
  file : String
  line : UInt32
  func : Option String := none
  deriving DecidableEq, Repr

/-- A location as `file:line`, followed by the function in parentheses if it is known. -/
def Location.display (l : Location) : String :=
  l.file ++ ":" ++ toString l.line.toNat ++
    match l.func with
    | some func => " (" ++ func ++ ")"
    | none => ""

end FaultChain

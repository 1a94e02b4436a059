import FaultChain.Flags
import FaultChain.Location
import FaultChain.Text.Quoted
import FaultChain.Text.Record

/-!
# Links and chains

A *link* is everything about an error that is fixed when it is created, its cause aside.  An error
with its cause, the cause of that, and so on, is a *chain* of links, outermost first.

Everything that is shown of an error is a function of its chain, and most of it of its link alone.
So what is shown lasts as long as links and causes do.
-/

namespace FaultChain

/-- What is fixed about an error when it is created, its cause aside. -/
structure Link where
  domain : Domain
  code : Code
  flags : Flags
  message : String
  location : Option Location := none
  deriving DecidableEq, Repr

/-- An error and its successive causes. -/
structure Chain where
  top : Link
  causes : List Link := []
  deriving DecidableEq, Repr

namespace Chain

/-- The links of a chain, outermost first. -/
def links (c : Chain) : List Link :=
  c.top :: c.causes

/-- The chain with given links. -/
def ofLinks? : List Link → Option Chain
  | [] => none
  | top :: causes => some { top, causes }

/-- How many links a chain has. -/
def length (c : Chain) : Nat :=
  c.causes.length + 1

/-- A chain is told by its links. -/
theorem ofLinks?_links (c : Chain) : ofLinks? c.links = some c := rfl

end Chain

namespace Link

/-- The domain and code of an error, as `DOMAIN/CODE`. -/
def kind (l : Link) : String :=
  l.domain.name ++ "/" ++ l.code.name

/-- An error in one line. -/
def display (l : Link) : String :=
  "[" ++ l.kind ++ "] " ++ l.message

/-- An error in one line, with its location if it has one. -/
def displayLocated (l : Link) : String :=
  l.display ++
    match l.location with
    | some location => " at " ++ location.display
    | none => ""

/-- The fields of an error in a diagnostic record, where only the immediate cause is shown. -/
def recordFields (l : Link) (cause : Option Link) : List (String × String) :=
  [("domain", l.domain.variant), ("code", l.code.variant), ("flags", l.flags.debug),
    ("message", Text.quoted l.message)] ++
  (l.location.map fun location => ("location", location.display)).toList ++
  (cause.map fun cause => ("cause", cause.display)).toList

/-- The name of an error's diagnostic record. -/
def recordName : String :=
  "LedgerError"

/-- An error as a diagnostic record on one line.  Of its cause it shows one line, and of the causes
behind that nothing. -/
def debug (l : Link) (cause : Option Link) : String :=
  Text.recordLine recordName (l.recordFields cause)

/-- An error as a diagnostic record over several lines. -/
def debugBlock (l : Link) (cause : Option Link) : String :=
  Text.recordBlock recordName (l.recordFields cause)

end Link

end FaultChain

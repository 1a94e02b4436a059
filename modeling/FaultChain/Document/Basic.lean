import FaultChain.Document.Escape
import FaultChain.Link

/-!
# The document of a chain

A chain is written as nested JSON objects, one for each link, outermost first, each in the field
`cause` of the one around it.  The fields of a link are its domain, code, flags and message, then
file and line if it has a location, and then the function if that is known.

Only so many links are written.  Where the last of them has a cause, the field `cause` holds the
*marker*, an object that says that the chain goes on.

`nested` is the definition of the document by recursion on the number of links that may still be
written; how a document is produced in practice is told in `FaultChain.Document.Frames`.
-/

namespace FaultChain.Document

/-- How many links of a chain are visited and written. -/
def depthLimit : Nat :=
  64

/-- The document of no error at all. -/
def empty : String :=
  "\x7b\x7d"

/-- What stands for the causes that are not written. -/
def marker : String :=
  "\x7b\"truncated\":true\x7d"

/-- What comes before the object of a cause. -/
def causeKey : String :=
  ",\"cause\":"

/-- The flags of a link as an array of names. -/
def flagsArray (f : Flags) : String :=
  "[" ++ ",".intercalate (f.names.map fun name => "\"" ++ name ++ "\"") ++ "]"

/-- The fields of a location. -/
def locationFields (l : Location) : String :=
  ",\"file\":" ++ string l.file ++ ",\"line\":" ++ toString l.line.toNat ++
    match l.func with
    | some func => ",\"func\":" ++ string func
    | none => ""

/-- The fields of a link. -/
def fields (l : Link) : String :=
  "\"domain\":" ++ string l.domain.name ++ ",\"code\":" ++ string l.code.name ++
    ",\"flags\":" ++ flagsArray l.flags ++ ",\"message\":" ++ string l.message ++
    match l.location with
    | some location => locationFields location
    | none => ""

/-- The object of a link with its causes, of which `budget` more may be written. -/
def nested (budget : Nat) (top : Link) (causes : List Link) : String :=
  "\x7b" ++ fields top ++
    (match causes, budget with
    | [], _ => ""
    | _ :: _, 0 => causeKey ++ marker
    | cause :: rest, more + 1 => causeKey ++ nested more cause rest) ++
    "\x7d"

/-- The document of a chain, of which at most `limit` links are written; the outermost one always
is. -/
def ofChain (limit : Nat) (chain : Chain) : String :=
  nested (limit - 1) chain.top chain.causes

end FaultChain.Document

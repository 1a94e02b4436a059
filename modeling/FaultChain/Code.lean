/-!
# Codes

What went wrong, independent of where.  Codes are numbered from zero in the order of `Code.all`; the
numbers are shared with other tools, and the names appear in rendered documents.
-/

namespace FaultChain

/-- What went wrong, independent of where. -/
inductive Code
  | ok
  | unknown
  | outOfMemory
  | invalidArgument
  | notFound
  | conflict
  | permissionDenied
  | policyViolation
  | trustViolation
  | ioError
  | dependencyMissing
  deriving DecidableEq, Repr

namespace Code

/-- All codes, in the order of their numbers. -/
def all : List Code :=
  [ok, unknown, outOfMemory, invalidArgument, notFound, conflict, permissionDenied,
    policyViolation, trustViolation, ioError, dependencyMissing]

/-- The name of a code in documents and messages. -/
def name : Code → String
  | ok => "OK"
  | unknown => "UNKNOWN"
  | outOfMemory => "OUT_OF_MEMORY"
  | invalidArgument => "INVALID_ARGUMENT"
  | notFound => "NOT_FOUND"
  | conflict => "CONFLICT"
  | permissionDenied => "PERMISSION_DENIED"
  | policyViolation => "POLICY_VIOLATION"
  | trustViolation => "TRUST_VIOLATION"
  | ioError => "IO_ERROR"
  | dependencyMissing => "DEPENDENCY_MISSING"

/-- The spelling of a code in diagnostic records. -/
def variant : Code → String
  | ok => "Ok"
  | unknown => "Unknown"
  | outOfMemory => "OutOfMemory"
  | invalidArgument => "InvalidArgument"
  | notFound => "NotFound"
  | conflict => "Conflict"
  | permissionDenied => "PermissionDenied"
  | policyViolation => "PolicyViolation"
  | trustViolation => "TrustViolation"
  | ioError => "IoError"
  | dependencyMissing => "DependencyMissing"

/-- The number of a code. -/
def toNat (c : Code) : Nat :=
  all.idxOf c

/-- The code with a given number. -/
def ofNat? (n : Nat) : Option Code :=
  all[n]?

/-- A code is told by its number, so a number that came back from elsewhere is read as what it
was. -/
theorem ofNat?_toNat (c : Code) : ofNat? c.toNat = some c := by
  cases c <;> rfl

end Code

end FaultChain

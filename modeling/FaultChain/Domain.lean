/-!
# Domains

The subsystem in which an error arose.  Domains are numbered from zero in the order of `Domain.all`;
the numbers are shared with other tools, and the names appear in rendered documents.
-/

namespace FaultChain

/-- The subsystem in which an error arose. -/
inductive Domain
  | ok
  | generic
  | allocator
  | git
  | policy
  | trust
  | io
  | config
  deriving DecidableEq, Repr

namespace Domain

/-- All domains, in the order of their numbers. -/
def all : List Domain :=
  [ok, generic, allocator, git, policy, trust, io, config]

/-- The name of a domain in documents and messages. -/
def name : Domain → String
  | ok => "OK"
  | generic => "GENERIC"
  | allocator => "ALLOCATOR"
  | git => "GIT"
  | policy => "POLICY"
  | trust => "TRUST"
  | io => "IO"
  | config => "CONFIG"

/-- The spelling of a domain in diagnostic records. -/
def variant : Domain → String
  | ok => "Ok"
  | generic => "Generic"
  | allocator => "Allocator"
  | git => "Git"
  | policy => "Policy"
  | trust => "Trust"
  | io => "Io"
  | config => "Config"

/-- The number of a domain. -/
def toNat (d : Domain) : Nat :=
  all.idxOf d

/-- The domain with a given number. -/
def ofNat? (n : Nat) : Option Domain :=
  all[n]?

/-- A domain is told by its number, so a number that came back from elsewhere is read as what it
was. -/
theorem ofNat?_toNat (d : Domain) : ofNat? d.toNat = some d := by
  cases d <;> rfl

end Domain

end FaultChain

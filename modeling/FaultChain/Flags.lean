import FaultChain.Code
import FaultChain.Domain

/-!
# Classification flags

Every error carries a set of three flags that classify it for whoever handles it.  A fresh error is
classified by its domain, and by its code only where the domain has no opinion.  On the wire a set
is the number whose bits 0, 1 and 2 are the flags in the order of their names; other bits are
dropped.
-/

namespace FaultChain

/-- A set of classification flags. -/
structure Flags where
  retryable : Bool := false
  permanent : Bool := false
  auth : Bool := false
  deriving DecidableEq, Repr

namespace Flags

/-- The empty set. -/
def none : Flags := {}

/-- The set that holds `retryable` alone. -/
def onlyRetryable : Flags := { retryable := true }

/-- The set that holds `permanent` alone. -/
def onlyPermanent : Flags := { permanent := true }

/-- The set that holds `auth` alone. -/
def onlyAuth : Flags := { auth := true }

/-- The set whose members are the low three bits of a number.  Other bits are dropped and not
refused. -/
def ofBits (n : Nat) : Flags where
  retryable := n.testBit 0
  permanent := n.testBit 1
  auth := n.testBit 2

/-- The number whose bits are the members. -/
def bits (f : Flags) : Nat :=
  f.retryable.toNat + 2 * f.permanent.toNat + 4 * f.auth.toNat

/-- The flags that are in either set. -/
def union (f g : Flags) : Flags where
  retryable := f.retryable || g.retryable
  permanent := f.permanent || g.permanent
  auth := f.auth || g.auth

/-- The flags that are in both sets. -/
def inter (f g : Flags) : Flags where
  retryable := f.retryable && g.retryable
  permanent := f.permanent && g.permanent
  auth := f.auth && g.auth

/-- Whether every flag of `g` is in `f`. -/
def contains (f g : Flags) : Bool :=
  f.inter g == g

/-- Whether the set has no members. -/
def isEmpty (f : Flags) : Bool :=
  f == none

/-- The flags with their names, in the order in which names are listed. -/
def ordered : List (Flags × String) :=
  [(onlyRetryable, "RETRYABLE"), (onlyPermanent, "PERMANENT"), (onlyAuth, "AUTH")]

/-- The names of the members. -/
def names (f : Flags) : List String :=
  (ordered.filter fun (g, _) => f.contains g).map Prod.snd

/-- The names of the members, joined by bars. -/
def format (f : Flags) : String :=
  "|".intercalate f.names

/-- The set in a diagnostic record. -/
def debug (f : Flags) : String :=
  "Flags(" ++ f.format ++ ")"

/-- The classification that a domain gives to all of its errors, whatever their codes are. -/
def ofDomain? : Domain → Option Flags
  | .io => some onlyRetryable
  | .policy | .trust => some onlyPermanent
  | _ => Option.none

/-- The classification of a code in a domain without one of its own.  Where neither says anything, a
fresh error has no flags. -/
def ofCode : Code → Flags
  | .outOfMemory | .ioError => onlyRetryable
  | .policyViolation | .trustViolation | .invalidArgument => onlyPermanent
  | _ => none

/-- The classification of a fresh error. -/
def defaultFor (domain : Domain) (code : Code) : Flags :=
  (ofDomain? domain).getD (ofCode code)

/-- A set is told by its number. -/
theorem ofBits_bits (f : Flags) : ofBits f.bits = f := by
  rcases f with ⟨_ | _, _ | _, _ | _⟩ <;> rfl

end Flags

end FaultChain

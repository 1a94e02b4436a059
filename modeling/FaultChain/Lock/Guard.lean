import FaultChain.Lock.Basic

/-!
# A lock with one user

The only user of a lock holds a guard or does not.  The value is reached through the guard alone,
and waiting for a lock that one holds oneself would never end.

This is the lock as one thread of control has it.  `FaultChain.Lock.Contention` is the same lock
with everybody who wants it, one step at a time; what a user does here is what a single worker does
there (`Contention.serves_of_run`).
-/

namespace FaultChain

/-- A lock, and whether its only user holds the guard.  Nothing keeps the two in step but the
functions below. -/
structure Guarded (α : Type) where
  lock : Lock α
  guarding : Bool := false
  deriving DecidableEq, Repr

namespace Guarded

variable {α : Type}

/-- What acquiring a lock for good came to: waiting for oneself has an answer of its own. -/
inductive Acquired
  | locked
  /-- The user holds the guard already. -/
  | wouldBlock
  deriving DecidableEq, Repr

/-- Acquires the lock unless that would never end.  It ends at once if it ends at all, as there is
nobody else who could free the lock. -/
def acquire (g : Guarded α) : Guarded α × Acquired :=
  if g.guarding then (g, .wouldBlock)
  else ({ lock := g.lock.swap.1, guarding := true }, .locked)

/-- Tries once to acquire the lock. -/
def tryAcquire (g : Guarded α) : Guarded α × Bool :=
  let (lock, acquired) := g.lock.swap
  ({ lock, guarding := g.guarding || acquired }, acquired)

/-- Lets go of the guard; tells whether it was held. -/
def release (g : Guarded α) : Guarded α × Bool :=
  if g.guarding then ({ lock := g.lock.unlock, guarding := false }, true) else (g, false)

/-- The value, if the guard is held. -/
def get? (g : Guarded α) : Option α :=
  if g.guarding then some g.lock.value else none

/-- Replaces the value if the guard is held; tells whether it was. -/
def set (g : Guarded α) (value : α) : Guarded α × Bool :=
  if g.guarding then ({ g with lock := g.lock.set value }, true) else (g, false)

end Guarded

end FaultChain

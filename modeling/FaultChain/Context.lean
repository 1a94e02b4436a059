import FaultChain.Fault

/-!
# Contexts

A context binds errors to a backend, registers those that are attached to it, and counts its
generations: every attempt to tear it down starts a new one.  It counts one reference for each
handle.

A destroyed context keeps its key, so that handles that are left over still find it: it is not
valid, registers nothing, and shows generation zero.
-/

namespace FaultChain

/-- An entry of a registry. -/
structure Registration where
  fault : FaultId
  /-- The block of this entry. -/
  node : Memory.Block
  deriving DecidableEq, Repr

/-- A context. -/
structure Context where
  valid : Bool := true
  /-- The number of references, counted in 32 bits. -/
  refs : UInt32 := 1
  /-- The generation, counted in 32 bits. -/
  generation : UInt32
  backend : BackendId
  block : Memory.Block
  /-- The registered errors, the latest first. -/
  registry : List Registration := []
  deriving DecidableEq, Repr

namespace Context

/-- The generation of a fresh context. -/
def initialGeneration : UInt32 :=
  1

/-- What marks the block of a valid context. -/
def tag : UInt32 :=
  0xC0FFEE01

/-- The generation that a context shows. -/
def shownGeneration (c : Context) : UInt32 :=
  if c.valid then c.generation else 0

/-- The number of registered errors. -/
def live (c : Context) : Nat :=
  c.registry.length

/-- A context as a diagnostic record. -/
def debug (c : Context) : String :=
  Text.recordLine "Context"
    [("valid", toString c.valid), ("refcount", toString c.refs.toNat),
      ("generation", toString c.shownGeneration.toNat)]

end Context

end FaultChain

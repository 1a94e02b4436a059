/-!
# Layouts

What is asked of a backend is a block of some size and alignment.  Sizes are counted in bytes.  A
byte buffer holds its content and one terminator; it is not asked for at all if its size exceeds the
greatest size that a block can have.
-/

namespace FaultChain.Memory

/-- The size and alignment of a block. -/
structure Layout where
  size : Nat
  align : Nat
  deriving DecidableEq, Repr

namespace Layout

/-- The greatest size of a block. -/
def greatestSize : Nat :=
  1 <<< 63 - 1

/-- The layout of a byte buffer with a given length of content. -/
def buffer? (length : Nat) : Option Layout :=
  if length + 1 ≤ greatestSize then some { size := length + 1, align := 1 } else none

/-- The record of a context. -/
def context : Layout := { size := 48, align := 8 }

/-- The record of an error. -/
def fault : Layout := { size := 128, align := 8 }

/-- An entry of a registry. -/
def node : Layout := { size := 16, align := 8 }

/-- The record of a cached document. -/
def cache : Layout := { size := 40, align := 8 }

/-- Whether blocks of this layout hold bytes rather than records. -/
def isBytes (l : Layout) : Bool :=
  l.align == 1

theorem buffer?_eq_some_iff {length : Nat} {l : Layout} :
    buffer? length = some l ↔
      length + 1 ≤ greatestSize ∧ l = { size := length + 1, align := 1 } := by
  unfold buffer?
  split
  · simp_all [eq_comm]
  · exact ⟨nofun, fun h => absurd h.1 (by assumption)⟩

end Layout

end FaultChain.Memory

/-!
# Spin locks

A lock is a flag beside the value that it protects.  To acquire it is to swap `true` into the flag
and find `false`; a failed swap writes `true` over `true`.  Whoever waits pauses after each failed
swap, and gives the processor away after every so many failed swaps in a row.
-/

namespace FaultChain

/-- A waiter in between two swaps. -/
structure Spin where
  /-- Failed swaps since the processor was last given away, counted in 32 bits. -/
  count : UInt32 := 0
  /-- How often the waiter paused. -/
  pauses : Nat := 0
  /-- How often the waiter gave the processor away. -/
  yields : Nat := 0
  deriving DecidableEq, Repr

/-- One more failed swap. -/
def Spin.fail (yieldAfter : UInt32) (s : Spin) : Spin :=
  let count := s.count + 1
  if count ≥ yieldAfter then
    { count := 0, pauses := s.pauses + 1, yields := s.yields + 1 }
  else
    { count, pauses := s.pauses + 1, yields := s.yields }

/-- A number of failed swaps in a row. -/
def Spin.failures (yieldAfter : UInt32) : Nat → Spin → Spin
  | 0, s => s
  | n + 1, s => failures yieldAfter n (s.fail yieldAfter)

/-- A spin lock over a value. -/
structure Lock (α : Type) where
  held : Bool := false
  /-- Failed swaps in a row before the processor is given away. -/
  yieldAfter : UInt32
  value : α
  deriving DecidableEq, Repr

namespace Lock

variable {α : Type}

/-- Failed swaps before the processor is given away, if nothing else is asked for. -/
def defaultYieldAfter : UInt32 :=
  64

/-- A free lock over a value.  The processor is given away after one failed swap at the least. -/
def withYieldAfter (value : α) (yieldAfter : UInt32) : Lock α where
  yieldAfter := if yieldAfter = 0 then 1 else yieldAfter
  value := value

/-- A free lock over a value. -/
def new (value : α) : Lock α :=
  withYieldAfter value defaultYieldAfter

/-- Swaps `true` into the flag; tells whether that acquired the lock. -/
def swap (l : Lock α) : Lock α × Bool :=
  ({ l with held := true }, !l.held)

/-- Frees the lock. -/
def unlock (l : Lock α) : Lock α :=
  { l with held := false }

/-- Replaces the value. -/
def set (l : Lock α) (value : α) : Lock α :=
  { l with value }

end Lock

end FaultChain

import FaultChain.Document.Reservation
import FaultChain.Memory.Layout

/-!
# Backends

A backend hands out blocks and takes them back.  It keeps a history of every request it answered and
every block that came back; all of its statistics are read off that history.

Requests are numbered from one in the order in which they enter.  A block is known by the number of
the request that obtained it, so blocks are never confused, not even with blocks freed before.

Which requests are refused is decided by the backend alone, and nothing is assumed about how.  Every
backend has a *rule*, an arbitrary function of the number of the request and of what it asks for.
Besides, it may be told to refuse the requests with some numbers, or byte buffers above a size;
these two can be set from outside while it is in use.  The rule of an ordinary machine only refuses
blocks that no memory has room for (`Rule.ordinary`).

A backend may also *re-enter* the library: on entry to a request, after that request was counted and
before it is answered, it reads the document of an error on which it holds a reference.  The
requests that such a reader makes get the numbers that follow, and its two passes get answers of
their own when they reserve frames.  The backend only says which readers are due (`Backend.enter`);
the store runs them.
-/

namespace FaultChain.Memory

/-- A block handed out by a backend, known by the number of the request that obtained it.  Its
address is no concern of the library. -/
structure Block where
  serial : Nat
  layout : Layout
  deriving DecidableEq, Repr

/-- What a backend did.  A refused request is an event as well, since requests are counted whatever
comes of them. -/
inductive Event
  | granted (block : Block)
  | refused (serial : Nat) (layout : Layout)
  | freed (block : Block)
  deriving DecidableEq, Repr

/-- A reader that a backend lets in on entry to a request, with the error that it reads. -/
structure Reentry where
  serial : Nat
  fault : Nat
  /-- What comes of the reservations of the reader's two passes. -/
  passes : Document.Passes := {}
  deriving DecidableEq, Repr

/-- Which requests are refused, by the number of the request and by what it asks for. -/
abbrev Rule := Nat → Layout → Bool

/-- The size from which on an ordinary machine has no block. -/
def ordinaryRoom : Nat :=
  1 <<< 40

/-- The rule of an ordinary machine: what there is no block for is refused. -/
def Rule.ordinary : Rule := fun _ layout =>
  decide (ordinaryRoom ≤ layout.size)

/-- A backend. -/
structure Backend where
  /-- What is refused whatever is set from outside. -/
  rule : Rule := Rule.ordinary
  /-- The greatest byte buffer that is granted, if there is a bound. -/
  limit : Option Nat := none
  /-- The numbers of the requests that are refused. -/
  failing : List Nat := []
  /-- The readers that are still to be let in. -/
  reentries : List Reentry := []
  /-- How many requests have entered. -/
  requests : Nat := 0
  /-- What happened so far, the latest first. -/
  history : List Event := []

namespace Backend

/-- Counts a request, and takes out the readers that are due on its entry.  They are let in after
that, with the request already counted. -/
def enter (b : Backend) : Backend × List Reentry :=
  let serial := b.requests + 1
  let (due, later) := b.reentries.partition fun r => r.serial == serial
  ({ b with requests := serial, reentries := later }, due)

/-- Whether the backend refuses a request. -/
def refuses (b : Backend) (serial : Nat) (layout : Layout) : Bool :=
  b.failing.contains serial || b.rule serial layout ||
    match b.limit with
    | some limit => layout.isBytes && decide (limit < layout.size)
    | none => false

/-- Answers a request that has entered. -/
def settle (b : Backend) (serial : Nat) (layout : Layout) : Backend × Option Block :=
  if b.refuses serial layout then
    ({ b with history := .refused serial layout :: b.history }, none)
  else
    let block : Block := { serial, layout }
    ({ b with history := .granted block :: b.history }, some block)

/-- A request on entry to which no reader is let in. -/
def request (b : Backend) (layout : Layout) : Backend × Option Block :=
  let (b, _) := b.enter
  b.settle b.requests layout

/-- Takes a block back.  A backend does not check that it handed the block out; that it did is a
matter of who gives it back. -/
def free (b : Backend) (block : Block) : Backend :=
  { b with history := .freed block :: b.history }

/-- Lets the requests with the given distances from now fail, and only those.  What was planned
before is forgotten. -/
def failNext (b : Backend) (offsets : List Nat) : Backend :=
  { b with failing := offsets.map (b.requests + ·) }

end Backend

/-- The blocks handed out and not taken back in a history. -/
def outstanding : List Event → List Block
  | [] => []
  | .granted block :: rest => block :: outstanding rest
  | .refused _ _ :: rest => outstanding rest
  | .freed block :: rest => (outstanding rest).erase block

/-- What a backend tells about itself.  Only byte buffers are counted in bytes; records are counted
as blocks. -/
structure Tally where
  requests : Nat
  allocs : Nat
  frees : Nat
  /-- How many bytes of byte buffers are handed out. -/
  bufferBytes : Nat
  deriving DecidableEq, Repr

namespace Tally

/-- Whether as many blocks came back as were handed out. -/
def balanced (t : Tally) : Bool :=
  t.allocs == t.frees

/-- Adds what happened to a tally. -/
def record (t : Tally) : Event → Tally
  | .granted block =>
    { t with
      requests := t.requests + 1
      allocs := t.allocs + 1
      bufferBytes := t.bufferBytes + if block.layout.isBytes then block.layout.size else 0 }
  | .refused _ _ => { t with requests := t.requests + 1 }
  | .freed block =>
    { t with
      frees := t.frees + 1
      bufferBytes := t.bufferBytes - if block.layout.isBytes then block.layout.size else 0 }

/-- The tally of a history, the latest event first. -/
def ofHistory (history : List Event) : Tally :=
  history.foldr (fun event t => t.record event)
    { requests := 0, allocs := 0, frees := 0, bufferBytes := 0 }

end Tally

/-- The statistics of a backend. -/
def Backend.tally (b : Backend) : Tally :=
  Tally.ofHistory b.history

end FaultChain.Memory

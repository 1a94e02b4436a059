import FaultChain.Document.Basic
import FaultChain.Document.Reservation

/-!
# Writing a document without recursion

A document is written by a loop over a stack of frames, one for each object that is open, so that
the depth of a chain never becomes the depth of a call.  The stack has a fixed capacity: chains of
up to `inlineFrames` links use a stack that is always there, longer ones reserve as many frames as
the chain has links, up to the depth limit.  Where that reservation is refused, the inline stack is
used after all, and the chain is cut where it is full.

* `run` — the loop.  A closed frame gets its object opened, its fields written, and its cause pushed
  if it has one and there is room; an open frame has its object ended and is popped.
* `pieces` — what the loop writes for a chain, in order.
* `isCut` — whether causes were left out.

The loop ends because a frame weighs more than the open frame and the cause that take its place.
-/

namespace FaultChain.Document

/-- How many frames are there without a reservation. -/
def inlineFrames : Nat :=
  16

/-- An object being written. -/
structure Frame where
  link : Link
  causes : List Link
  /-- Whether the object has been opened and its fields written. -/
  opened : Bool := false

/-- Bounds how often the loop comes back to a frame and what it pushes above it. -/
def Frame.weight (f : Frame) : Nat :=
  if f.opened then 1 else 2 * f.causes.length + 2

/-- Bounds how often the loop still comes round. -/
def stackWeight : List Frame → Nat
  | [] => 0
  | frame :: outer => frame.weight + stackWeight outer

/-- Writes the objects on the stack, innermost first, after what was written already. -/
def run (capacity : Nat) : List Frame → Array String → Bool → Array String × Bool
  | [], written, cut => (written, cut)
  | { opened := true, .. } :: outer, written, cut =>
    run capacity outer (written.push "\x7d") cut
  | { link, causes := [], opened := false } :: outer, written, cut =>
    run capacity outer (((written.push "\x7b").push (fields link)).push "\x7d") cut
  | { link, causes := cause :: rest, opened := false } :: outer, written, cut =>
    let written := ((written.push "\x7b").push (fields link)).push causeKey
    if outer.length + 1 < capacity then
      run capacity
        ({ link := cause, causes := rest } :: { link, causes := cause :: rest, opened := true } ::
          outer) written cut
    else
      -- The stack is full, so the object is ended at once and never becomes an open frame.
      run capacity outer ((written.push marker).push "\x7d") true
termination_by frames => stackWeight frames
decreasing_by
  all_goals simp [stackWeight, Frame.weight]
  all_goals omega

/-- How many links of a chain a document may have, as far as the chain is looked at. -/
def measuredDepth (chain : Chain) : Nat :=
  min chain.length depthLimit

/-- The capacity of the stack for a chain. -/
def capacity (reservation : Reservation) (chain : Chain) : Nat :=
  if measuredDepth chain ≤ inlineFrames then inlineFrames
  else
    match reservation with
    | .granted => measuredDepth chain
    | .refused => inlineFrames

/-- What is known to be left out before anything is written. -/
def cutAtStart (reservation : Reservation) (chain : Chain) : Bool :=
  decide (depthLimit < chain.length) ||
    (decide (inlineFrames < measuredDepth chain) && reservation == .refused)

/-- Writes a chain: the pieces of its document, and whether causes were left out. -/
def write (reservation : Reservation) (chain : Chain) : Array String × Bool :=
  run (capacity reservation chain) [{ link := chain.top, causes := chain.causes }] #[]
    (cutAtStart reservation chain)

/-- The pieces of the document of a chain, in order. -/
def pieces (reservation : Reservation) (chain : Chain) : Array String :=
  (write reservation chain).1

/-- Whether the document of a chain leaves causes out. -/
def isCut (reservation : Reservation) (chain : Chain) : Bool :=
  (write reservation chain).2

end FaultChain.Document

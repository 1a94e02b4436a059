import FaultChain.Store.Reading

/-!
# Blocks on loan

A caller may ask for blocks of its own through a context.  Such a block belongs to the backend of
the context that it was asked through, and is given back through a context over that backend.  A
context that is gone asks nobody and takes nothing back, so a block outlives the context that it was
asked through, and stays on loan until another context over the same backend takes it.
-/

namespace FaultChain

/-- A block in the hands of the caller, with the backend that it came from. -/
structure Loan where
  backend : BackendId
  block : Memory.Block
  deriving DecidableEq, Repr

namespace Store

/-- Asks for a block through a context, given what backends do on requests. -/
def allocateWith (visit : Visitor) (s : Store) (c : ContextId) (layout : Memory.Layout) :
    Store × Option Loan :=
  match s.contexts.get? c with
  | none => (s, none)
  | some context =>
    if context.valid then
      match s.requestWith visit context.backend layout with
      | (s, none) => (s, none)
      | (s, some block) => (s, some { backend := context.backend, block })
    else (s, none)

/-- Asks the backend of a context for a block on behalf of the caller. -/
def allocate (s : Store) (c : ContextId) (layout : Memory.Layout) : Store × Option Loan :=
  s.allocateWith (reader s.waiting) c layout

/-- Gives a block of the caller's back to the backend of a context; tells whether the context was
there to take it. -/
def freeThrough (s : Store) (c : ContextId) (block : Memory.Block) : Store × Bool :=
  match s.contexts.get? c with
  | none => (s, false)
  | some context =>
    if context.valid then (s.free context.backend block, true) else (s, false)

end Store

end FaultChain

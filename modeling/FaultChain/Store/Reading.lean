import FaultChain.Document.Window
import FaultChain.Store.Lineage
import FaultChain.Store.Request

/-!
# Reading the document of an error

The first reader of an error renders its document and leaves it on the error; later readers get what
is there.  A document that was rendered for another generation of the context is retired and
rendered anew.  A detached error renders nothing: it shows the last document that it has.  Where
there is no document and none can be rendered, the reader gets a placeholder.

Rendering asks the backend for memory, and a backend may let other readers in on such a request.  A
reader who comes back with a document and finds that another left one meanwhile gives up his own and
takes the other's.

`reader` ties the knot between requests and reading: a backend holds a reference on the error for
each reader that it will let in, and gives it up when the reader is done.  Each reader is let in
once, so readers that let in readers go no deeper than there are readers waiting, and that number is
the fuel of the recursion.
-/

namespace FaultChain

/-- What a reader gets: a document that stays on the error, or a placeholder. -/
inductive Reading
  /-- There is no document. -/
  | placeholder
  /-- A document that lives on the error. -/
  | document (cached : Cached)
  deriving DecidableEq

/-- What a reader sees. -/
def Reading.text : Reading → String
  | .placeholder => Document.empty
  | .document cached => cached.text.text

/-- What is there to read without rendering. -/
def Reading.ofCache : Option Cached → Reading
  | some cached => .document cached
  | none => .placeholder

namespace Store

/-- Retires the document in use of an error.  Somebody may be reading it, so it is freed with the
error and not before. -/
def evict (s : Store) (e : FaultId) : Store :=
  s.modifyFault e fun f =>
    { f with cache := none, retired := f.cache.toList ++ f.retired }

/-- Leaves a document on an error, unless there is one already; the reader gets the one that is
there. -/
def publish (s : Store) (e : FaultId) (b : BackendId) (own : Cached) : Store × Reading :=
  match (s.faults.get? e).bind Fault.cache with
  | none => (s.modifyFault e fun f => { f with cache := some own }, .document own)
  | some winner => (s.freeCached b own, .document winner)

/-- Renders the document of an error through a backend.  Two requests are made, for the node and for
the text, and where one is refused what was obtained goes back; nobody looks at the error again
then. -/
def buildWith (visit : Visitor) (s : Store) (e : FaultId) (b : BackendId) (generation : UInt32)
    (passes : Document.Passes) : Store × Reading :=
  match s.chain? e with
  | none => (s, .placeholder)
  | some chain =>
    let required := Document.measure passes.measuring chain
    -- Counting stops here, so the document may be longer than was counted.
    if required = Document.greatestCount then (s, .placeholder)
    else
      match s.requestWith visit b .cache with
      | (s, none) => (s, .placeholder)
      | (s, some node) =>
        match s.requestBufferWith visit b (required - 1) with
        | (s, none) => (s.free b node, .placeholder)
        | (s, some blank) =>
          let text :=
            { blank with whole := (Document.render passes.writing (some chain) blank.whole).2 }
          -- If the passes reserved different stacks, what was written may end inside a character.
          match text.text? with
          | none => ((s.freeBuffer b text).free b node, .placeholder)
          | some _ => s.publish e b { generation, node, text }

/-- Reads the document of an error, given what backends do on requests.  A document of the
generation of the context is handed out as it is. -/
def readWith (visit : Visitor) (s : Store) (e : FaultId) (passes : Document.Passes) :
    Store × Reading :=
  match s.faults.get? e with
  | none => (s, .placeholder)
  | some f =>
    match f.context.bind s.contexts.get? with
    | none => (s, .ofCache f.cache)
    | some context =>
      let generation := context.shownGeneration
      match f.cache with
      | none => s.buildWith visit e context.backend generation passes
      | some cached =>
        if cached.generation = generation then (s, .document cached)
        else (s.evict e).buildWith visit e context.backend generation passes

/-- The reader that backends let in, with `n` others waiting at most.  It gives up the reference
that was held for it when it is done. -/
def reader : Nat → Visitor
  | 0, _, s => s
  | n + 1, r, s => (s.readWith (reader n) r.fault r.passes).1.release r.fault

/-- How many readers are waiting to be let in, which is as deep as readings can be nested. -/
def waiting (s : Store) : Nat :=
  (s.backends.toList.flatMap fun (_, b) => b.reentries).length

/-- Reads the document of an error. -/
def read (s : Store) (e : FaultId) (passes : Document.Passes) : Store × Reading :=
  s.readWith (reader s.waiting) e passes

end Store

end FaultChain

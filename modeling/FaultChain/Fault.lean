import FaultChain.Link
import FaultChain.Memory.Buffer

/-!
# Errors in memory

An error lives in a block of its backend and owns a message buffer, the documents rendered of it,
and one reference on its cause.  It counts the references on itself: one for each handle, and one
for each error that it is the cause of.  Its link to a context is weak: it counts for nothing, and
it is there exactly while the error is *attached*.

A rendered document is kept on the error with the generation of the context for which it was
rendered.  Documents of earlier generations are retired, not freed, as somebody may still be reading
them.
-/

namespace FaultChain

/-- The key of a backend. -/
abbrev BackendId := Nat

/-- The key of a context. -/
abbrev ContextId := Nat

/-- The key of an error. -/
abbrev FaultId := Nat

/-- A document kept on the error that it shows. -/
structure Cached where
  /-- The generation of the context for which it was rendered. -/
  generation : UInt32
  /-- The block of this record. -/
  node : Memory.Block
  text : Memory.Buffer
  deriving DecidableEq

/-- An error in memory. -/
structure Fault where
  /-- The context that the error is attached to. -/
  context : Option ContextId
  /-- The number of references, counted in 32 bits. -/
  refs : UInt32 := 1
  /-- The backend that the error was built through and goes back to. -/
  backend : BackendId
  block : Memory.Block
  domain : Domain
  code : Code
  flags : Flags
  message : Memory.Buffer
  cause : Option FaultId
  location : Option Location
  /-- The document in use. -/
  cache : Option Cached := none
  /-- The documents that were replaced, the latest first. -/
  retired : List Cached := []
  deriving DecidableEq

namespace Fault

/-- What is fixed about an error. -/
def link (f : Fault) : Link where
  domain := f.domain
  code := f.code
  flags := f.flags
  message := f.message.text
  location := f.location

/-- All documents that an error owns, the one in use first. -/
def documents (f : Fault) : List Cached :=
  f.cache.toList ++ f.retired

end Fault

end FaultChain

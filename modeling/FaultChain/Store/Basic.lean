import FaultChain.Arena
import FaultChain.Context
import FaultChain.Log

/-!
# The store

The store holds every backend, context and error under its key, and the log.  Whatever the library
does is a function from stores to stores, built from the few changes below.

A key is all that one object knows of another.  An error names its context and its cause, a context
names its backend and the errors that are registered with it, and a backend names the errors of its
readers; whether there is something under a key is seen when it is looked up.  Keys are not given
out twice (`FaultChain.Arena`), so a key of something that is gone finds nothing, and not something
else.
-/

namespace FaultChain

/-- Every object there is. -/
structure Store where
  backends : Arena Memory.Backend := {}
  contexts : Arena Context := {}
  faults : Arena Fault := {}
  log : Log := {}

namespace Store

/-- Changes a backend, if there is one under the key. -/
def modifyBackend (s : Store) (b : BackendId) (f : Memory.Backend → Memory.Backend) : Store :=
  { s with backends := s.backends.modify b f }

/-- Changes a context. -/
def modifyContext (s : Store) (c : ContextId) (f : Context → Context) : Store :=
  { s with contexts := s.contexts.modify c f }

/-- Changes an error. -/
def modifyFault (s : Store) (e : FaultId) (f : Fault → Fault) : Store :=
  { s with faults := s.faults.modify e f }

/-- Reports a message to the log. -/
def emit (s : Store) (level : Level) (origin text : String) : Store :=
  { s with log := s.log.emit level origin text }

/-- Adds a backend, with the greatest byte buffer that it grants and the rule by which it
refuses. -/
def openBackend (s : Store) (limit : Option Nat) (rule : Memory.Rule := Memory.Rule.ordinary) :
    Store × BackendId :=
  ({ s with backends := s.backends.insert { limit, rule } }, s.backends.next)

/-- Adds a context; it gets the key `s.contexts.next`. -/
def addContext (s : Store) (context : Context) : Store :=
  { s with contexts := s.contexts.insert context }

/-- Adds an error; it gets the key `s.faults.next`. -/
def addFault (s : Store) (fault : Fault) : Store :=
  { s with faults := s.faults.insert fault }

/-- Forgets an error. -/
def forgetFault (s : Store) (e : FaultId) : Store :=
  { s with faults := s.faults.erase e }

/-- Gives a block back to a backend, which adds to its history. -/
def free (s : Store) (b : BackendId) (block : Memory.Block) : Store :=
  s.modifyBackend b (·.free block)

/-- Gives a buffer back to a backend. -/
def freeBuffer (s : Store) (b : BackendId) (buffer : Memory.Buffer) : Store :=
  s.modifyBackend b (·.freeBuffer buffer)

/-- Where messages about contexts come from. -/
def contextOrigin : String :=
  "gitledger::context"

/-- Where messages about errors come from. -/
def faultOrigin : String :=
  "gitledger::error"

end Store

end FaultChain

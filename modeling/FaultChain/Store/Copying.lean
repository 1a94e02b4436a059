import FaultChain.Failure
import FaultChain.Store.Reading

/-!
# Copies

A copy of a document or of a message belongs to whoever asked for it.  It is obtained through a
context, not necessarily the one of the error, and goes back to the backend it came from, whether or
not that context is still there.

A copy remembers its backend and not its context.  That is what lets it go back when the context is
gone: a backend is never closed, and a context is looked up only to find one.
-/

namespace FaultChain

/-- A text that belongs to the caller. -/
structure Copy where
  buffer : Memory.Buffer
  backend : BackendId
  deriving DecidableEq

namespace Copy

/-- The text. -/
def text (c : Copy) : String :=
  c.buffer.text

/-- The bytes of the text, followed by the terminator. -/
def bytesWithEnd (c : Copy) : ByteArray :=
  c.buffer.contentWithEnd

end Copy

namespace Store

/-- Copies a text through a backend: one request for its bytes and a terminator. -/
def copyTextWith (visit : Visitor) (s : Store) (b : BackendId) (text : String) :
    Store × Except Failure Copy :=
  match s.requestCopyWith visit b text.toUTF8 with
  | (s, none) => (s, .error (.alloc .copy))
  | (s, some buffer) => (s, .ok { buffer, backend := b })

/-- Copies the document of an error, given what backends do on requests.  The error is read first,
which may render its document through a backend of its own. -/
def copyDocumentWith (visit : Visitor) (s : Store) (c : ContextId) (e : FaultId)
    (passes : Document.Passes) : Store × Except Failure Copy :=
  match s.contexts.get? c with
  | none => (s, .error .invalidContext)
  | some context =>
    if context.valid then
      let (s, reading) := s.readWith visit e passes
      s.copyTextWith visit context.backend reading.text
    else (s, .error .invalidContext)

/-- Copies the message of an error, given what backends do on requests. -/
def copyMessageWith (visit : Visitor) (s : Store) (c : ContextId) (e : FaultId) :
    Store × Except Failure Copy :=
  match s.contexts.get? c with
  | none => (s, .error .invalidContext)
  | some context =>
    if context.valid then
      s.copyTextWith visit context.backend (((s.link? e).map Link.message).getD "")
    else (s, .error .invalidContext)

/-- Copies the document of an error through a context. -/
def copyDocument (s : Store) (c : ContextId) (e : FaultId) (passes : Document.Passes) :
    Store × Except Failure Copy :=
  s.copyDocumentWith (reader s.waiting) c e passes

/-- Copies the message of an error through a context. -/
def copyMessage (s : Store) (c : ContextId) (e : FaultId) : Store × Except Failure Copy :=
  s.copyMessageWith (reader s.waiting) c e

/-- Gives a copy back. -/
def freeCopy (s : Store) (c : Copy) : Store :=
  s.freeBuffer c.backend c.buffer

end Store

end FaultChain

import FaultChain.Failure
import FaultChain.Store.Reading

/-!
# Creating errors

An error is created against a valid context.  Three requests go to the backend of the context, in
this order: the block of the error, the buffer of its message, and the entry in the registry.  If
one of the first two is refused, or the message reports an error while it is measured, nothing is
created and everything obtained so far goes back.  If the last one is refused, the error is there
all the same, but detached.

### What is undone, and what is not

The reference on the cause is taken when nothing can go wrong any more but the entry, so there is
never one to give back.  A missing entry is no failure: an error without a place in a registry can
still be shown, and the caller has something to show.  It is reported as a warning instead.  The
readers that a request lets in run in the middle of all this.  On the first two requests there is no
new error to be found; on the last one there is, with its link in place, and only its entry missing.
-/

namespace FaultChain

/-- What an error is created from, its context and its cause aside. -/
structure Draft where
  domain : Domain
  code : Code
  message : Message.Argument
  location : Option Location := none

namespace Store

/-- Enters an error into a registry, given what backends do on requests.  The context is looked up
once, before the request, and is valid still when it is answered: no reader gives up a context. -/
def trackWith (visit : Visitor) (s : Store) (c : ContextId) (e : FaultId) : Store × Bool :=
  match s.contexts.get? c with
  | none => (s, false)
  | some context =>
    if context.valid then
      match s.requestWith visit context.backend .node with
      | (s, none) => (s, false)
      | (s, some node) =>
        (s.modifyContext c fun context =>
          { context with registry := { fault := e, node } :: context.registry }, true)
    else (s, false)

/-- Formats a message into a buffer of a backend.  It is formatted twice: once to learn how long it
is, and once into the buffer. -/
def formatWith (visit : Visitor) (s : Store) (b : BackendId) (argument : Message.Argument) :
    Store × Except Failure Memory.Buffer :=
  match Message.measure argument.first with
  | none => (s, .error .format)
  | some length =>
    match s.requestBufferWith visit b length with
    | (s, none) => (s, .error (.alloc .message))
    | (s, some buffer) => (s, .ok (Message.stored argument buffer))

/-- The error that a draft describes, attached to a context. -/
def ofDraft (c : ContextId) (b : BackendId) (block : Memory.Block) (message : Memory.Buffer)
    (draft : Draft) (cause : Option FaultId) : Fault where
  context := some c
  backend := b
  block := block
  domain := draft.domain
  code := draft.code
  flags := .defaultFor draft.domain draft.code
  message := message
  cause := cause
  location := draft.location

/-- Adds an error with a reference on its cause, and enters it into the registry of its context.
Where that is refused the error is detached. -/
def registerWith (visit : Visitor) (s : Store) (c : ContextId) (fault : Fault) : Store × FaultId :=
  let s := match fault.cause with
    | some cause => s.retain cause
    | none => s
  let e := s.faults.next
  -- The error is there before its entry is asked for, so a reader who is let in may find it.
  match (s.addFault fault).trackWith visit c e with
  | (s, true) => (s, e)
  | (s, false) =>
    let s := s.emit .warn faultOrigin
      ("registry node allocation failed, " ++ fault.link.kind ++ " error left detached")
    (s.detach e, e)

/-- Creates an error, given what backends do on requests.  What was obtained goes back where a
request fails on the way, the latest block first. -/
def createWith (visit : Visitor) (s : Store) (c : ContextId) (draft : Draft)
    (cause : Option FaultId) : Store × Except Failure FaultId :=
  match s.contexts.get? c with
  | none => (s, .error .invalidContext)
  | some context =>
    if context.valid then
      let b := context.backend
      match s.requestWith visit b .fault with
      | (s, none) => (s, .error (.alloc .errorBlock))
      | (s, some block) =>
        match s.formatWith visit b draft.message with
        | (s, .error failure) => (s.free b block, .error failure)
        | (s, .ok message) =>
          let (s, e) := s.registerWith visit c (ofDraft c b block message draft cause)
          (s, .ok e)
    else (s, .error .invalidContext)

/-- Enters an error at the head of the registry of a valid context; tells whether it could be. -/
def track (s : Store) (c : ContextId) (e : FaultId) : Store × Bool :=
  s.trackWith (reader s.waiting) c e

/-- Creates an error, with a reference on its cause if it has one. -/
def create (s : Store) (c : ContextId) (draft : Draft) (cause : Option FaultId) :
    Store × Except Failure FaultId :=
  s.createWith (reader s.waiting) c draft cause

end Store

end FaultChain

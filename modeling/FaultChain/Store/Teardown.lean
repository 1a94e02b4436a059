import FaultChain.Settings
import FaultChain.Store.Reading

/-!
# Contexts come and go

Giving up the last reference on a context starts a new generation and tears the context down, unless
errors are still registered with it.  In that case a diagnosing caller has the process aborted, and
any other gets the reference back; the errors stay as they are.

### The end of a context

Whether a context may end is decided by how many errors are registered with it and by who is asking
(`Verdict.ofLive`).  The attempt starts a new generation before that is decided, so a document that
was rendered before is stale afterwards, also where the attempt was refused.  The reference is given
up first and given back on a refusal; nobody can come in between, as no request is made on the way.
-/

namespace FaultChain

/-- What becomes of a context whose last reference was given up. -/
inductive Verdict
  | proceed
  | abort
  | refuse
  deriving DecidableEq, Repr

namespace Verdict

/-- Whether errors that are still registered abort the process unless the caller says otherwise. -/
def diagnosing : Bool :=
  false

/-- Decides by the number of errors that are still registered. -/
def ofLive (diagnostics : Bool) (live : Nat) : Verdict :=
  if live = 0 then proceed else if diagnostics then abort else refuse

/-- The spelling of a verdict in diagnostic records. -/
def variant : Verdict → String
  | proceed => "Proceed"
  | abort => "Abort"
  | refuse => "Refuse"

end Verdict

/-- What giving up a reference on a context comes to. -/
inductive Release
  /-- It was the last one, and the context is gone. -/
  | destroyed
  /-- There are others. -/
  | retained
  /-- It was the last one, but errors are registered; it was given back. -/
  | refused
  /-- The context was gone before. -/
  | invalid
  /-- The process ends. -/
  | aborted
  deriving DecidableEq, Repr

namespace Store

/-- Creates a context over a backend, given what backends do on requests. -/
def createContextWith (visit : Visitor) (s : Store) (b : BackendId) (settings : Settings) :
    Store × Except Failure ContextId :=
  match settings.validate with
  | .error failure => (s, .error failure)
  | .ok () =>
    match s.requestWith visit b .context with
    | (s, none) => (s, .error (.alloc .contextBlock))
    | (s, some block) =>
      let context : Context := { generation := Context.initialGeneration, backend := b, block }
      let c := s.contexts.next
      ((s.addContext context).emit .debug contextOrigin "context created", .ok c)

/-- Takes one more reference on a context; one that is gone counts no references. -/
def retainContext (s : Store) (c : ContextId) : Store :=
  s.modifyContext c fun context =>
    if context.valid then { context with refs := context.refs + 1 } else context

/-- How many errors are registered, in the words of the log. -/
def liveText (live : Nat) : String :=
  toString live ++ " live error(s) at context teardown"

/-- Ends a context whose last reference was given up.  Its key stays, with a context that is not
valid, so whoever still has it is told so. -/
def destroyContext (s : Store) (c : ContextId) (context : Context) : Store :=
  let s := s.modifyContext c fun context => { context with valid := false }
  (s.free context.backend context.block).emit .debug contextOrigin "context destroyed"

/-- Gives up a reference on a context.  A caller who is diagnosing is not refused: the process
ends. -/
def releaseContext (s : Store) (c : ContextId) (diagnostics : Bool) : Store × Release :=
  match s.contexts.get? c with
  | none => (s, .invalid)
  | some context =>
    if !context.valid then (s, .invalid)
    else
      let s := s.modifyContext c fun context => { context with refs := context.refs - 1 }
      if context.refs ≠ 1 then (s, .retained)
      else
        -- The attempt starts a generation, whatever comes of it.
        let s := s.modifyContext c fun context =>
          { context with generation := context.generation + 1 }
        match Verdict.ofLive diagnostics context.live with
        | .proceed => (s.destroyContext c context, .destroyed)
        | .abort =>
          (s.emit .error contextOrigin (liveText context.live ++ ", aborting"), .aborted)
        | .refuse =>
          let s := s.emit .error contextOrigin (liveText context.live)
          let s := s.emit .warn contextOrigin "context teardown refused, reference restored"
          (s.modifyContext c fun context => { context with refs := context.refs + 1 }, .refused)

/-- Gives up a reference on a context without looking at what comes of it.  A last reference that is
refused is lost, and the context with it. -/
def dropContext (s : Store) (c : ContextId) : Store × Release :=
  match s.releaseContext c Verdict.diagnosing with
  | (s, .refused) =>
    (s.emit .warn contextOrigin "context dropped with live errors, leaking it", .refused)
  | answer => answer

/-- Creates a context over a backend. -/
def createContext (s : Store) (b : BackendId) (settings : Settings) :
    Store × Except Failure ContextId :=
  s.createContextWith (reader s.waiting) b settings

end Store

end FaultChain

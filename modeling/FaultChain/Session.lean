import FaultChain.Store.Copying
import FaultChain.Store.Creation
import FaultChain.Store.Lending
import FaultChain.Store.Teardown

/-!
# Sessions

A session is the store together with what its user holds: handles on contexts and on errors, copies,
and blocks on loan.  Every handle is one reference.  An *operation* names what it acts on by handle,
so it cannot touch what its user does not hold; one that names a handle that is not held does
nothing.

* `Session.perform` — one operation, with its outcome.
* `Session.run` — a list of operations, with the outcome of each.  After an abort nothing happens.

A destroyed context normally takes its last handle with it.  With `keep` the handle stays, so that
what a dead context answers can be asked.

### Who may do what

A user can hand in anything but a key of the store.  What he names is a handle that was given to
him, or one that he makes up, and the latter finds nothing.  Two operations, `track` and `untrack`,
put an error into a registry or take it out, and name a context and an error that need not belong
together; they are there for whoever keeps a registry by himself.

Readers that a backend lets in are arranged by an operation of their own (`letIn`), as are the
requests that it refuses.  So a run says everything that its outcome depends on: the operations of
its user, and the answers of its backends.
-/

namespace FaultChain

/-- The key of something that the user of a session holds.  Contexts, errors, copies and loans have
keys of their own, and none is given out twice. -/
abbrev Handle := Nat

/-- A reader to be let in: how many requests from now, the error that it reads, and what comes of
the reservations of its two passes. -/
structure Guest where
  offset : Nat
  fault : Handle
  passes : Document.Passes := {}
  deriving DecidableEq, Repr

/-- A reader whose reservations are granted. -/
instance : Coe (Nat × Handle) Guest where
  coe := fun (offset, fault) => { offset, fault }

/-- Something that the user of a session can do. -/
inductive Operation
  /-- Adds a backend, which refuses byte buffers above the limit and whatever its rule refuses. -/
  | openBackend (limit : Option Nat) (rule : Memory.Rule := Memory.Rule.ordinary)
  /-- Lets a backend refuse the requests with given distances from now, and only those. -/
  | failNext (backend : BackendId) (offsets : List Nat)
  /-- Has a backend let in readers of errors on entry to the requests with given distances from now,
  and only those.  The backend holds a reference for each. -/
  | letIn (backend : BackendId) (readers : List Guest)
  /-- Creates a context.  If it gets a backend of its own, that one refuses by the rule. -/
  | createContext (settings : Settings) (rule : Memory.Rule := Memory.Rule.ordinary)
  | retainContext (context : Handle)
  | releaseContext (context : Handle) (diagnostics keep : Bool)
  | dropContext (context : Handle)
  | allocate (context : Handle) (layout : Memory.Layout)
  | free (context loan : Handle)
  | detachRegistry (context : Handle)
  | track (context fault : Handle)
  | untrack (context fault : Handle)
  | createFault (context : Handle) (draft : Draft) (cause : Option Handle)
  | retainFault (fault : Handle)
  | dropFault (fault : Handle)
  /-- Takes a handle on the cause of an error. -/
  | takeCause (fault : Handle)
  | read (fault : Handle) (passes : Document.Passes)
  | copyDocument (context fault : Handle) (passes : Document.Passes)
  | copyMessage (context fault : Handle)
  | dropCopy (copy : Handle)

/-- What came of an operation, as far as its user is told. -/
inductive Outcome
  | done
  /-- A handle is not held. -/
  | absent
  /-- There is nothing to take a handle on. -/
  | nothing
  /-- A backend, or a handle on what was made. -/
  | key (key : Nat)
  | failed (why : Failure)
  | released (release : Release)
  | count (n : Nat)
  | flag (b : Bool)
  | reading (reading : Reading)
  /-- The process has ended. -/
  | aborted
  deriving DecidableEq

/-- The store and what its user holds. -/
structure Session where
  store : Store := {}
  contexts : Arena ContextId := {}
  faults : Arena FaultId := {}
  copies : Arena Copy := {}
  loans : Arena Loan := {}
  aborted : Bool := false

namespace Session

/-! ### Changing the store and what is held

The store and what is held are changed by different functions, so that what an operation does to the
store can be said without its user, and what a user gets can be said without the store.
-/

/-- Has the store change and answer.  What is held stays as it is; it is changed by what is made of
the answer. -/
def onStore {α : Type} (s : Session) (f : Store → Store × α) : Session × α :=
  let { store, contexts, faults, copies, loans, aborted } := s
  let (store, answer) := f store
  ({ store, contexts, faults, copies, loans, aborted }, answer)

/-- Has the store change. -/
def changeStore (s : Session) (f : Store → Store) : Session :=
  { s with store := f s.store }

/-- Holds one more context, under the key `s.contexts.next`. -/
def holdContext (s : Session) (c : ContextId) : Session :=
  { s with contexts := s.contexts.insert c }

/-- Holds one more error, under the key `s.faults.next`. -/
def holdFault (s : Session) (e : FaultId) : Session :=
  { s with faults := s.faults.insert e }

/-- Holds one more copy, under the key `s.copies.next`. -/
def holdCopy (s : Session) (copy : Copy) : Session :=
  { s with copies := s.copies.insert copy }

/-- Holds one more block on loan, under the key `s.loans.next`. -/
def holdLoan (s : Session) (loan : Loan) : Session :=
  { s with loans := s.loans.insert loan }

/-- Lets go of a context. -/
def forgetContext (s : Session) (h : Handle) : Session :=
  { s with contexts := s.contexts.erase h }

/-- Lets go of an error. -/
def forgetFault (s : Session) (h : Handle) : Session :=
  { s with faults := s.faults.erase h }

/-- Lets go of a copy. -/
def forgetCopy (s : Session) (h : Handle) : Session :=
  { s with copies := s.copies.erase h }

/-- Lets go of a block on loan. -/
def forgetLoan (s : Session) (h : Handle) : Session :=
  { s with loans := s.loans.erase h }

/-- Ends the process.  What is held is held for ever, as nobody is left who could let go of it. -/
def abort (s : Session) : Session :=
  { s with aborted := true }

/-! ### The operations on what is held

One function for each operation that does more than pass an answer on.  They take keys of the store,
which were looked up before under the handles that the operation names.
-/

/-- Replaces the readers that a backend will let in, and the references that it holds for them.  New
ones are taken before the old ones are given up, so an error that is on both lists lives on. -/
def letIn (s : Store) (b : BackendId) (readers : List Memory.Reentry) : Store :=
  match s.backends.get? b with
  | none => s
  | some backend =>
    let s := readers.foldl (fun s r => s.retain r.fault) s
    let s := s.modifyBackend b fun backend => { backend with reentries := readers }
    backend.reentries.foldl (fun s r => s.release r.fault) s

/-- The readers with given distances from now, as far as their errors are held. -/
def readersAfter (s : Session) (now : Nat) (readers : List Guest) : List Memory.Reentry :=
  readers.filterMap fun guest =>
    (s.faults.get? guest.fault).map fun e =>
      { serial := now + guest.offset, fault := e, passes := guest.passes }

/-- Creates a context in the store, over a backend of its own if no other is given. -/
def createOver (store : Store) (settings : Settings) (rule : Memory.Rule) :
    Store × Except Failure ContextId :=
  match settings.backend with
  | some b => store.createContext b settings
  | none =>
    let (store, b) := store.openBackend none rule
    store.createContext b settings

/-- Creates a context, over a backend of its own if no other is given. -/
def createContext (s : Session) (settings : Settings) (rule : Memory.Rule) : Session × Outcome :=
  match s.onStore (createOver · settings rule) with
  | (s, .error why) => (s, .failed why)
  | (s, .ok c) =>
    let h := s.contexts.next
    (s.holdContext c, .key h)

/-- Takes one more handle on a context. -/
def retainContext (s : Session) (c : ContextId) : Session × Outcome :=
  let h := s.contexts.next
  ((s.changeStore (·.retainContext c)).holdContext c, .key h)

/-- Gives up a handle on a context.  The handle stays if the context does not take the reference, or
if its user asks to keep it. -/
def releaseContext (s : Session) (h : Handle) (c : ContextId) (diagnostics keep : Bool) :
    Session × Outcome :=
  match s.onStore (·.releaseContext c diagnostics) with
  | (s, .destroyed) => (if keep then s else s.forgetContext h, .released .destroyed)
  | (s, .retained) => (s.forgetContext h, .released .retained)
  | (s, .refused) => (s, .released .refused)
  | (s, .invalid) => (s, .released .invalid)
  | (s, .aborted) => (s.abort, .released .aborted)

/-- Drops a handle on a context. -/
def dropContext (s : Session) (h : Handle) (c : ContextId) : Session × Outcome :=
  match s.onStore (·.dropContext c) with
  | (s, .aborted) => (s.abort, .released .aborted)
  | (s, _) => (s.forgetContext h, .done)

/-- Obtains a block through a context. -/
def allocate (s : Session) (c : ContextId) (layout : Memory.Layout) : Session × Outcome :=
  match s.onStore (·.allocate c layout) with
  | (s, none) => (s, .nothing)
  | (s, some loan) =>
    let h := s.loans.next
    (s.holdLoan loan, .key h)

/-- Gives a block on loan back through a context; it stays on loan if the context is gone. -/
def free (s : Session) (c : ContextId) (h : Handle) (loan : Loan) : Session × Outcome :=
  match s.onStore (·.freeThrough c loan.block) with
  | (s, true) => (s.forgetLoan h, .flag true)
  | (s, false) => (s, .flag false)

/-- Creates an error. -/
def createFault (s : Session) (c : ContextId) (draft : Draft) (cause : Option FaultId) :
    Session × Outcome :=
  match s.onStore (·.create c draft cause) with
  | (s, .error why) => (s, .failed why)
  | (s, .ok e) =>
    let h := s.faults.next
    (s.holdFault e, .key h)

/-- Takes one more handle on an error. -/
def retainFault (s : Session) (e : FaultId) : Session × Outcome :=
  let h := s.faults.next
  ((s.changeStore (·.retain e)).holdFault e, .key h)

/-- Takes a handle on the cause of an error. -/
def takeCause (s : Session) (e : FaultId) : Session × Outcome :=
  match (s.store.faults.get? e).bind Fault.cause with
  | none => (s, .nothing)
  | some cause => s.retainFault cause

/-- Keeps a copy that was asked for. -/
def keepCopy : Session × Except Failure Copy → Session × Outcome
  | (s, .error why) => (s, .failed why)
  | (s, .ok copy) =>
    let h := s.copies.next
    (s.holdCopy copy, .key h)

/-! ### Performing operations

Handles are looked up here and nowhere else.  What is not held is answered as such, and then the
operation has done nothing.
-/

/-- Acts on a context that is held. -/
def withContext (s : Session) (h : Handle) (act : Session → ContextId → Session × Outcome) :
    Session × Outcome :=
  match s.contexts.get? h with
  | none => (s, .absent)
  | some c => act s c

/-- Acts on an error that is held. -/
def withFault (s : Session) (h : Handle) (act : Session → FaultId → Session × Outcome) :
    Session × Outcome :=
  match s.faults.get? h with
  | none => (s, .absent)
  | some e => act s e

/-- Acts on a copy that is held. -/
def withCopy (s : Session) (h : Handle) (act : Session → Copy → Session × Outcome) :
    Session × Outcome :=
  match s.copies.get? h with
  | none => (s, .absent)
  | some copy => act s copy

/-- Acts on a block on loan that is held. -/
def withLoan (s : Session) (h : Handle) (act : Session → Loan → Session × Outcome) :
    Session × Outcome :=
  match s.loans.get? h with
  | none => (s, .absent)
  | some loan => act s loan

/-- Performs an operation while the process is running.  An operation on what is not held does
nothing. -/
def act (s : Session) : Operation → Session × Outcome
  | .openBackend limit rule =>
    let (s, b) := s.onStore (·.openBackend limit rule)
    (s, .key b)
  | .failNext b offsets => (s.changeStore (·.modifyBackend b (·.failNext offsets)), .done)
  | .letIn b readers =>
    match s.store.backends.get? b with
    | none => (s, .absent)
    | some backend =>
      let readers := s.readersAfter backend.requests readers
      (s.changeStore (letIn · b readers), .done)
  | .createContext settings rule => s.createContext settings rule
  | .retainContext h => s.withContext h retainContext
  | .releaseContext h diagnostics keep =>
    s.withContext h fun s c => s.releaseContext h c diagnostics keep
  | .dropContext h => s.withContext h fun s c => s.dropContext h c
  | .allocate h layout => s.withContext h fun s c => s.allocate c layout
  | .free h loanHandle =>
    s.withContext h fun s c => s.withLoan loanHandle fun s loan => s.free c loanHandle loan
  | .detachRegistry h =>
    s.withContext h fun s c =>
      let (s, n) := s.onStore (·.detachRegistry c)
      (s, .count n)
  | .track h faultHandle =>
    s.withContext h fun s c => s.withFault faultHandle fun s e =>
      let (s, tracked) := s.onStore (·.track c e)
      (s, .flag tracked)
  | .untrack h faultHandle =>
    s.withContext h fun s c => s.withFault faultHandle fun s e =>
      (s.changeStore (·.untrack c e), .done)
  | .createFault h draft none => s.withContext h fun s c => s.createFault c draft none
  | .createFault h draft (some causeHandle) =>
    s.withContext h fun s c => s.withFault causeHandle fun s cause =>
      s.createFault c draft (some cause)
  | .retainFault h => s.withFault h retainFault
  | .dropFault h =>
    s.withFault h fun s e => ((s.changeStore (·.release e)).forgetFault h, .done)
  | .takeCause h => s.withFault h takeCause
  | .read h passes =>
    s.withFault h fun s e =>
      let (s, reading) := s.onStore (·.read e passes)
      (s, .reading reading)
  | .copyDocument h faultHandle passes =>
    s.withContext h fun s c => s.withFault faultHandle fun s e =>
      keepCopy (s.onStore (·.copyDocument c e passes))
  | .copyMessage h faultHandle =>
    s.withContext h fun s c => s.withFault faultHandle fun s e =>
      keepCopy (s.onStore (·.copyMessage c e))
  | .dropCopy h =>
    s.withCopy h fun s copy => ((s.changeStore (·.freeCopy copy)).forgetCopy h, .done)

/-- Performs an operation; nothing happens once the process has ended. -/
def perform (s : Session) (operation : Operation) : Session × Outcome :=
  if s.aborted then (s, .aborted) else s.act operation

/-- Performs operations in turn. -/
def run (s : Session) : List Operation → Session × List Outcome
  | [] => (s, [])
  | operation :: rest =>
    let (s, outcome) := s.perform operation
    let (s, outcomes) := s.run rest
    (s, outcome :: outcomes)

end Session

end FaultChain

import FaultChain.Store.Registry

/-!
# References on errors

Giving up the last reference on an error destroys it: it leaves the registry of its context, its
documents, its message and its block go back to its backend, and the reference that it held on its
cause is given up in turn.  The chain is followed by a loop, so its length is no depth of calls.

A cause was there before the error that it explains, so keys fall along a chain; that is why the
loop ends.
-/

namespace FaultChain.Store

/-- Takes one more reference on an error. -/
def retain (s : Store) (e : FaultId) : Store :=
  s.modifyFault e fun f => { f with refs := f.refs + 1 }

/-- Gives a document back to a backend. -/
def freeCached (s : Store) (b : BackendId) (cached : Cached) : Store :=
  (s.freeBuffer b cached.text).free b cached.node

/-- Gives back everything that an error owns, and its own block, and forgets the error. -/
def destroy (s : Store) (e : FaultId) (f : Fault) : Store :=
  let s := f.documents.foldl (fun s cached => s.freeCached f.backend cached) s
  ((s.freeBuffer f.backend f.message).free f.backend f.block).forgetFault e

/-- Takes an error out of the registry of the context that it is attached to. -/
def untrackOwn (s : Store) (e : FaultId) (f : Fault) : Store :=
  match f.context with
  | some c => s.untrack c e
  | none => s

/-- Gives up a reference on an error, and with the last one the error and the reference that it
holds on its cause. -/
def release (s : Store) (e : FaultId) : Store :=
  match s.faults.get? e with
  | none => s
  | some f =>
    if f.refs = 1 then
      let s := (s.untrackOwn e f).destroy e f
      match f.cause with
      | some cause => if cause < e then s.release cause else s
      | none => s
    else
      s.modifyFault e fun f => { f with refs := f.refs - 1 }
termination_by e

end FaultChain.Store

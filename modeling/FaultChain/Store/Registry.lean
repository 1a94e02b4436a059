import FaultChain.Store.Basic

/-!
# Registries

Taking errors out of the registry of a context.  An entry's node goes back to the backend of the
context.  Putting errors in asks for memory and is told in `FaultChain.Store.Creation`.
-/

namespace FaultChain.Store

/-- Takes the latest entry of an error out of the registry of a context, if there is one. -/
def untrack (s : Store) (c : ContextId) (e : FaultId) : Store :=
  match s.contexts.get? c with
  | none => s
  | some context =>
    match context.registry.find? fun r => r.fault == e with
    | none => s
    | some entry =>
      let s := s.modifyContext c fun context =>
        { context with registry := context.registry.eraseP fun r => r.fault == e }
      s.free context.backend entry.node

/-- Cuts the link of an error to its context. -/
def detach (s : Store) (e : FaultId) : Store :=
  s.modifyFault e fun f => { f with context := none }

/-- Empties the registry of a context and detaches the errors in it; also tells how many entries
there were. -/
def detachRegistry (s : Store) (c : ContextId) : Store × Nat :=
  match s.contexts.get? c with
  | none => (s, 0)
  | some context =>
    let s := s.modifyContext c fun context => { context with registry := [] }
    let s := context.registry.foldl (fun s r => (s.detach r.fault).free context.backend r.node) s
    (s, context.registry.length)

end FaultChain.Store

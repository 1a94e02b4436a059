import FaultChain.Proofs.Disposal
import FaultChain.Proofs.Sessions

/-!
# What every operation keeps

`Invariant` leaves out the two operations that put errors into registries, or take them out, past
their links.  An invariant of stores alone that survives those as well is kept by whatever a user
does, in whatever order and however often, and by whatever backends let readers do meanwhile:
`Universal J` asks for the three changes that are missing, and `Universal.run` asks for nothing
else.

### What is load-bearing

Nothing is asked of an invariant but that it is about stores.  It may not look at what is held
outside of one, so it can not be a count; what it can say is that some things never come back, or
never change.  In exchange it holds over every run there is, with the raw operations on registries
and with counts that overflow, and there is no premise left to a theorem that rests on it.
-/

namespace FaultChain

open Memory (Block)

namespace Store

/-- An invariant of stores that every change keeps, also one that no link of an error answers for.
-/
structure Universal (J : Store → Prop) : Prop extends Invariant fun _ s => J s where
  retain : ∀ {s : Store} (e : FaultId), J s → J (s.retain e)
  /-- An entry is made for an error, wherever the error is attached. -/
  enroll : ∀ {s : Store} {c : ContextId} {context : Context} (entry : Registration), J s →
    s.contexts.get? c = some context → context.valid = true →
    J (s.modifyContext c fun context => { context with registry := entry :: context.registry })
  /-- An entry is taken out, wherever its error is attached. -/
  untrack : ∀ {s : Store} (c : ContextId) (e : FaultId), J s → J (s.untrack c e)

section Universal

variable {J : Store → Prop} {s : Store}

/-- Taking references is a change of errors like any other. -/
theorem Universal.takes (hJ : Universal J) (es : List FaultId) :
    Takes (fun _ s => J s) (fun _ s => J s) es :=
  fun _ _ h _ _ => foldl_retain (fun _ e h => hJ.retain e h) es h

/-- What is held outside is not looked at. -/
theorem Universal.blind (hJ : Universal J) : Blind fun _ s => J s :=
  fun o _ _ _ _ h => hJ.free (o := o) h

/-- Entering an error into a registry, whether or not its link leads there. -/
theorem Universal.track (hJ : Universal J) (h : J s) (c : ContextId) (e : FaultId) :
    J (s.track c e).1 := by
  unfold Store.track trackWith
  split
  · exact h
  next context hget =>
  split
  case isFalse => exact h
  next hvalid =>
  have hrequest := hJ.request (o := {}) h context.backend .node
  have hframe := (framed_reader s.waiting).requestWith s context.backend .node
  split
  · next s' heq =>
      rw [heq] at hrequest
      exact hrequest
  · next s' node heq =>
      rw [heq] at hrequest hframe
      -- Readers let in by the request leave the context valid.
      obtain ⟨context', hget', hbare⟩ := hframe.context hget
      exact hJ.enroll _ hrequest hget' ((Context.valid_of_bare hbare).trans hvalid)

end Universal

section Runs

variable {J : Store → Prop} {s : Session}

/-- **Every operation** keeps such an invariant. -/
theorem Universal.act (hJ : Universal J) (h : J s.store) (operation : Operation) :
    J (s.act operation).1.store := by
  cases hhook : operation.isHook with
  | false =>
      exact hJ.toInvariant.act hJ.toUpheld id hhook (hJ.takes _) (.inr hJ.blind) h
  | true =>
      cases operation with
      | track k l =>
          rw [Session.act]
          exact Session.of_withContext (P := fun s => J s.store) h fun c =>
            Session.of_withFault (P := fun s => J s.store) h fun e => hJ.track h c e
      | untrack k l =>
          rw [Session.act]
          exact Session.of_withContext (P := fun s => J s.store) h fun c =>
            Session.of_withFault (P := fun s => J s.store) h fun e => hJ.untrack c e h
      | _ => cases hhook

/-- An aborted session stays as it is. -/
theorem Universal.perform (hJ : Universal J) (h : J s.store) (operation : Operation) :
    J (s.perform operation).1.store := by
  unfold Session.perform
  split
  · exact h
  · exact hJ.act h operation

/-- **Every run** keeps such an invariant. -/
theorem Universal.run (hJ : Universal J) (h : J s.store) (operations : List Operation) :
    J (s.run operations).1.store := by
  induction operations generalizing s with
  | nil => exact h
  | cons operation rest ih => exact ih (hJ.perform h operation)

end Runs

end Store

end FaultChain

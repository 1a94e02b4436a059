import FaultChain.Proofs.Generations
import FaultChain.Proofs.Quiet

/-!
# Where nothing is read

Only readings render documents and retire them.  In a quiet store no reader is let in on the way of
a request, so every other operation leaves the documents of an error where they are, as long as the
error is there, and gives none to a new one.  `Store.Unread` says so of two stores, and this file
follows what is done to a store once.

### What is load-bearing

* **Nobody is let in.** A request of any operation would read whatever the readers who wait for it
  read, so without quiet stores the statement is false for nearly every function of the library.
  Quiet is part of `Unread` and is handed on with it: nothing but `letIn` makes readers wait, so a
  store that was quiet stays quiet.
* **Errors come and go.** Between two stores an error may be forgotten, and its key is never given
  out again; another may be new, and has no documents.  So the relation looks at the errors of the
  second store and says where each of them comes from, and it says nothing of those that have gone.
* **Links only end.** A document is present or stale by the generation of the context that its error
  is attached to.  An error may be detached between two stores, but it is never attached to another
  context (the last clause of `Unread.faults`), so what a document was rendered for stays what it is
  compared with.

The relation starts at a fixed store and is moved along the second one, change by change.  That is
why every lemma here is of the form that a store which was reached without reading, changed once
more, is one.
-/

namespace FaultChain

open Memory (Block Backend Layout)

namespace Store

/-- **No document was rendered or retired** between two stores, and nobody is let in after it.  An
error may have been detached. -/
structure Unread (s₀ s : Store) : Prop where
  quiet : s.Quiet
  faults : ∀ {e f}, s.faults.get? e = some f →
    (∃ f₀, s₀.faults.get? e = some f₀ ∧ f.cache = f₀.cache ∧ f.retired = f₀.retired ∧
      ∀ c, f.context = some c → f₀.context = some c) ∨ f.documents = []

section Changes

variable {s₀ s s' : Store} {e : FaultId}

/-- Between a quiet store and itself nothing was read. -/
theorem Unread.refl (hs : s.Quiet) : s.Unread s where
  quiet := hs
  faults hget := .inl ⟨_, hget, rfl, rfl, fun _ hlink => hlink⟩

/-- What neither backends nor errors notice leaves documents alone: a report to the log, or a change
of contexts. -/
theorem Unread.pass (h : s₀.Unread s) (hbackends : s'.backends = s.backends)
    (hfaults : s'.faults = s.faults) : s₀.Unread s' where
  quiet b backend hget := h.quiet b backend (hbackends ▸ hget)
  faults hget := h.faults (hfaults ▸ hget)

/-- A backend may count and record, as long as it does not come to have readers waiting. -/
theorem Unread.modifyBackend (h : s₀.Unread s) (b : BackendId) {g : Backend → Backend}
    (hg : ∀ backend, backend.reentries = [] → (g backend).reentries = []) :
    s₀.Unread (s.modifyBackend b g) where
  quiet := h.quiet.modifyBackend b hg
  faults hget := h.faults hget

/-- A block that is given back is recorded in the history of its backend. -/
theorem Unread.free (h : s₀.Unread s) (b : BackendId) (block : Block) :
    s₀.Unread (s.free b block) :=
  h.modifyBackend b fun _ hquiet => hquiet

/-- So are blocks that are given back one after another. -/
theorem Unread.freeAll (h : s₀.Unread s) (b : BackendId) (blocks : List Block) :
    s₀.Unread (s.freeAll b blocks) := by
  induction blocks generalizing s with
  | nil => exact h
  | cons block rest ih => exact ih (h.free b block)

/-- An error changes in other things than its documents, or is detached. -/
theorem Unread.modifyFault (h : s₀.Unread s) (e : FaultId) {g : Fault → Fault}
    (hg : ∀ f, (g f).cache = f.cache ∧ (g f).retired = f.retired ∧
      ∀ c, (g f).context = some c → f.context = some c) : s₀.Unread (s.modifyFault e g) where
  quiet := h.quiet
  faults := by
    intro e' f' hget
    rw [Store.modifyFault, Arena.get?_modify] at hget
    split at hget
    · next heq =>
        subst heq
        obtain ⟨f, hfault, rfl⟩ := Option.map_eq_some_iff.1 hget
        obtain ⟨hcache, hretired, hlink⟩ := hg f
        rcases h.faults hfault with ⟨f₀, hget₀, hcache₀, hretired₀, hlink₀⟩ | hnone
        · exact .inl ⟨f₀, hget₀, hcache.trans hcache₀, hretired.trans hretired₀,
            fun c hc => hlink₀ c (hlink c hc)⟩
        · refine .inr ?_
          rw [Fault.documents, hcache, hretired]
          exact hnone
    · exact h.faults hget

/-- An error that is forgotten is none of those that the relation is about. -/
theorem Unread.forgetFault (h : s₀.Unread s) (e : FaultId) : s₀.Unread (s.forgetFault e) where
  quiet := h.quiet
  faults := by
    intro e' f' hget
    rw [Store.forgetFault, Arena.get?_erase] at hget
    split at hget
    · cases hget
    · exact h.faults hget

/-- A new error has no documents. -/
theorem Unread.addFault (h : s₀.Unread s) {f : Fault} (hnone : f.documents = []) :
    s₀.Unread (s.addFault f) where
  quiet := h.quiet
  faults := by
    intro e' f' hget
    rw [Store.addFault, Arena.get?_insert] at hget
    split at hget
    · exact .inr (Option.some.inj hget ▸ hnone)
    · exact h.faults hget

/-- A reference is counted on the error, beside its documents. -/
theorem Unread.retain (h : s₀.Unread s) (e : FaultId) : s₀.Unread (s.retain e) :=
  h.modifyFault e fun _ => ⟨rfl, rfl, fun _ hlink => hlink⟩

/-- A detached error keeps its documents; that is what it can still show. -/
theorem Unread.detach (h : s₀.Unread s) (e : FaultId) : s₀.Unread (s.detach e) :=
  h.modifyFault e fun _ => ⟨rfl, rfl, nofun⟩

end Changes

/-! ## Requests

In a quiet store a request changes a backend, and no document lives there.
-/

section Requests

variable {s₀ s : Store}

/-- A request changes its backend and nothing else: in a quiet store there is nobody for the visitor
to be called for, so it does not matter what the visitor would do. -/
theorem Unread.requestWith (h : s₀.Unread s) (visit : Visitor) (b : BackendId) (layout : Layout) :
    s₀.Unread (s.requestWith visit b layout).1 := by
  cases hget : s.backends.get? b with
  | none =>
      rw [Store.requestWith, hget]
      exact h
  | some backend =>
      rw [h.quiet.requestWith hget]
      have hquiet := Backend.reentries_request (h.quiet b backend hget) layout
      exact h.modifyBackend b fun _ _ => hquiet

/-- A request for a buffer is a request, or none if there is no capacity for the length. -/
theorem Unread.requestBufferWith (h : s₀.Unread s) (visit : Visitor) (b : BackendId)
    (length : Nat) : s₀.Unread (s.requestBufferWith visit b length).1 := by
  unfold Store.requestBufferWith
  split
  · exact h
  next layout _ =>
  have hrequest := h.requestWith visit b layout
  split
  all_goals
    next heq =>
      rw [heq] at hrequest
      exact hrequest

/-- A request for a buffer with given bytes in it is a request, whatever the bytes. -/
theorem Unread.requestCopyWith (h : s₀.Unread s) (visit : Visitor) (b : BackendId)
    (bytes : ByteArray) : s₀.Unread (s.requestCopyWith visit b bytes).1 := by
  have hrequest := h.requestBufferWith visit b bytes.size
  unfold Store.requestCopyWith
  split
  all_goals
    next heq =>
      rw [heq] at hrequest
      exact hrequest

/-- Copying a text is a request, and the copy is no document: it belongs to whoever asked. -/
theorem Unread.copyTextWith (h : s₀.Unread s) (visit : Visitor) (b : BackendId) (text : String) :
    s₀.Unread (s.copyTextWith visit b text).1 := by
  have hrequest := h.requestCopyWith visit b text.toUTF8
  unfold Store.copyTextWith
  split
  all_goals
    next heq =>
      rw [heq] at hrequest
      exact hrequest

/-- Copying a message is copying a text.  Copying a document is not here, as it may render one. -/
theorem Unread.copyMessage (h : s₀.Unread s) (c : ContextId) (e : FaultId) :
    s₀.Unread (s.copyMessage c e).1 := by
  unfold Store.copyMessage copyMessageWith
  split
  · exact h
  · split
    · exact h.copyTextWith _ _ _
    · exact h

/-- A block on loan is a request of the backend of a context. -/
theorem Unread.allocate (h : s₀.Unread s) (c : ContextId) (layout : Layout) :
    s₀.Unread (s.allocate c layout).1 := by
  unfold Store.allocate allocateWith
  split
  · exact h
  next context _ =>
  split
  · have hrequest := h.requestWith (reader s.waiting) context.backend layout
    split
    all_goals
      next heq =>
        rw [heq] at hrequest
        exact hrequest
  · exact h

/-- A loan that is given back is given to the backend of a context, or to nobody if that is gone. -/
theorem Unread.freeThrough (h : s₀.Unread s) (c : ContextId) (block : Block) :
    s₀.Unread (s.freeThrough c block).1 := by
  unfold Store.freeThrough
  split
  · exact h
  · split
    · exact h.free _ _
    · exact h

/-- A new backend has nobody waiting. -/
theorem Unread.openBackend (h : s₀.Unread s) (limit : Option Nat) (rule : Memory.Rule) :
    s₀.Unread (s.openBackend limit rule).1 where
  quiet := by
    intro b backend hget
    rw [Store.openBackend, Arena.get?_insert] at hget
    split at hget
    · rw [← Option.some.inj hget]
    · exact h.quiet b backend hget
  faults hget := h.faults hget

end Requests

/-! ## Errors come and go

An error that goes takes its documents along, and a new one has none.  Both leave the documents of
all others as they are.
-/

section Faults

variable {s₀ s : Store}

/-- An entry of a registry is taken out and its block given back; the error itself is not looked
at. -/
theorem Unread.untrack (h : s₀.Unread s) (c : ContextId) (e : FaultId) :
    s₀.Unread (s.untrack c e) := by
  unfold Store.untrack
  split
  · exact h
  · split
    · exact h
    · refine Unread.free (h.pass ?_ ?_) _ _ <;> rfl

/-- An error goes out of the registry of the context that it is linked to. -/
theorem Unread.untrackOwn (h : s₀.Unread s) (e : FaultId) (f : Fault) :
    s₀.Unread (s.untrackOwn e f) := by
  unfold Store.untrackOwn
  split
  · exact h.untrack _ e
  · exact h

/-- **A release** destroys errors and gives up references.  The errors that it destroys are gone,
and of the ones that are left only the counts of references have changed. -/
theorem Unread.release (h : s₀.Unread s) (e : FaultId) : s₀.Unread (s.release e) := by
  induction e using Nat.strongRecOn generalizing s with
  | _ e ih =>
      unfold Store.release
      split
      · exact h
      next f _ =>
      split
      · have hdestroyed : s₀.Unread ((s.untrackOwn e f).destroy e f) := by
          rw [destroy_eq]
          exact ((h.untrackOwn e f).forgetFault e).freeAll _ _
        dsimp only
        split
        · next cause _ =>
            split
            · next holder => exact ih cause holder hdestroyed
            · exact hdestroyed
        · exact hdestroyed
      · exact h.modifyFault e fun _ => ⟨rfl, rfl, fun _ hlink => hlink⟩

/-- Detaching one error after another leaves the documents of each of them. -/
theorem Unread.detachAll (h : s₀.Unread s) (es : List FaultId) : s₀.Unread (s.detachAll es) := by
  induction es generalizing s with
  | nil => exact h
  | cons e es ih => exact ih (h.detach e)

/-- So does emptying a registry, which gives the blocks of its entries back besides. -/
theorem Unread.detachRegistry (h : s₀.Unread s) (c : ContextId) :
    s₀.Unread (s.detachRegistry c).1 := by
  cases hget : s.contexts.get? c with
  | none =>
      rw [Store.detachRegistry, hget]
      exact h
  | some context =>
      rw [detachRegistry_eq s hget]
      refine Unread.freeAll (Unread.detachAll (h.pass ?_ ?_) _) _ _ <;> rfl

/-- Making an entry in a registry is a request and a change of a context. -/
theorem Unread.trackWith (h : s₀.Unread s) (visit : Visitor) (c : ContextId) (e : FaultId) :
    s₀.Unread (s.trackWith visit c e).1 :=
  of_trackWith h (fun b => h.requestWith visit b .node) fun _ _ h => h.pass rfl rfl

/-- A new error without documents is put into the store and into the registry of its context, and it
is detached if there is no block for its entry. -/
theorem Unread.registerWith (h : s₀.Unread s) (visit : Visitor) (c : ContextId) {fault : Fault}
    (hnone : fault.documents = []) : s₀.Unread (s.registerWith visit c fault).1 := by
  have hretained : s₀.Unread (fault.cause.toList.foldl Store.retain s) :=
    foldl_retain (fun _ e h => h.retain e) _ h
  rw [registerWith_eq]
  dsimp only
  generalize fault.cause.toList.foldl Store.retain s = s₁ at hretained
  have htrack := (hretained.addFault hnone).trackWith visit c s₁.faults.next
  split
  · next heq =>
      rw [heq] at htrack
      exact htrack
  · next heq =>
      rw [heq] at htrack
      refine Unread.detach (htrack.pass ?_ ?_) _ <;> rfl

/-- Formatting a message is one request, between two passes over an argument that is no part of the
store. -/
theorem Unread.formatWith (h : s₀.Unread s) (visit : Visitor) (b : BackendId)
    (argument : Message.Argument) : s₀.Unread (s.formatWith visit b argument).1 := by
  unfold Store.formatWith
  split
  · exact h
  next length _ =>
  have hrequest := h.requestBufferWith visit b length
  split
  all_goals
    next heq =>
      rw [heq] at hrequest
      exact hrequest

/-- **Creating an error** adds one without documents. -/
theorem Unread.create (h : s₀.Unread s) (c : ContextId) (draft : Draft) (cause : Option FaultId) :
    s₀.Unread (s.create c draft cause).1 := by
  unfold Store.create createWith
  split
  · exact h
  next context _ =>
  split
  case isFalse => exact h
  dsimp only
  have hrequest := h.requestWith (reader s.waiting) context.backend .fault
  split
  · next heq =>
      rw [heq] at hrequest
      exact hrequest
  next s₁ block heq =>
  rw [heq] at hrequest
  have hformat := hrequest.formatWith (reader s.waiting) context.backend draft.message
  split
  · next heq' =>
      rw [heq'] at hformat
      exact hformat.free _ _
  · next heq' =>
      rw [heq'] at hformat
      exact hformat.registerWith _ _ rfl

end Faults

/-! ## Contexts

A context has no documents.  A new generation makes documents stale, but does not touch them.
-/

section Contexts

variable {s₀ s : Store}

/-- Creating a context is a request; a context that comes to be has no errors yet. -/
theorem Unread.createContext (h : s₀.Unread s) (b : BackendId) (settings : Settings) :
    s₀.Unread (s.createContext b settings).1 := by
  unfold Store.createContext createContextWith
  split
  · exact h
  have hrequest := h.requestWith (reader s.waiting) b .context
  split
  · next heq =>
      rw [heq] at hrequest
      exact hrequest
  · next heq =>
      rw [heq] at hrequest
      exact hrequest.pass rfl rfl

/-- Releasing a handle on a context may change its count and its generation and give its block back.
The generation is what makes documents stale, but a stale document is still on its error until
somebody reads. -/
theorem Unread.releaseContext (h : s₀.Unread s) (c : ContextId) (diagnostics : Bool) :
    s₀.Unread (s.releaseContext c diagnostics).1 := by
  cases hget : s.contexts.get? c with
  | none =>
      rw [Store.releaseContext, hget]
      exact h
  | some context =>
      rw [releaseContext_released hget]
      cases context.outcome diagnostics with
      | destroyed => exact (Unread.free (h.pass rfl rfl) _ _).pass rfl rfl
      | _ => exact h.pass rfl rfl

/-- Dropping a handle is releasing it, or leaving the context behind. -/
theorem Unread.dropContext (h : s₀.Unread s) (c : ContextId) : s₀.Unread (s.dropContext c).1 := by
  have hrelease := h.releaseContext c Verdict.diagnosing
  unfold Store.dropContext
  split
  · next heq =>
      rw [heq] at hrelease
      exact hrelease.pass rfl rfl
  · exact hrelease

end Contexts

end Store

end FaultChain

import FaultChain.Proofs.Generations
import FaultChain.Proofs.Hooks

/-!
# What a destroyed context still does

Nothing.  A context that was destroyed keeps its key and may have handles left.  It never becomes
valid again and its registry stays empty (`universal_buried`), whatever else is done.  Every
operation that goes through a handle on it finds that out before it asks a backend for anything,
formats a message, takes a reference, renders a document or gives anything back: `Store.Gone` has an
equation for each, and `Session.Inert` puts them together.

### What is load-bearing

That such a context has no errors registered comes from the verdict on its last release, not from
the release emptying the registry; emptying a registry once more is a no-op for that reason alone.

### Two kinds of statement

* **For ever.** That a context does not come back is about every change there is, raw changes of
  registries and readers who are let in included, so it is one of the `Universal` invariants.  It is
  stated of a set of contexts (`Buried`), for there may be any number of them, and together with
  their empty registries, which it is preserved with.
* **In vain.** That an operation does nothing is an equation of whole sessions, with what it answers
  (`Session.Inert`).  It says more than that the store is as it was: no backend has counted a
  request, no line has been reported, and no reader has been let in.

Handles themselves are the exception.  One can be taken on a context that is gone, and one can be
dropped, so a run of vain operations does change which handles are held, and `Session.Idle` says
that this is all.
-/

namespace FaultChain

open Memory (Layout)

namespace Store

/-- A context was there and was destroyed.  Its key stays, with a record that is marked, so that
handles which outlive it can find out. -/
def Gone (s : Store) (c : ContextId) : Prop :=
  ∃ context, s.contexts.get? c = some context ∧ context.valid = false

instance (s : Store) (c : ContextId) : Decidable (s.Gone c) :=
  inferInstanceAs (Decidable (∃ context ∈ s.contexts.get? c, context.valid = false))

/-- The contexts of a set are gone, and whatever is gone has no errors registered.  The second
clause is about all contexts, as a context that comes to be gone has to satisfy it on the spot. -/
structure Buried (D : ContextId → Prop) (s : Store) : Prop where
  gone : ∀ c, D c → s.Gone c
  empty : ∀ {c context}, s.contexts.get? c = some context → context.valid = false →
    context.registry = []

section Buried

variable {D : ContextId → Prop} {s s' : Store} {c : ContextId} {context : Context}

/-- What leaves contexts alone leaves them gone. -/
theorem Buried.pass (h : s.Buried D) (hcontexts : s'.contexts = s.contexts) : s'.Buried D where
  gone c hc := by
    unfold Gone
    rw [hcontexts]
    exact h.gone c hc
  empty hget := h.empty (hcontexts ▸ hget)

/-- A context changes, and does not come back. -/
theorem Buried.modifyContext (h : s.Buried D) (c : ContextId) {g : Context → Context}
    (hdead : ∀ context, s.contexts.get? c = some context → context.valid = false →
      (g context).valid = false)
    (hempty : ∀ context, s.contexts.get? c = some context → (g context).valid = false →
      (context.valid = false → context.registry = []) → (g context).registry = []) :
    (s.modifyContext c g).Buried D where
  gone c' hc' := by
    obtain ⟨context, hget, hvalid⟩ := h.gone c' hc'
    unfold Gone
    rw [Store.modifyContext, Arena.get?_modify]
    split
    · next heq =>
        subst heq
        rw [hget]
        exact ⟨g context, rfl, hdead context hget hvalid⟩
    · exact ⟨context, hget, hvalid⟩
  empty := by
    intro c' context' hget' hvalid'
    rw [Store.modifyContext, Arena.get?_modify] at hget'
    split at hget'
    · next heq =>
        subst heq
        obtain ⟨context, hget, rfl⟩ := Option.map_eq_some_iff.1 hget'
        exact hempty context hget hvalid' (h.empty hget)
    · exact h.empty hget' hvalid'

/-- A context changes in other things than its validity, and stays empty if it is gone. -/
theorem Buried.keepValid (h : s.Buried D) (c : ContextId) {g : Context → Context}
    (hvalid : ∀ context, s.contexts.get? c = some context → (g context).valid = context.valid)
    (hempty : ∀ context, s.contexts.get? c = some context → context.valid = false →
      context.registry = [] → (g context).registry = []) : (s.modifyContext c g).Buried D :=
  h.modifyContext c (fun context hget hdead => (hvalid context hget).trans hdead)
    fun context hget hdead hnone =>
      have hdead := (hvalid context hget).symm.trans hdead
      hempty context hget hdead (hnone hdead)

/-- A new context is valid, and has a new key. -/
theorem Buried.addContext (h : s.Buried D) (hvalid : context.valid = true) :
    (s.addContext context).Buried D where
  gone c hc := by
    obtain ⟨old, hget, hdead⟩ := h.gone c hc
    refine ⟨old, ?_, hdead⟩
    rw [Store.addContext, Arena.get?_insert, if_neg (Nat.ne_of_lt (Arena.lt_next_of_get? hget))]
    exact hget
  empty := by
    intro c context' hget hdead
    rw [Store.addContext, Arena.get?_insert] at hget
    split at hget
    · obtain rfl := Option.some.inj hget
      rw [hvalid] at hdead
      cases hdead
    · exact h.empty hget hdead

/-- An entry less in a registry that is empty makes no difference. -/
theorem Buried.untrack (h : s.Buried D) (c : ContextId) (e : FaultId) :
    (s.untrack c e).Buried D := by
  unfold Store.untrack
  split
  · exact h
  split
  · exact h
  · refine Buried.pass (h.keepValid c (g := fun context =>
      { context with registry := context.registry.eraseP fun r => r.fault == e })
      (fun _ _ => rfl) fun _ _ _ hnone => ?_) rfl
    rw [hnone]
    rfl

/-- An emptied registry is empty. -/
theorem Buried.detachRegistry (h : s.Buried D) (c : ContextId) :
    (s.detachRegistry c).1.Buried D := by
  cases hget : s.contexts.get? c with
  | none =>
      rw [Store.detachRegistry, hget]
      exact h
  | some context =>
      rw [detachRegistry_eq s hget]
      refine (h.keepValid c (g := fun context => { context with registry := [] }) (fun _ _ => rfl)
        fun _ _ _ _ => rfl).pass ?_
      rw [contexts_freeAll, contexts_detachAll]

/-- **What is gone stays gone**, whatever is done and whoever is let in. -/
theorem universal_buried (D : ContextId → Prop) : Universal (Buried D) where
  enter h _ := h.pass rfl
  settle _ _ h _ _ := h.pass rfl
  free h := h.pass rfl
  absent h _ := h
  lessen h _ _ := h.pass rfl
  destroy {_ s e f} h _ _ := by
    rw [destroy_eq]
    refine Buried.pass (s := s.untrackOwn e f) ?_ (contexts_freeAll _ _ _)
    unfold untrackOwn
    split
    · exact h.untrack _ e
    · exact h
  evict _ h := h.pass rfl
  install h _ _ _ _ _ := h.pass rfl
  emit _ _ _ h := h.pass rfl
  openBackend _ _ h := h.pass rfl
  failNext _ _ h := h.pass rfl
  arrange h _ := h.pass rfl
  add h _ _ _ _ _ := h.pass rfl
  -- Nothing is entered into the registry of a context that is not valid.
  enlist {_ s _ c _ _} h _ hget hvalid _ _ := by
    refine h.keepValid c (fun _ _ => rfl) fun context' hget' hdead _ => ?_
    obtain rfl := Option.some.inj (hget.symm.trans hget')
    rw [hvalid] at hdead
    cases hdead
  dismiss h _ := h.pass rfl
  detachRegistry c h _ := h.detachRegistry c
  addContext h _ := h.addContext rfl
  adjust {_ s c g} h hg := by
    refine h.keepValid c (fun context _ => ?_) fun context _ _ hnone => ?_
    · exact (congrArg Context.valid (hg context) :)
    · exact (congrArg Context.registry (hg context) :).trans hnone
  close {_ s c context context'} h hget _ hnone _ _ := by
    refine Buried.pass (h.modifyContext c (g := fun context => { context with valid := false })
      (fun _ _ _ => rfl) fun context'' hget'' _ _ => ?_) rfl
    obtain rfl := Option.some.inj (hget.symm.trans hget'')
    exact hnone
  retain _ h := h.pass rfl
  enroll {s c context} _ h hget hvalid := by
    refine h.keepValid c (fun _ _ => rfl) fun context' hget' hdead _ => ?_
    obtain rfl := Option.some.inj (hget.symm.trans hget')
    rw [hvalid] at hdead
    cases hdead
  untrack c e h := h.untrack c e

end Buried

/-! ## What a context that is gone is asked for

Each function of the store that takes a context looks at its validity before it does anything, or at
its registry, which is empty.  So there is one equation for each, with the store as it was on its
right side.
-/

section Gone

variable {s : Store} {c : ContextId}

/-- A change that changes nothing, where it is made. -/
theorem modifyContext_eq_self {context : Context} {g : Context → Context}
    (hget : s.contexts.get? c = some context) (hg : g context = context) :
    s.modifyContext c g = s := by
  refine congrArg (fun contexts => { s with contexts })
    (Arena.modify_eq_self fun context' hget' => ?_)
  rw [← Option.some.inj (hget.symm.trans hget'), hg]

/-- A new error is refused before anything is formatted or asked for. -/
theorem Gone.create (h : s.Gone c) (draft : Draft) (cause : Option FaultId) :
    s.create c draft cause = (s, .error .invalidContext) := by
  obtain ⟨context, hget, hvalid⟩ := h
  simp only [Store.create, createWith, hget, hvalid, Bool.false_eq_true, if_false]

/-- No document is rendered for a copy that could not be made. -/
theorem Gone.copyDocument (h : s.Gone c) (e : FaultId) (passes : Document.Passes) :
    s.copyDocument c e passes = (s, .error .invalidContext) := by
  obtain ⟨context, hget, hvalid⟩ := h
  simp only [Store.copyDocument, copyDocumentWith, hget, hvalid, Bool.false_eq_true, if_false]

/-- Nor is a message copied. -/
theorem Gone.copyMessage (h : s.Gone c) (e : FaultId) :
    s.copyMessage c e = (s, .error .invalidContext) := by
  obtain ⟨context, hget, hvalid⟩ := h
  simp only [Store.copyMessage, copyMessageWith, hget, hvalid, Bool.false_eq_true, if_false]

/-- Nothing is asked of the backend, although that is still there. -/
theorem Gone.allocate (h : s.Gone c) (layout : Layout) : s.allocate c layout = (s, none) := by
  obtain ⟨context, hget, hvalid⟩ := h
  simp only [Store.allocate, allocateWith, hget, hvalid, Bool.false_eq_true, if_false]

/-- A block on loan is not given back, and stays with whoever holds it. -/
theorem Gone.freeThrough (h : s.Gone c) (block : Memory.Block) :
    s.freeThrough c block = (s, false) := by
  obtain ⟨context, hget, hvalid⟩ := h
  simp only [Store.freeThrough, hget, hvalid, Bool.false_eq_true, if_false]

/-- No entry is made. -/
theorem Gone.track (h : s.Gone c) (e : FaultId) : s.track c e = (s, false) := by
  obtain ⟨context, hget, hvalid⟩ := h
  simp only [Store.track, trackWith, hget, hvalid, Bool.false_eq_true, if_false]

/-- A reference on a context that is gone is not counted. -/
theorem Gone.retainContext (h : s.Gone c) : s.retainContext c = s := by
  obtain ⟨context, hget, hvalid⟩ := h
  refine modifyContext_eq_self hget ?_
  rw [hvalid]
  rfl

/-- A release answers that the handle is invalid, and counts nothing down. -/
theorem Gone.releaseContext (h : s.Gone c) (diagnostics : Bool) :
    s.releaseContext c diagnostics = (s, .invalid) := by
  obtain ⟨context, hget, hvalid⟩ := h
  simp only [Store.releaseContext, hget, hvalid, Bool.not_false, if_true]

/-- Dropping a handle is the same to the store. -/
theorem Gone.dropContext (h : s.Gone c) : s.dropContext c = (s, .invalid) := by
  unfold Store.dropContext
  rw [h.releaseContext]

variable {D : ContextId → Prop}

/-- There is no entry to be removed, as the registry is empty. -/
theorem Gone.untrack (h : s.Gone c) (hs : s.Buried D) (e : FaultId) : s.untrack c e = s := by
  obtain ⟨context, hget, hvalid⟩ := h
  simp only [Store.untrack, hget, hs.empty hget hvalid, List.find?_nil]

/-- There is nobody to be detached. -/
theorem Gone.detachRegistry (h : s.Gone c) (hs : s.Buried D) : s.detachRegistry c = (s, 0) := by
  obtain ⟨context, hget, hvalid⟩ := h
  have hempty := hs.empty hget hvalid
  have hsame : s.modifyContext c (fun context => { context with registry := [] }) = s :=
    modifyContext_eq_self hget (by rw [← hempty])
  simp only [Store.detachRegistry, hget, hsame, hempty, List.foldl_nil, List.length_nil]

end Gone

end Store

/-- The handle on a context that an operation goes through.  Creating a context and reading an error
go through none. -/
def Operation.through : Operation → Option Handle
  | .retainContext h | .releaseContext h .. | .dropContext h | .allocate h _ | .free h _
  | .detachRegistry h | .track h _ | .untrack h _ | .createFault h .. | .copyDocument h ..
  | .copyMessage h _ => some h
  | _ => none

namespace Session

/-! ## Handles on such a context

The same equations for the operations, with their answers.  They are collected in one structure, as
a user would ask for them.
-/

/-- **What a handle on a context that is gone is good for.**  Nothing that is asked through it
changes anything, and each operation says so in its own way.  Another handle can be taken on the
context, and this one can be dropped, but neither is counted anywhere. -/
structure Inert (s : Session) (h : Handle) (c : ContextId) : Prop where
  createFault : ∀ draft, s.perform (.createFault h draft none) = (s, .failed .invalidContext)
  createFaultOver : ∀ {k e}, s.faults.get? k = some e → ∀ draft,
    s.perform (.createFault h draft (some k)) = (s, .failed .invalidContext)
  copyDocument : ∀ {k e}, s.faults.get? k = some e → ∀ passes,
    s.perform (.copyDocument h k passes) = (s, .failed .invalidContext)
  copyMessage : ∀ {k e}, s.faults.get? k = some e →
    s.perform (.copyMessage h k) = (s, .failed .invalidContext)
  allocate : ∀ layout, s.perform (.allocate h layout) = (s, .nothing)
  free : ∀ {k loan}, s.loans.get? k = some loan → s.perform (.free h k) = (s, .flag false)
  track : ∀ {k e}, s.faults.get? k = some e → s.perform (.track h k) = (s, .flag false)
  untrack : ∀ {k e}, s.faults.get? k = some e → s.perform (.untrack h k) = (s, .done)
  detachRegistry : s.perform (.detachRegistry h) = (s, .count 0)
  retainContext : s.perform (.retainContext h) = (s.holdContext c, .key s.contexts.next)
  releaseContext : ∀ diagnostics keep,
    s.perform (.releaseContext h diagnostics keep) = (s, .released .invalid)
  dropContext : s.perform (.dropContext h) = (s.forgetContext h, .done)

section Inert

variable {s : Session} {h : Handle} {c : ContextId} {D : ContextId → Prop}

/-- **Every handle on a context that is gone is inert.** Each part is the equation of the store for
the function that the operation calls. -/
theorem inert_of_gone (hs : s.store.Buried D) (hrunning : s.aborted = false)
    (hh : s.contexts.get? h = some c) (hgone : s.store.Gone c) : s.Inert h c where
  createFault draft := by
    rw [perform_eq hrunning, act, withContext_of_get? hh, Session.createFault, onStore_eq,
      hgone.create]
  createFaultOver hk draft := by
    rw [perform_eq hrunning, act, withContext_of_get? hh, withFault_of_get? hk,
      Session.createFault, onStore_eq, hgone.create]
  copyDocument hk passes := by
    rw [perform_eq hrunning, act, withContext_of_get? hh, withFault_of_get? hk, onStore_eq,
      hgone.copyDocument, keepCopy]
  copyMessage hk := by
    rw [perform_eq hrunning, act, withContext_of_get? hh, withFault_of_get? hk, onStore_eq,
      hgone.copyMessage, keepCopy]
  allocate layout := by
    rw [perform_eq hrunning, act, withContext_of_get? hh, Session.allocate, onStore_eq,
      hgone.allocate]
  free hk := by
    rw [perform_eq hrunning, act, withContext_of_get? hh, withLoan, hk]
    dsimp only
    rw [Session.free, onStore_eq, hgone.freeThrough]
  track hk := by
    rw [perform_eq hrunning, act, withContext_of_get? hh, withFault_of_get? hk, onStore_eq,
      hgone.track]
  untrack hk := by
    rw [perform_eq hrunning, act, withContext_of_get? hh, withFault_of_get? hk, changeStore,
      hgone.untrack hs]
  detachRegistry := by
    rw [perform_eq hrunning, act, withContext_of_get? hh, onStore_eq, hgone.detachRegistry hs]
  retainContext := by
    rw [perform_eq hrunning, act, withContext_of_get? hh, Session.retainContext, changeStore,
      hgone.retainContext]
  releaseContext diagnostics keep := by
    rw [perform_eq hrunning, act, withContext_of_get? hh, Session.releaseContext, onStore_eq,
      hgone.releaseContext]
  dropContext := by
    rw [perform_eq hrunning, act, withContext_of_get? hh, Session.dropContext, onStore_eq,
      hgone.dropContext]

end Inert

/-! ## Operations through such handles

A session may gain and lose handles on a context that is gone, so such operations do not leave it as
it was; they leave everything else.
-/

/-- Whether an operation goes through a handle on a context that is gone. -/
def IsVain (s : Session) (operation : Operation) : Prop :=
  ∃ h ∈ operation.through, ∃ c ∈ s.contexts.get? h, s.store.Gone c

instance (s : Session) (operation : Operation) : Decidable (s.IsVain operation) :=
  inferInstanceAs (Decidable (∃ h ∈ operation.through, ∃ c ∈ s.contexts.get? h, s.store.Gone c))

/-- Two sessions differ in the handles on contexts that are gone, and in nothing else.  Both
directions are needed: no other handle has come up, and none was lost. -/
structure Idle (s s' : Session) : Prop where
  store : s'.store = s.store
  faults : s'.faults = s.faults
  copies : s'.copies = s.copies
  loans : s'.loans = s.loans
  aborted : s'.aborted = s.aborted
  contexts : ∀ {h c}, s'.contexts.get? h = some c →
    s.contexts.get? h = some c ∨ s.store.Gone c
  others : ∀ {h c}, s.contexts.get? h = some c →
    s'.contexts.get? h = some c ∨ s.store.Gone c

section Idle

variable {s s' s'' : Session} {h : Handle} {c : ContextId} {D : ContextId → Prop}
  {operation : Operation}

/-- A session idles while nothing is done. -/
theorem Idle.refl (s : Session) : s.Idle s where
  store := rfl
  faults := rfl
  copies := rfl
  loans := rfl
  aborted := rfl
  contexts := .inl
  others := .inl

/-- Idling goes on.  That a handle is on a context which is gone does not depend on when it is
asked, as the store is the same. -/
theorem Idle.trans (h : s.Idle s') (h' : s'.Idle s'') : s.Idle s'' where
  store := h'.store.trans h.store
  faults := h'.faults.trans h.faults
  copies := h'.copies.trans h.copies
  loans := h'.loans.trans h.loans
  aborted := h'.aborted.trans h.aborted
  contexts hget := (h'.contexts hget).elim h.contexts fun hgone => .inr (h.store ▸ hgone)
  others hget := (h.others hget).elim (fun hget' => (h'.others hget').imp_right (h.store ▸ ·)) .inr

/-- Another handle on a context that is gone is held. -/
theorem idle_holdContext (hgone : s.store.Gone c) : s.Idle (s.holdContext c) :=
  { Idle.refl s with
    contexts := by
      intro h c' hget
      rw [holdContext, Arena.get?_insert] at hget
      split at hget
      · exact .inr (Option.some.inj hget ▸ hgone)
      · exact .inl hget
    others := by
      intro h c' hget
      refine .inl ?_
      rw [holdContext, Arena.get?_insert, if_neg (Nat.ne_of_lt (Arena.lt_next_of_get? hget))]
      exact hget }

/-- A handle on a context that is gone is dropped. -/
theorem idle_forgetContext (hh : s.contexts.get? h = some c) (hgone : s.store.Gone c) :
    s.Idle (s.forgetContext h) :=
  { Idle.refl s with
    contexts := by
      intro k c' hget
      rw [forgetContext, Arena.get?_erase] at hget
      split at hget
      · cases hget
      · exact .inl hget
    others := by
      intro k c' hget
      rw [forgetContext, Arena.get?_erase]
      split
      · next heq =>
          subst heq
          exact .inr (Option.some.inj (hh.symm.trans hget) ▸ hgone)
      · exact .inl hget }

/-- An operation that leaves the session as it is idles, whatever it answers. -/
theorem idle_of_eq {after : Session × Outcome} {x : Outcome} (h : after = (s, x)) :
    s.Idle after.1 := by
  rw [h]
  exact .refl s

/-- An operation that names an error is answered with `absent` where that error is not held. -/
theorem idle_naming {k : Handle} {x : Outcome}
    (hheld : ∀ {e}, s.faults.get? k = some e → s.perform operation = (s, x))
    (habsent : s.faults.get? k = none → s.perform operation = (s, .absent)) :
    s.Idle (s.perform operation).1 := by
  cases hk : s.faults.get? k with
  | none => exact idle_of_eq (habsent hk)
  | some e => exact idle_of_eq (hheld hk)

/-- **An operation through a handle on a context that is gone** idles. -/
theorem idle_of_isVain (hs : s.store.Buried D) (hvain : s.IsVain operation) :
    s.Idle (s.perform operation).1 := by
  cases hrunning : s.aborted with
  | true =>
      rw [perform, hrunning]
      exact .refl s
  | false =>
  obtain ⟨h, hthrough, c, hh, hgone⟩ := hvain
  have hinert := inert_of_gone hs hrunning hh hgone
  -- The handle is on a context that is gone, so each case is its answer to that. Some operations
  -- name an error as well, which may not be held.
  cases operation with
  | retainContext k =>
      obtain rfl := Option.some.inj hthrough
      rw [hinert.retainContext]
      exact idle_holdContext hgone
  | releaseContext k diagnostics keep =>
      obtain rfl := Option.some.inj hthrough
      exact idle_of_eq (hinert.releaseContext diagnostics keep)
  | dropContext k =>
      obtain rfl := Option.some.inj hthrough
      rw [hinert.dropContext]
      exact idle_forgetContext hh hgone
  | allocate k layout =>
      obtain rfl := Option.some.inj hthrough
      exact idle_of_eq (hinert.allocate layout)
  | free k l =>
      obtain rfl := Option.some.inj hthrough
      cases hl : s.loans.get? l with
      | none =>
          rw [perform_eq hrunning, act, withContext_of_get? hh, withLoan, hl]
          exact .refl s
      | some loan => exact idle_of_eq (hinert.free hl)
  | detachRegistry k =>
      obtain rfl := Option.some.inj hthrough
      exact idle_of_eq hinert.detachRegistry
  | track k l =>
      obtain rfl := Option.some.inj hthrough
      refine idle_naming hinert.track fun hl => ?_
      rw [perform_eq hrunning, act, withContext_of_get? hh, withFault, hl]
  | untrack k l =>
      obtain rfl := Option.some.inj hthrough
      refine idle_naming hinert.untrack fun hl => ?_
      rw [perform_eq hrunning, act, withContext_of_get? hh, withFault, hl]
  | createFault k draft cause =>
      obtain rfl := Option.some.inj hthrough
      cases cause with
      | none => exact idle_of_eq (hinert.createFault draft)
      | some l =>
          refine idle_naming (fun hl => hinert.createFaultOver hl draft) fun hl => ?_
          rw [perform_eq hrunning, act, withContext_of_get? hh, withFault, hl]
  | copyDocument k l passes =>
      obtain rfl := Option.some.inj hthrough
      refine idle_naming (fun hl => hinert.copyDocument hl passes) fun hl => ?_
      rw [perform_eq hrunning, act, withContext_of_get? hh, withFault, hl]
  | copyMessage k l =>
      obtain rfl := Option.some.inj hthrough
      refine idle_naming hinert.copyMessage fun hl => ?_
      rw [perform_eq hrunning, act, withContext_of_get? hh, withFault, hl]
  | _ => cases hthrough

/-- A run of such operations idles, in whatever order they come. -/
theorem idle_of_throughout {operations : List Operation} (hs : s.store.Buried D)
    (hvain : Throughout IsVain s operations) : s.Idle (s.run operations).1 := by
  induction operations generalizing s with
  | nil => exact .refl s
  | cons operation rest ih =>
      have hfirst := idle_of_isVain hs hvain.1
      exact hfirst.trans (ih (hs.pass (congrArg Store.contexts hfirst.store)) hvain.2)

end Idle

/-! ## Runs

That a context is gone is for good, whatever happens otherwise.  So a run may be made of such
operations alone, or have any others between them.
-/

/-- Before anything is done there are no contexts, so those that are gone have empty registries. -/
theorem buried_start (log : Log) : (start log).store.Buried fun _ => False where
  gone _ hfalse := hfalse.elim
  empty hget := by
    rw [start, Arena.get?_empty] at hget
    cases hget

/-- What is gone stays gone in every run. -/
theorem gone_run {s : Session} {c : ContextId} (hs : s.store.Buried fun _ => False)
    (hgone : s.store.Gone c) (operations : List Operation) :
    (s.run operations).1.store.Gone c := by
  have hburied : s.store.Buried (· = c) := ⟨fun _ heq => heq ▸ hgone, hs.empty⟩
  exact ((Store.universal_buried _).run hburied operations).gone c rfl

/-- A release that answers `destroyed` leaves the context gone. -/
theorem gone_of_destroyed {s : Session} {h : Handle} {diagnostics keep : Bool}
    (hanswer : (s.perform (.releaseContext h diagnostics keep)).2 = .released .destroyed) :
    ∃ c, s.contexts.get? h = some c ∧
      (s.perform (.releaseContext h diagnostics keep)).1.store.Gone c := by
  unfold perform at hanswer ⊢
  split at hanswer
  · cases hanswer
  next hrunning =>
  rw [if_neg hrunning]
  rw [act, withContext] at hanswer ⊢
  cases hh : s.contexts.get? h with
  | none =>
      rw [hh] at hanswer
      cases hanswer
  | some c =>
  rw [hh] at hanswer
  dsimp only at hanswer ⊢
  refine ⟨c, rfl, ?_⟩
  obtain ⟨hstore, -⟩ := releaseContext_eq s h c diagnostics keep
  unfold Store.Gone
  rw [hstore, (s.store.contexts_releaseContext c diagnostics).2 c, if_pos rfl]
  cases hget : s.store.contexts.get? c with
  | none =>
      rw [Session.releaseContext, onStore_eq, Store.releaseContext, hget] at hanswer
      cases hanswer
  | some context =>
      have houtcome : context.outcome diagnostics = .destroyed := by
        rw [Session.releaseContext, onStore_eq, Store.releaseContext_released hget] at hanswer
        cases hreleased : context.outcome diagnostics <;> rw [hreleased] at hanswer <;>
          first | rfl | cases hanswer
      refine ⟨context.after (context.outcome diagnostics), rfl, ?_⟩
      rw [houtcome]
      rfl

/-- **A destroyed context is inert for ever.**  In every run, whatever is done in it and whoever is
let in:

* a release that answers `destroyed` leaves its context gone, whatever follows;
* a context that is gone, by a release or by a dropped handle, stays gone, shows generation zero and
  has no errors registered;
* every handle on it is inert;
* operations through such handles, in any order and number, leave the store, with the histories of
  its backends and its log, and everything that is held but such handles as it is. -/
theorem inertness_of_run (log : Log) (operations : List Operation) :
    let s := ((start log).run operations).1
    (∀ h diagnostics keep,
      (s.perform (.releaseContext h diagnostics keep)).2 = .released .destroyed →
      ∃ c, s.contexts.get? h = some c ∧
        ∀ rest, (s.run (.releaseContext h diagnostics keep :: rest)).1.store.Gone c) ∧
    (∀ c, s.store.Gone c →
      (∀ rest, (s.run rest).1.store.Gone c) ∧
      ∃ context, s.store.contexts.get? c = some context ∧ context.shownGeneration = 0 ∧
        context.registry = []) ∧
    (s.aborted = false → ∀ h c, s.contexts.get? h = some c → s.store.Gone c → s.Inert h c) ∧
    ∀ rest, Throughout IsVain s rest → s.Idle (s.run rest).1 := by
  intro s
  have hburied : s.store.Buried fun _ => False :=
    (Store.universal_buried _).run (buried_start log) operations
  refine ⟨fun h diagnostics keep hanswer => ?_, fun c hgone => ⟨fun rest => ?_, ?_⟩,
    fun hrunning h c hh hgone => inert_of_gone hburied hrunning hh hgone,
    fun rest hvain => idle_of_throughout hburied hvain⟩
  · obtain ⟨c, hh, hgone⟩ := gone_of_destroyed hanswer
    have hempty := (Store.universal_buried fun _ => False).perform hburied
      (.releaseContext h diagnostics keep)
    exact ⟨c, hh, gone_run hempty hgone⟩
  · exact gone_run hburied hgone rest
  · obtain ⟨context, hget, hvalid⟩ := hgone
    refine ⟨context, hget, ?_, hburied.empty hget hvalid⟩
    rw [Context.shownGeneration, hvalid]
    rfl

/-- A run to try this on.  Of three contexts on one backend the first is destroyed, with a handle
left and a block on loan; the second has one handle, and an error is created through the third. -/
def outlastedRun : List Operation :=
  let draft : Draft := { domain := .git, code := .notFound, message := .ofText "gone" }
  [.openBackend none, .createContext { backend := some 0 }, .createContext { backend := some 0 },
    .createContext { backend := some 0 }, .allocate 0 { size := 24, align := 8 },
    .createFault 2 draft none, .releaseContext 0 false true]

/-- What is tried through the handle that is left, and through another one taken on the way. -/
def vainRun : List Operation :=
  let draft : Draft := { domain := .git, code := .notFound, message := .ofText "late" }
  [.createFault 0 draft (some 0), .copyDocument 0 0 {}, .copyMessage 0 0, .retainContext 0,
    .allocate 3 { size := 24, align := 8 }, .free 3 0, .track 3 0, .untrack 0 0, .detachRegistry 0,
    .releaseContext 0 true false, .dropContext 3, .createFault 0 draft none]

/-- The first context is gone for good and its handle inert, the second is destroyed for good by its
release, and all that is tried through the handles on the first leaves everything as it is. -/
theorem inertness_of_outlastedRun :
    let s := ((start {}).run outlastedRun).1
    (s.perform (.releaseContext 1 false false)).2 = .released .destroyed ∧
    (∀ rest, (s.run (.releaseContext 1 false false :: rest)).1.store.Gone 1) ∧
    s.store.Gone 0 ∧ (∀ rest, (s.run rest).1.store.Gone 0) ∧
    s.Inert 0 0 ∧
    Throughout IsVain s vainRun ∧ s.Idle (s.run vainRun).1 := by
  have hstate : let s := ((start {}).run outlastedRun).1
      s.aborted = false ∧ s.contexts.get? 0 = some 0 ∧ s.contexts.get? 1 = some 1 ∧
        s.store.Gone 0 ∧
        (s.perform (.releaseContext 1 false false)).2 = .released .destroyed ∧
        Throughout IsVain s vainRun := by
    decide +kernel
  obtain ⟨hdestroyed, hgone, hinert, hidle⟩ := inertness_of_run {} outlastedRun
  dsimp only at hstate ⊢
  generalize ((start {}).run outlastedRun).1 = s at *
  obtain ⟨hrunning, hh₀, hh₁, hgone₀, hanswer, hvain⟩ := hstate
  obtain ⟨c, hh, hlost⟩ := hdestroyed 1 false false hanswer
  obtain rfl := Option.some.inj (hh₁.symm.trans hh)
  exact ⟨hanswer, hlost, hgone₀, (hgone 0 hgone₀).1, hinert hrunning 0 0 hh₀ hgone₀, hvain,
    hidle vainRun hvain⟩

end Session

end FaultChain

import FaultChain.Proofs.Disposal
import FaultChain.Proofs.Inertness

/-!
# What backends are asked for

Every record and every buffer of the library has room for something, a buffer at least for its
terminator.  So no request of its own is *hollow*, of size zero, and what is hollow about the
requests that a backend has seen is what callers asked for through contexts over it
(`requests_of_run`).  Such a request is passed on as it is: `Store.allocate` looks at the context
and not at the layout, and then a backend does see a request of size zero (`hollow_of_hollowRun`).

### What is load-bearing

`Store.Sized` relates a store to an earlier one by the hollow requests that backends have seen
since.  A request lets readers in, so that there are none is asked of visitors as well
(`Store.Frugal`), and comes out of the recursion for the reader who is really let in
(`frugal_reader`).

### Why a relation with a list

That no request of the library is hollow could be an invariant of histories, but histories also hold
what callers asked for, and those requests may be hollow.  So the statement is about the difference:
between two stores, the hollow requests that a backend has seen since are a given list (`Sized`).
The list is empty for every function of the library, and is the caller's layout for
`Store.allocate`; along a run the lists are put together in order, which makes the law an equation
rather than a bound.

### What a size is

Four kinds of records have fixed layouts, which are not empty.  A buffer is asked for by its length,
and its capacity is one more, for the terminator; a length for which there is no such capacity is
never asked for (`Layout.buffer?`).  Those are all requests there are besides the caller's.
-/

namespace FaultChain

open Memory (Block Backend Event Layout)

namespace Memory

/-- Whether a block of this layout has room for nothing. -/
def Layout.isHollow (l : Layout) : Bool :=
  l.size == 0

/-- The layout that was asked for, if an event answers a request. -/
def Event.asked : Event → Option Layout
  | .granted block => some block.layout
  | .refused _ layout => some layout
  | .freed _ => none

/-- The layouts that a backend was asked for, the latest answer first.  A request is listed when it
is answered, after the readers that came in with it. -/
def Backend.asked (b : Backend) : List Layout :=
  b.history.filterMap Event.asked

/-- Settling a request answers it, with a block or a refusal. -/
theorem Backend.asked_settle (b : Backend) (serial : Nat) (layout : Layout) :
    (b.settle serial layout).1.asked = layout :: b.asked := by
  unfold settle
  split <;> rfl

/-- A buffer has room for its terminator. -/
theorem Layout.isHollow_of_buffer? {length : Nat} {layout : Layout}
    (h : buffer? length = some layout) : layout.isHollow = false := by
  rw [(buffer?_eq_some_iff.1 h).2]
  rfl

end Memory

namespace Store

/-- The layouts that a backend was asked for. -/
def asked (s : Store) (b : BackendId) : List Layout :=
  (s.backends.get? b).elim [] Backend.asked

/-- The layouts of size zero that a backend was asked for. -/
def hollow (s : Store) (b : BackendId) : List Layout :=
  (s.asked b).filter Layout.isHollow

/-- A backend is there. -/
def HasBackend (s : Store) (b : BackendId) : Prop :=
  ∃ backend, s.backends.get? b = some backend

/-- **What backends were asked for that has no size** between two stores is given; none of them was
lost, and every context that came up has a backend that is there.  The last two clauses are what the
caller's own requests need: they go through a context to its backend. -/
structure Sized (s₀ : Store) (more : BackendId → List Layout) (s : Store) : Prop where
  hollow : ∀ b, s.hollow b = more b ++ s₀.hollow b
  backends : ∀ {b}, s₀.HasBackend b → s.HasBackend b
  contexts : ∀ {c context}, s.contexts.get? c = some context →
    (∃ context₀, s₀.contexts.get? c = some context₀ ∧ context.backend = context₀.backend) ∨
      s.HasBackend context.backend

section Changes

variable {s₀ s s' : Store} {more : BackendId → List Layout} {b : BackendId}

/-- Between a store and itself nothing was asked for. -/
theorem Sized.refl (s : Store) : s.Sized (fun _ => []) s where
  hollow _ := rfl
  backends h := h
  contexts hget := .inl ⟨_, hget, rfl⟩

/-- What neither backends nor contexts notice asks for nothing. -/
theorem Sized.pass (h : s₀.Sized more s) (hbackends : s'.backends = s.backends)
    (hcontexts : s'.contexts = s.contexts) : s₀.Sized more s' := by
  obtain ⟨backends', contexts', _, _⟩ := s'
  cases hbackends
  cases hcontexts
  exact ⟨h.hollow, h.backends, h.contexts⟩

/-- A backend that changes is still there. -/
theorem HasBackend.modifyBackend {b' : BackendId} (h : s.HasBackend b') (b : BackendId)
    (g : Backend → Backend) : (s.modifyBackend b g).HasBackend b' := by
  obtain ⟨backend, hget⟩ := h
  unfold HasBackend
  rw [Store.modifyBackend, Arena.get?_modify, hget]
  split
  · exact ⟨g backend, rfl⟩
  · exact ⟨backend, rfl⟩

/-- A backend changes, and may have answered requests.  What is hollow among the new ones is added
to the list. -/
theorem Sized.answer (h : s₀.Sized more s) {backend : Backend}
    (hget : s.backends.get? b = some backend) {g : Backend → Backend} {l : List Layout}
    (hg : (g backend).asked = l ++ backend.asked) :
    s₀.Sized (fun b' => (if b = b' then l else []).filter Layout.isHollow ++ more b')
      (s.modifyBackend b g) where
  hollow := by
    intro b'
    rw [List.append_assoc, ← h.hollow b', Store.hollow, Store.hollow, asked, asked,
      Store.modifyBackend, Arena.get?_modify]
    split
    · next heq =>
        subst heq
        rw [hget, ← List.filter_append, Option.map_some, Option.elim_some, Option.elim_some, hg]
    · rfl
  backends hb := (h.backends hb).modifyBackend b g
  contexts hget := (h.contexts hget).imp_right (·.modifyBackend b g)

/-- A backend changes, and answers nothing. -/
theorem Sized.modifyBackend (h : s₀.Sized more s) (b : BackendId) {g : Backend → Backend}
    (hg : ∀ backend, (g backend).asked = backend.asked) : s₀.Sized more (s.modifyBackend b g) := by
  cases hget : s.backends.get? b with
  | none =>
      rw [Store.modifyBackend, Arena.modify_of_get?_eq_none hget]
      exact h
  | some backend =>
      have hanswer := h.answer hget (l := []) (hg backend)
      simpa only [ite_self, List.filter_nil, List.nil_append] using hanswer

/-- What comes back is not asked for. -/
theorem Sized.free (h : s₀.Sized more s) (b : BackendId) (block : Block) :
    s₀.Sized more (s.free b block) :=
  h.modifyBackend b fun _ => rfl

/-- Nor is what comes back piece by piece. -/
theorem Sized.freeAll (h : s₀.Sized more s) (b : BackendId) (blocks : List Block) :
    s₀.Sized more (s.freeAll b blocks) := by
  induction blocks generalizing s with
  | nil => exact h
  | cons block rest ih => exact ih (h.free b block)

/-- A context changes, and keeps its backend. -/
theorem Sized.modifyContext (h : s₀.Sized more s) (c : ContextId) {g : Context → Context}
    (hg : ∀ context, (g context).backend = context.backend) :
    s₀.Sized more (s.modifyContext c g) where
  hollow := h.hollow
  backends := h.backends
  contexts := by
    intro c' context' hget
    rw [Store.modifyContext, Arena.get?_modify] at hget
    split at hget
    · next heq =>
        subst heq
        obtain ⟨context, hcontext, rfl⟩ := Option.map_eq_some_iff.1 hget
        rw [hg]
        exact h.contexts hcontext
    · exact h.contexts hget

/-- A new context is over a backend that is there. -/
theorem Sized.addContext (h : s₀.Sized more s) {context : Context}
    (hb : s.HasBackend context.backend) : s₀.Sized more (s.addContext context) where
  hollow := h.hollow
  backends := h.backends
  contexts := by
    intro c context' hget
    rw [Store.addContext, Arena.get?_insert] at hget
    split at hget
    · exact .inr (Option.some.inj hget ▸ hb)
    · exact h.contexts hget

/-- A new backend was asked for nothing. -/
theorem Sized.openBackend (h : s₀.Sized more s) (limit : Option Nat) (rule : Memory.Rule) :
    s₀.Sized more (s.openBackend limit rule).1 := by
  have hkept : ∀ {b}, s.HasBackend b → (s.openBackend limit rule).1.HasBackend b := by
    rintro b ⟨backend, hget⟩
    refine ⟨backend, ?_⟩
    rw [Store.openBackend, Arena.get?_insert, if_neg (Nat.ne_of_lt (Arena.lt_next_of_get? hget))]
    exact hget
  constructor
  case hollow =>
    intro b
    rw [← h.hollow b, Store.hollow, Store.hollow, asked, asked, Store.openBackend,
      Arena.get?_insert]
    split
    · next heq =>
        rw [heq, Arena.get?_eq_none_of_next_le (Nat.le_refl _)]
        rfl
    · rfl
  case backends => exact fun hb => hkept (h.backends hb)
  case contexts => exact fun hget => (h.contexts hget).imp_right hkept

/-- What was asked for later is in front. -/
theorem Sized.trans {more' : BackendId → List Layout} (h : s₀.Sized more s)
    (h' : s.Sized more' s') : s₀.Sized (fun b => more' b ++ more b) s' where
  hollow b := by rw [h'.hollow, h.hollow, List.append_assoc]
  backends hb := h'.backends (h.backends hb)
  contexts := by
    intro c context hget
    rcases h'.contexts hget with ⟨context', hget', hbackend'⟩ | hb
    · rcases h.contexts hget' with ⟨context₀, hget₀, hbackend₀⟩ | hb
      · exact .inl ⟨context₀, hget₀, hbackend'.trans hbackend₀⟩
      · exact .inr (hbackend' ▸ h'.backends hb)
    · exact .inr hb

end Changes

/-! ## Requests

A request of the library has a layout that is fixed, or is one for a buffer, which has its
terminator at least.
-/

/-- A visitor has backends asked for nothing of size zero, in whatever store it is let in. -/
def Frugal (visit : Visitor) : Prop :=
  ∀ {s₀ : Store} {more : BackendId → List Layout} {s : Store} (r : Memory.Reentry),
    s₀.Sized more s → s₀.Sized more (visit r s)

section Requests

variable {s₀ s : Store} {more : BackendId → List Layout} {visit : Visitor} {b : BackendId}
  {backend : Backend} {layout : Layout}

/-- Readers who are let in one after another ask for nothing of size zero. -/
theorem Frugal.visits (hv : Frugal visit) (due : List Memory.Reentry) (h : s₀.Sized more s) :
    s₀.Sized more (due.foldl (fun s r => visit r s) s) := by
  induction due generalizing s with
  | nil => exact h
  | cons r due ih => exact ih (hv r h)

/-- A request enters. -/
theorem Sized.enter (h : s₀.Sized more s) (hget : s.backends.get? b = some backend) :
    s₀.Sized more (s.modifyBackend b fun _ => backend.enter.1) := by
  have hanswer := h.answer hget (g := fun _ => backend.enter.1) (l := []) rfl
  simpa only [ite_self, List.filter_nil, List.nil_append] using hanswer

/-- A request enters and lets readers in, whatever is asked for, and is then answered. -/
theorem Sized.entered (hv : Frugal visit) (h : s₀.Sized more s)
    (hget : s.backends.get? b = some backend) (layout : Layout) :
    ∃ s' serial, s₀.Sized more s' ∧ s.requestWith visit b layout = s'.settle b serial layout := by
  refine ⟨_, backend.enter.1.requests, hv.visits backend.enter.2 (h.enter hget), ?_⟩
  rw [Store.requestWith, hget]

/-- A request is answered, and its layout is looked at here for the first time. -/
theorem Sized.settle (h : s₀.Sized more s) (hget : s.backends.get? b = some backend)
    (serial : Nat) (layout : Layout) :
    s₀.Sized (fun b' => (if b = b' then [layout] else []).filter Layout.isHollow ++ more b')
      (s.settle b serial layout).1 := by
  rw [Store.settle, hget]
  exact h.answer hget (backend.asked_settle serial layout)

/-- A request for something changes nothing about what is hollow. -/
theorem Sized.requestWith (hv : Frugal visit) (h : s₀.Sized more s) (b : BackendId)
    (layout : Layout) (hlayout : layout.isHollow = false) :
    s₀.Sized more (s.requestWith visit b layout).1 := by
  cases hget : s.backends.get? b with
  | none =>
      rw [Store.requestWith, hget]
      exact h
  | some backend =>
      obtain ⟨s', serial, hentered, heq⟩ := h.entered hv hget layout
      rw [heq]
      cases hget' : s'.backends.get? b with
      | none =>
          rw [Store.settle, hget']
          exact hentered
      | some backend' =>
          have hsettled := hentered.settle hget' serial layout
          have hnone : ∀ b', (if b = b' then [layout] else []).filter Layout.isHollow = [] := by
            intro b'
            split
            · exact List.filter_cons_of_neg (Bool.eq_false_iff.1 hlayout)
            · rfl
          simpa only [hnone, List.nil_append] using hsettled

/-- A buffer has room for its terminator, or is not asked for. -/
theorem Sized.requestBufferWith (hv : Frugal visit) (h : s₀.Sized more s)
    (b : BackendId) (length : Nat) : s₀.Sized more (s.requestBufferWith visit b length).1 := by
  unfold Store.requestBufferWith
  split
  · exact h
  next layout hlayout =>
  have hrequest := h.requestWith hv b layout (Layout.isHollow_of_buffer? hlayout)
  split
  all_goals
    next heq =>
      rw [heq] at hrequest
      exact hrequest

/-- A copy asks for one buffer. -/
theorem Sized.copyTextWith (hv : Frugal visit) (h : s₀.Sized more s)
    (b : BackendId) (text : String) : s₀.Sized more (s.copyTextWith visit b text).1 := by
  have hrequest := h.requestBufferWith hv b text.toUTF8.size
  unfold Store.copyTextWith Store.requestCopyWith
  rcases hanswer : s.requestBufferWith visit b text.toUTF8.size with ⟨s', _ | buffer⟩ <;>
    rw [hanswer] at hrequest <;> exact hrequest

/-- So does a message. -/
theorem Sized.formatWith (hv : Frugal visit) (h : s₀.Sized more s)
    (b : BackendId) (argument : Message.Argument) :
    s₀.Sized more (s.formatWith visit b argument).1 := by
  unfold Store.formatWith
  split
  · exact h
  next length _ =>
  have hrequest := h.requestBufferWith hv b length
  split
  all_goals
    next heq =>
      rw [heq] at hrequest
      exact hrequest

end Requests

/-! ## Releases and readings

Releases ask for nothing.  Readings ask for a record and a buffer, and let in others that do.
-/

section Readings

variable {s₀ s : Store} {more : BackendId → List Layout} {visit : Visitor}

/-- Taking an entry out gives its block back. -/
theorem Sized.untrack (h : s₀.Sized more s) (c : ContextId) (e : FaultId) :
    s₀.Sized more (s.untrack c e) := by
  unfold Store.untrack
  split
  · exact h
  split
  · exact h
  · refine Sized.free (h.modifyContext c fun _ => ?_) _ _
    rfl

/-- A release gives back, and asks for nothing. -/
theorem Sized.release (h : s₀.Sized more s) (e : FaultId) : s₀.Sized more (s.release e) := by
  induction e using Nat.strongRecOn generalizing s with
  | _ e ih =>
      unfold Store.release
      split
      · exact h
      next f _ =>
      split
      · have huntracked : s₀.Sized more (s.untrackOwn e f) := by
          unfold untrackOwn
          split
          · exact h.untrack _ _
          · exact h
        have hdestroyed : s₀.Sized more ((s.untrackOwn e f).destroy e f) := by
          rw [destroy_eq]
          refine Sized.freeAll (huntracked.pass ?_ ?_) _ _ <;> rfl
        dsimp only
        split
        · split
          · next holder => exact ih _ holder hdestroyed
          · exact hdestroyed
        · exact hdestroyed
      · exact h.pass rfl rfl

/-- A build asks for a record and for a buffer. -/
theorem Sized.buildWith (hv : Frugal visit) (h : s₀.Sized more s)
    (e : FaultId) (b : BackendId) (generation : UInt32) (passes : Document.Passes) :
    s₀.Sized more (s.buildWith visit e b generation passes).1 := by
  unfold Store.buildWith
  split
  · exact h
  next chain _ =>
  dsimp only
  split
  · exact h
  have hrequest := h.requestWith hv b .cache rfl
  split
  · next heq =>
      rw [heq] at hrequest
      exact hrequest
  next s₁ node heq =>
  rw [heq] at hrequest
  have hbuffer := hrequest.requestBufferWith hv b (Document.measure passes.measuring chain - 1)
  split
  · next heq' =>
      rw [heq'] at hbuffer
      exact hbuffer.free _ _
  next s₂ blank heq' =>
  rw [heq'] at hbuffer
  split
  · exact (hbuffer.free _ _).free _ _
  · unfold publish
    split
    · exact hbuffer.pass rfl rfl
    · exact (hbuffer.free _ _).free _ _

/-- A reading asks for nothing, or builds. -/
theorem Sized.readWith (hv : Frugal visit) (h : s₀.Sized more s)
    (e : FaultId) (passes : Document.Passes) : s₀.Sized more (s.readWith visit e passes).1 := by
  unfold Store.readWith
  split
  · exact h
  split
  · exact h
  dsimp only
  split
  · exact h.buildWith hv _ _ _ _
  · split
    · exact h
    · refine Sized.buildWith hv (h.pass ?_ ?_) _ _ _ _ <;> rfl

/-- **Readers who are let in** ask for nothing of size zero, for however many may come in after
them. -/
theorem frugal_reader (n : Nat) : Frugal (reader n) := by
  induction n with
  | zero => exact fun _ h => h
  | succ n ih => exact fun r h => (h.readWith ih r.fault r.passes).release r.fault

/-- So it is for a reading of the library. -/
theorem Sized.read (h : s₀.Sized more s) (e : FaultId) (passes : Document.Passes) :
    s₀.Sized more (s.read e passes).1 :=
  h.readWith (frugal_reader _) e passes

end Readings

/-! ## Operations

The operations of the store in turn.  Only the one that hands out loans has a layout from outside.
-/

section Operations

variable {s₀ s : Store} {more : BackendId → List Layout} {visit : Visitor}

/-- An entry in a registry lives in a record. -/
theorem Sized.trackWith (hv : Frugal visit) (h : s₀.Sized more s) (c : ContextId) (e : FaultId) :
    s₀.Sized more (s.trackWith visit c e).1 :=
  of_trackWith h (fun b => h.requestWith hv b .node rfl) fun _ _ h => h.modifyContext c fun _ => rfl

/-- So does the entry of a new error. -/
theorem Sized.registerWith (hv : Frugal visit) (h : s₀.Sized more s) (c : ContextId)
    (fault : Fault) : s₀.Sized more (s.registerWith visit c fault).1 := by
  have hretained : s₀.Sized more (fault.cause.toList.foldl Store.retain s) :=
    foldl_retain (fun _ _ h => h.pass rfl rfl) _ h
  rw [registerWith_eq]
  dsimp only
  generalize fault.cause.toList.foldl Store.retain s = s₁ at hretained
  have hadded : s₀.Sized more (s₁.addFault fault) := hretained.pass rfl rfl
  have htrack := hadded.trackWith hv c s₁.faults.next
  split
  all_goals
    next heq =>
      rw [heq] at htrack
      first | exact htrack | exact htrack.pass rfl rfl

/-- **Creating an error** asks for a record, a buffer and an entry, all of them of some size. -/
theorem Sized.create (h : s₀.Sized more s) (c : ContextId) (draft : Draft)
    (cause : Option FaultId) : s₀.Sized more (s.create c draft cause).1 := by
  unfold Store.create createWith
  split
  · exact h
  next context _ =>
  split
  case isFalse => exact h
  dsimp only
  have hrequest := h.requestWith (frugal_reader s.waiting) context.backend .fault rfl
  split
  · next heq =>
      rw [heq] at hrequest
      exact hrequest
  next s₁ block heq =>
  rw [heq] at hrequest
  have hformat := hrequest.formatWith (frugal_reader s.waiting) context.backend draft.message
  split
  · next heq' =>
      rw [heq'] at hformat
      exact hformat.free _ _
  · next heq' =>
      rw [heq'] at hformat
      exact hformat.registerWith (frugal_reader _) _ _

/-- A copy of a document reads it first, and then asks for one buffer. -/
theorem Sized.copyDocument (h : s₀.Sized more s) (c : ContextId) (e : FaultId)
    (passes : Document.Passes) : s₀.Sized more (s.copyDocument c e passes).1 := by
  unfold Store.copyDocument copyDocumentWith
  split
  · exact h
  · split
    · exact (h.readWith (frugal_reader _) e passes).copyTextWith (frugal_reader _) _ _
    · exact h

/-- A copy of a message asks for one buffer. -/
theorem Sized.copyMessage (h : s₀.Sized more s) (c : ContextId) (e : FaultId) :
    s₀.Sized more (s.copyMessage c e).1 := by
  unfold Store.copyMessage copyMessageWith
  split
  · exact h
  · split
    · exact h.copyTextWith (frugal_reader _) _ _
    · exact h

/-- Emptying a registry gives back. -/
theorem Sized.detachRegistry (h : s₀.Sized more s) (c : ContextId) :
    s₀.Sized more (s.detachRegistry c).1 := by
  cases hget : s.contexts.get? c with
  | none =>
      rw [Store.detachRegistry, hget]
      exact h
  | some context =>
      rw [detachRegistry_eq s hget]
      have hemptied : s₀.Sized more (s.modifyContext c fun x => { x with registry := [] }) :=
        h.modifyContext c fun _ => rfl
      exact (hemptied.pass (backends_detachAll _ _) (contexts_detachAll _ _)).freeAll _ _

/-- A loan that is given back is not asked for. -/
theorem Sized.freeThrough (h : s₀.Sized more s) (c : ContextId) (block : Block) :
    s₀.Sized more (s.freeThrough c block).1 := by
  unfold Store.freeThrough
  split
  · exact h
  · split
    · exact h.free _ _
    · exact h

/-- A context is created over a backend that answered, and so is there. -/
theorem Sized.createContext (h : s₀.Sized more s) (b : BackendId) (settings : Settings) :
    s₀.Sized more (s.createContext b settings).1 := by
  unfold Store.createContext createContextWith
  split
  · exact h
  have hrequest := h.requestWith (frugal_reader s.waiting) b .context rfl
  have hkept := (Sized.refl s).requestWith (frugal_reader s.waiting) b .context rfl
  split
  · next heq =>
      rw [heq] at hrequest
      exact hrequest
  · next s' block heq =>
      have hb : s.HasBackend b := by
        unfold Store.requestWith at heq
        split at heq
        · cases heq
        · next backend hget => exact ⟨backend, hget⟩
      rw [heq] at hrequest hkept
      exact (hrequest.addContext (hkept.backends hb)).pass rfl rfl

/-- A handle on a context is counted on the context. -/
theorem Sized.retainContext (h : s₀.Sized more s) (c : ContextId) :
    s₀.Sized more (s.retainContext c) := by
  refine h.modifyContext c fun context => ?_
  split <;> rfl

/-- A context that is destroyed gives its block back. -/
theorem Sized.releaseContext (h : s₀.Sized more s) (c : ContextId) (diagnostics : Bool) :
    s₀.Sized more (s.releaseContext c diagnostics).1 := by
  cases hget : s.contexts.get? c with
  | none =>
      rw [Store.releaseContext, hget]
      exact h
  | some context =>
      rw [releaseContext_released hget]
      cases context.outcome diagnostics with
      | invalid => exact h
      | retained => exact h.modifyContext c fun _ => rfl
      | refused =>
          have hattempt := h.modifyContext c
            (g := fun x => { x with generation := x.generation + 1 }) fun _ => rfl
          exact hattempt.pass rfl rfl
      | aborted =>
          have hattempt := h.modifyContext c
            (g := fun x => { x with refs := x.refs - 1, generation := x.generation + 1 })
            fun _ => rfl
          exact hattempt.pass rfl rfl
      | destroyed =>
          have hended := h.modifyContext c
            (g := fun x => { x with
              refs := x.refs - 1, generation := x.generation + 1, valid := false })
            fun _ => rfl
          exact (hended.free _ _).pass rfl rfl

/-- A context that is dropped is destroyed or left behind. -/
theorem Sized.dropContext (h : s₀.Sized more s) (c : ContextId) :
    s₀.Sized more (s.dropContext c).1 := by
  have hrelease := h.releaseContext c Verdict.diagnosing
  unfold Store.dropContext
  split
  · next heq =>
      rw [heq] at hrelease
      exact hrelease.pass rfl rfl
  · exact hrelease

/-- Other readers are let in. -/
theorem Sized.letIn (h : s₀.Sized more s) (b : BackendId) (readers : List Memory.Reentry) :
    s₀.Sized more (Session.letIn s b readers) := by
  have hreleased : ∀ (readers : List Memory.Reentry) {s : Store}, s₀.Sized more s →
      s₀.Sized more (readers.foldl (fun s r => s.release r.fault) s) := by
    intro readers
    induction readers with
    | nil => exact fun h => h
    | cons r rest ih => exact fun h => ih (h.release r.fault)
  have hretained := foldl_retain (P := fun s => s₀.Sized more s) (fun _ _ h => h.pass rfl rfl)
    (readers.map Memory.Reentry.fault) h
  rw [List.foldl_map] at hretained
  unfold Session.letIn
  split
  · exact h
  · exact hreleased _ (hretained.modifyBackend b fun _ => rfl)

/-- **A caller asks for a block**, and the layout is passed on whatever it is. -/
theorem sized_allocate {c : ContextId} {context : Context} (hget : s.contexts.get? c = some context)
    (hvalid : context.valid = true) (hb : s.HasBackend context.backend) (layout : Layout) :
    s.Sized (fun b => (if context.backend = b then [layout] else []).filter Layout.isHollow)
      (s.allocate c layout).1 := by
  obtain ⟨backend, hbackend⟩ := hb
  obtain ⟨s', serial, hentered, hrequest⟩ :=
    (Sized.refl s).entered (frugal_reader s.waiting) hbackend layout
  have hstore : (s.allocate c layout).1 = (s'.settle context.backend serial layout).1 := by
    unfold Store.allocate allocateWith
    rw [hget]
    dsimp only
    rw [if_pos hvalid, hrequest]
    rcases s'.settle context.backend serial layout with ⟨s'', _ | block⟩ <;> rfl
  obtain ⟨backend', hbackend'⟩ := hentered.backends ⟨backend, hbackend⟩
  have hsettled := hentered.settle hbackend' serial layout
  rw [hstore]
  simpa only [List.append_nil] using hsettled

end Operations

/-- Every context has a backend that is there. -/
def Backed (s : Store) : Prop :=
  ∀ {c context}, s.contexts.get? c = some context → s.HasBackend context.backend

/-- So every context keeps a backend that is there. -/
theorem Backed.sized {s₀ s : Store} {more : BackendId → List Layout} (hs : s₀.Backed)
    (h : s₀.Sized more s) : s.Backed := by
  intro c context hget
  rcases h.contexts hget with ⟨context₀, hget₀, hbackend⟩ | hb
  · exact hbackend ▸ h.backends (hs hget₀)
  · exact hb

end Store

namespace Session

/-! ## Runs

The layouts that callers seek are listed along the run, and compared with what backends saw.
-/

/-- The layout that an operation asks a backend for on behalf of the caller, if there is one. -/
def sought (s : Session) (b : BackendId) : Operation → List Layout
  | .allocate h layout =>
    if s.aborted then []
    else
      match (s.contexts.get? h).bind s.store.contexts.get? with
      | some context => if context.valid ∧ context.backend = b then [layout] else []
      | none => []
  | _ => []

/-- The layouts that the operations of a run ask a backend for on behalf of callers, the latest
first. -/
def soughtAlong (s : Session) (b : BackendId) : List Operation → List Layout
  | [] => []
  | operation :: rest => (s.perform operation).1.soughtAlong b rest ++ s.sought b operation

section Runs

variable {s : Session}

/-- Acting on a context that is held, or doing nothing. -/
theorem sized_withContext {h : Handle} {act : Session → ContextId → Session × Outcome}
    (hact : ∀ c, s.store.Sized (fun _ => []) (act s c).1.store) :
    s.store.Sized (fun _ => []) (s.withContext h act).1.store :=
  of_withContext (P := fun s' => s.store.Sized (fun _ => []) s'.store) (.refl s.store) hact

/-- Acting on an error that is held, or doing nothing. -/
theorem sized_withFault {h : Handle} {act : Session → FaultId → Session × Outcome}
    (hact : ∀ e, s.store.Sized (fun _ => []) (act s e).1.store) :
    s.store.Sized (fun _ => []) (s.withFault h act).1.store :=
  of_withFault (P := fun s' => s.store.Sized (fun _ => []) s'.store) (.refl s.store) hact

/-- **An operation of the library's own** asks for nothing of size zero. -/
theorem sized_act {operation : Operation} (hown : ∀ h layout, operation ≠ .allocate h layout) :
    s.store.Sized (fun _ => []) (s.act operation).1.store := by
  have hrefl := Store.Sized.refl s.store
  -- Whatever is not a request of the user's own asks for layouts of the library, so no size in the
  -- histories is zero that was not before.
  cases operation with
  | openBackend limit rule => exact hrefl.openBackend limit rule
  | failNext b offsets => exact hrefl.modifyBackend b fun _ => rfl
  | letIn b readers =>
      rw [act]
      split
      · exact hrefl
      · exact hrefl.letIn b _
  | createContext settings rule =>
      rw [act, (createContext_eq s settings rule).1, createOver]
      split
      · exact hrefl.createContext _ _
      · exact (hrefl.openBackend none rule).createContext _ _
  | retainContext h => exact sized_withContext fun c => hrefl.retainContext c
  | releaseContext h diagnostics keep =>
      refine sized_withContext fun c => ?_
      rw [(releaseContext_eq s h c diagnostics keep).1]
      exact hrefl.releaseContext c diagnostics
  | dropContext h =>
      refine sized_withContext fun c => ?_
      rw [(dropContext_eq s h c).1]
      exact hrefl.dropContext c
  | allocate h layout => exact absurd rfl (hown h layout)
  | free h l =>
      refine sized_withContext fun c => ?_
      rw [withLoan]
      split
      · exact hrefl
      · rw [store_free]
        exact hrefl.freeThrough c _
  | detachRegistry h => exact sized_withContext fun c => hrefl.detachRegistry c
  | track h k => exact sized_withContext fun c => sized_withFault fun e =>
      hrefl.trackWith (Store.frugal_reader _) c e
  | untrack h k => exact sized_withContext fun c => sized_withFault fun e => hrefl.untrack c e
  | createFault h draft cause =>
      cases cause with
      | none =>
          refine sized_withContext fun c => ?_
          rw [store_createFault]
          exact hrefl.create c draft none
      | some k =>
          refine sized_withContext fun c => sized_withFault fun cause => ?_
          rw [store_createFault]
          exact hrefl.create c draft (some cause)
  | retainFault h => exact sized_withFault fun e => hrefl.pass rfl rfl
  | dropFault h => exact sized_withFault fun e => hrefl.release e
  | takeCause h =>
      refine sized_withFault fun e => ?_
      rw [takeCause]
      split
      · exact hrefl
      · exact hrefl.pass rfl rfl
  | read h passes => exact sized_withFault fun e => hrefl.read e passes
  | copyDocument h k passes =>
      refine sized_withContext fun c => sized_withFault fun e => ?_
      rw [onStore_eq, (Store.keepCopy_eq _ _).1]
      exact hrefl.copyDocument c e passes
  | copyMessage h k =>
      refine sized_withContext fun c => sized_withFault fun e => ?_
      rw [onStore_eq, (Store.keepCopy_eq _ _).1]
      exact hrefl.copyMessage c e
  | dropCopy h =>
      rw [act, withCopy]
      split
      · exact hrefl
      · exact hrefl.free _ _

/-- A caller seeks the layout that it passes, if the context is valid and over the backend in
question. -/
theorem sought_allocate (hrunning : s.aborted = false) {h : Handle} {c : ContextId}
    {context : Context} (hh : s.contexts.get? h = some c)
    (hget : s.store.contexts.get? c = some context) (b : BackendId) (layout : Layout) :
    s.sought b (.allocate h layout) =
      if context.valid ∧ context.backend = b then [layout] else [] := by
  rw [sought, if_neg (Bool.eq_false_iff.1 hrunning), hh, Option.bind_some, hget]

/-- **An operation** asks backends for what its caller seeks and has no size, and for nothing else
of size zero. -/
theorem sized_perform (hs : s.store.Backed) (operation : Operation) :
    s.store.Sized (fun b => (s.sought b operation).filter Layout.isHollow)
      (s.perform operation).1.store := by
  -- Where nothing is sought by the user there is nothing to filter.
  have hnone : (∀ b, s.sought b operation = []) →
      s.store.Sized (fun _ => []) (s.perform operation).1.store →
      s.store.Sized (fun b => (s.sought b operation).filter Layout.isHollow)
        (s.perform operation).1.store := by
    intro hsought h
    simpa only [hsought, List.filter_nil] using h
  cases hrunning : s.aborted with
  | true =>
      refine hnone (fun b => ?_) ?_
      · cases operation <;> simp [sought, hrunning]
      · rw [perform, hrunning]
        exact .refl s.store
  | false =>
  rw [perform_eq hrunning] at hnone ⊢
  cases operation with
  -- The layout of a loan is up to the user. It is passed on if everything is there that it is
  -- passed through.
  | allocate h layout =>
      cases hh : s.contexts.get? h with
      | none =>
          refine hnone (fun b => ?_) ?_
          · rw [sought, hh]
            split <;> rfl
          · rw [act, withContext, hh]
            exact .refl s.store
      | some c =>
          rw [act, withContext_of_get? hh, store_allocate] at hnone ⊢
          cases hget : s.store.contexts.get? c with
          | none =>
              refine hnone (fun b => ?_) ?_
              · rw [sought, hh, Option.bind_some, hget]
                split <;> rfl
              · rw [Store.allocate, Store.allocateWith, hget]
                exact .refl s.store
          | some context =>
              have hsought := (sought_allocate hrunning hh hget · layout)
              cases hvalid : context.valid with
              | false =>
                  have hgone : s.store.Gone c := ⟨context, hget, hvalid⟩
                  refine hnone (fun b => ?_) ?_
                  · rw [hsought, hvalid]
                    exact if_neg fun h => by cases h.1
                  · rw [hgone.allocate]
                    exact .refl s.store
              | true =>
                  simp only [hsought, hvalid, true_and]
                  exact Store.sized_allocate hget hvalid (hs hget) layout
  | _ => exact hnone (fun _ => rfl) (sized_act fun _ _ heq => by cases heq)

/-- A run asks for nothing else of size zero than what its callers seek. -/
theorem sized_run (hs : s.store.Backed) (operations : List Operation) :
    s.store.Sized (fun b => (s.soughtAlong b operations).filter Layout.isHollow)
      (s.run operations).1.store := by
  induction operations generalizing s with
  | nil => exact .refl s.store
  | cons operation rest ih =>
      have hfirst := sized_perform hs operation
      simp only [soughtAlong, List.filter_append]
      exact hfirst.trans (ih (hs.sized hfirst))

/-- Before anything is done there are no contexts. -/
theorem backed_start (log : Log) : (start log).store.Backed := by
  intro c context hget
  rw [start, Arena.get?_empty] at hget
  cases hget

/-- **What backends see of size zero** is what callers ask for, over every run, whatever fails and
whoever is let in: the requests of size zero that a backend has seen are, in order, those that were
made of it on behalf of callers.  So it never sees one if and only if no caller asks for nothing. -/
theorem requests_of_run (log : Log) (operations : List Operation) (b : BackendId) :
    let s := ((start log).run operations).1
    let sought := (start log).soughtAlong b operations
    (s.store.asked b).filter Layout.isHollow = sought.filter Layout.isHollow ∧
    ((∀ layout ∈ s.store.asked b, 0 < layout.size) ↔ ∀ layout ∈ sought, 0 < layout.size) := by
  intro s sought
  have hnone : (start log).store.hollow b = [] := by
    rw [Store.hollow, Store.asked, start, Arena.get?_empty]
    rfl
  have hsame : (s.store.asked b).filter Layout.isHollow = sought.filter Layout.isHollow := by
    have hhollow := (sized_run (backed_start log) operations).hollow b
    rw [hnone, List.append_nil] at hhollow
    exact hhollow
  have hsome : ∀ layouts : List Layout, (∀ layout ∈ layouts, 0 < layout.size) ↔
      layouts.filter Layout.isHollow = [] := by
    intro layouts
    simp only [List.filter_eq_nil_iff, Layout.isHollow, beq_iff_eq, Nat.pos_iff_ne_zero]
  exact ⟨hsame, by rw [hsome, hsome, hsame]⟩

/-- A run in which a caller asks for a block of size zero, which the backend is to refuse. -/
def hollowRun : List Operation :=
  [.openBackend none, .createContext { backend := some 0 }, .failNext 0 [1],
    .allocate 0 { size := 0, align := 8 }]

/-- **A backend sees a request of size zero** in this run: the layout that the caller passes is
forwarded as it is. -/
theorem hollow_of_hollowRun :
    ¬∀ layout ∈ ((start {}).run hollowRun).1.store.asked 0, 0 < layout.size := by
  decide +kernel

end Runs

end Session

end FaultChain

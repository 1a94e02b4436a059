import FaultChain.Proofs.Disposal
import FaultChain.Proofs.Sessions

/-!
# Blocks keep the layouts they came with

A record goes back with the layout of its kind, and a text with its capacity, so neither may change
between the request and the return.  `Shaped` says that they have not: every record in a store lives
in a block of its kind, and every text fits its block.  A message may be shortened after it was
written, and a document is written after its buffer was obtained, but both keep their capacity.

### Where layouts are looked at

A backend has to be given the layout that a block was asked for with, and the library computes it a
second time when it gives the block back: from the kind of a record, or from the capacity of a text.
`Shaped` is the invariant under which the second computation gives the first one's result.  It is
one of stores, so it goes through the same changes as every other one (`invariant_shaped`), and it
needs nothing of who holds what; `Fitted` is its counterpart for the copies that a session holds,
which belong to no store.

The only change that could break it is one that replaces a buffer inside a record.  There are two of
them.  A message is shortened to what was written, which leaves its capacity; and a document is put
on an error by the build that has just obtained both of its blocks.
-/

namespace FaultChain

open Memory (Block Backend)

/-- A document lives in a block of its kind, and its text fits its block.  The text is written after
its buffer was obtained, into bytes that are not moved. -/
def Cached.Shaped (cached : Cached) : Prop :=
  cached.node.layout = .cache ∧ cached.text.Fitted

/-- Everything that an error lives in is as it was asked for. -/
structure Fault.Shaped (f : Fault) : Prop where
  block : f.block.layout = .fault
  message : f.message.Fitted
  documents : ∀ cached ∈ f.documents, cached.Shaped

/-- Everything that a context lives in is as it was asked for. -/
structure Context.Shaped (context : Context) : Prop where
  block : context.block.layout = .context
  registry : ∀ r ∈ context.registry, r.node.layout = .node

namespace Store

/-- **Blocks keep their layouts**: every record in the store lives in a block of its kind, and every
text fits its block. -/
structure Shaped (s : Store) : Prop where
  faults : ∀ e f, s.faults.get? e = some f → f.Shaped
  contexts : ∀ c context, s.contexts.get? c = some context → context.Shaped

section Shapes

variable {s s' : Store} {c : ContextId} {context : Context} {e : FaultId} {f : Fault}

/-- An error changes, and what it lives in stays as it was asked for.  The condition is asked only
of the error that is there, since nothing else is changed. -/
theorem Shaped.modifyFault (h : s.Shaped) (e : FaultId) {g : Fault → Fault}
    (hg : ∀ f, s.faults.get? e = some f → f.Shaped → (g f).Shaped) :
    (s.modifyFault e g).Shaped where
  faults e' f' hget := by
    rw [Store.modifyFault, Arena.get?_modify] at hget
    split at hget
    · next heq =>
        subst heq
        obtain ⟨f, hfault, rfl⟩ := Option.map_eq_some_iff.1 hget
        exact hg f hfault (h.faults _ f hfault)
    · exact h.faults e' f' hget
  contexts := h.contexts

/-- A context changes, and so may its registry, by entries in blocks of their kind. -/
theorem Shaped.modifyContext (h : s.Shaped) (c : ContextId) {g : Context → Context}
    (hg : ∀ context, context.Shaped → (g context).Shaped) : (s.modifyContext c g).Shaped where
  faults := h.faults
  contexts c' context' hget := by
    rw [Store.modifyContext, Arena.get?_modify] at hget
    split at hget
    · obtain ⟨context, hcontext, rfl⟩ := Option.map_eq_some_iff.1 hget
      exact hg context (h.contexts _ context hcontext)
    · exact h.contexts c' context' hget

/-- Taking an entry out leaves the others in their blocks. -/
theorem Shaped.untrackOwn (h : s.Shaped) (e : FaultId) (f : Fault) : (s.untrackOwn e f).Shaped := by
  unfold Store.untrackOwn Store.untrack
  split
  · next c _ =>
    split
    · exact h
    · split
      · exact h
      · have hless := h.modifyContext c (g := fun context =>
          { context with registry := context.registry.eraseP fun r => r.fault == e })
          fun context hcontext => ⟨hcontext.block, fun r hr =>
            hcontext.registry r (List.mem_of_mem_eraseP hr)⟩
        exact ⟨hless.faults, hless.contexts⟩
  · exact h

/-- What is left when an error is destroyed is as it was. -/
theorem Shaped.destroy (h : s.Shaped) (e : FaultId) (f : Fault) :
    ((s.untrackOwn e f).destroy e f).Shaped := by
  have huntracked := h.untrackOwn e f
  constructor
  · intro e' f' hget
    rw [destroy_eq, faults_freeAll, forgetFault, Arena.get?_erase] at hget
    split at hget
    · cases hget
    · exact huntracked.faults e' f' hget
  · intro c context hget
    rw [destroy_eq, contexts_freeAll] at hget
    exact huntracked.contexts c context hget

/-- Detaching is a change of links only. -/
theorem Shaped.detachAll (h : s.Shaped) (es : List FaultId) : (s.detachAll es).Shaped := by
  induction es generalizing s with
  | nil => exact h
  | cons e es ih =>
      exact ih (h.modifyFault e fun f _ hf => ⟨hf.block, hf.message, hf.documents⟩)

/-- An emptied registry has no entries in wrong blocks. -/
theorem Shaped.detachRegistry (h : s.Shaped) (c : ContextId) : (s.detachRegistry c).1.Shaped := by
  cases hget : s.contexts.get? c with
  | none =>
      rw [Store.detachRegistry, hget]
      exact h
  | some context =>
      have hemptied := h.modifyContext c (g := fun context => { context with registry := [] })
        fun context hcontext => ⟨hcontext.block, List.forall_mem_nil _⟩
      have hdetached := hemptied.detachAll (context.registry.map Registration.fault)
      rw [detachRegistry_eq s hget]
      constructor
      · rw [faults_freeAll]
        exact hdetached.faults
      · rw [contexts_freeAll]
        exact hdetached.contexts

/-- A new error brings its own blocks along, which is where their layouts are looked at for the
first time. -/
theorem Shaped.addFault (h : s.Shaped) (hf : f.Shaped) : (s.addFault f).Shaped where
  faults e f' hget := by
    rw [Store.addFault, Arena.get?_insert] at hget
    split at hget
    · obtain rfl := Option.some.inj hget
      exact hf
    · exact h.faults e f' hget
  contexts := h.contexts

/-- A new context lives in the block that was asked for it, and has no entries. -/
theorem Shaped.addContext (h : s.Shaped) (hcontext : context.Shaped) :
    (s.addContext context).Shaped where
  faults := h.faults
  contexts c context' hget := by
    rw [Store.addContext, Arena.get?_insert] at hget
    split at hget
    · obtain rfl := Option.some.inj hget
      exact hcontext
    · exact h.contexts c context' hget

/-- A document that is retired is still one of the error. -/
theorem Shaped.evict (h : s.Shaped) (e : FaultId) : (s.evict e).Shaped :=
  h.modifyFault e fun _ _ hf => ⟨hf.block, hf.message, hf.documents⟩

/-- **Every change keeps the layouts.** -/
theorem invariant_shaped : Invariant fun _ s => s.Shaped where
  enter h _ := ⟨h.faults, h.contexts⟩
  settle _ _ h _ _ := ⟨h.faults, h.contexts⟩
  free h := ⟨h.faults, h.contexts⟩
  absent h _ := h
  lessen {_ _ e _} h _ _ := h.modifyFault e fun _ _ hf => ⟨hf.block, hf.message, hf.documents⟩
  destroy h _ _ := h.destroy _ _
  evict e h := h.evict e
  install {_ s e b own} h _ _ hcache hnode htext := by
    refine h.modifyFault e fun f hget hf => ⟨hf.block, hf.message, fun cached hmem => ?_⟩
    unfold Fault.documents at hmem
    rcases List.mem_cons.1 hmem with rfl | hmem
    · exact ⟨hnode, htext⟩
    · exact hf.documents cached (List.mem_append_right _ hmem)
  emit _ _ _ h := ⟨h.faults, h.contexts⟩
  openBackend _ _ h := ⟨h.faults, h.contexts⟩
  failNext _ _ h := ⟨h.faults, h.contexts⟩
  arrange h _ := ⟨h.faults, h.contexts⟩
  add h _ _ _ hblock hmessage := h.addFault ⟨hblock, hmessage, nofun⟩
  enlist {_ _ _ c _ _} h _ _ _ _ hnode := h.modifyContext c fun context hcontext =>
    ⟨hcontext.block, fun r hr => by
      rcases List.mem_cons.1 hr with rfl | hr
      · exact hnode
      · exact hcontext.registry r hr⟩
  dismiss {_ _ e} h _ := h.modifyFault e fun _ _ hf => ⟨hf.block, hf.message, hf.documents⟩
  detachRegistry c h _ := h.detachRegistry c
  addContext h hlayout := h.addContext ⟨hlayout, nofun⟩
  adjust {_ _ c g} h hg := h.modifyContext c fun context hcontext => by
    rw [hg]
    exact ⟨hcontext.block, hcontext.registry⟩
  close {_ _ c _ _} h _ _ _ _ _ := by
    have hclosed := h.modifyContext c (g := fun context => { context with valid := false })
      fun context hcontext => ⟨hcontext.block, hcontext.registry⟩
    exact ⟨hclosed.faults, hclosed.contexts⟩

/-- No reference is looked at, so what is held makes no difference to layouts. -/
theorem blind_shaped : Blind fun _ s => s.Shaped :=
  fun _ _ _ _ _ h => ⟨h.faults, h.contexts⟩

/-- Nor do references that are taken on the way. -/
theorem takes_shaped (es : List FaultId) :
    Takes (fun _ s => s.Shaped) (fun _ s => s.Shaped) es := by
  refine fun _ s h _ _ => foldl_retain (fun s e h => ?_) es h
  exact h.modifyFault e fun _ _ hf => ⟨hf.block, hf.message, hf.documents⟩

/-- A copy fills the buffer that was obtained for it. -/
theorem fitted_of_copyTextWith {visit : Visitor} {b : BackendId} {text : String} {copy : Copy}
    (h : (s.copyTextWith visit b text).2 = .ok copy) : copy.buffer.Fitted := by
  unfold copyTextWith requestCopyWith at h
  split at h
  · cases h
  · next s' buffer hrequest =>
      split at hrequest
      · cases hrequest
      · next blank hblank =>
          cases hrequest
          cases h
          obtain ⟨heq, hfitted⟩ := blank_of_requestBufferWith hblank
          refine hfitted.overwrite ?_
          rw [heq, Memory.Buffer.capacity, Memory.Buffer.zeroed, Memory.Buffer.size_zeros]
          exact Nat.le_succ _

/-- A copy of a document is a copy of a text. -/
theorem fitted_of_copyDocument {passes : Document.Passes} {copy : Copy}
    (h : (s.copyDocument c e passes).2 = .ok copy) : copy.buffer.Fitted := by
  unfold copyDocument copyDocumentWith at h
  split at h
  · cases h
  · split at h
    · exact fitted_of_copyTextWith h
    · cases h

/-- A copy of a message is a copy of a text. -/
theorem fitted_of_copyMessage {copy : Copy} (h : (s.copyMessage c e).2 = .ok copy) :
    copy.buffer.Fitted := by
  unfold copyMessage copyMessageWith at h
  split at h
  · cases h
  · split at h
    · exact fitted_of_copyTextWith h
    · cases h

end Shapes

end Store

namespace Session

/-- Every copy that is held fits its block. -/
def Fitted (s : Session) : Prop :=
  ∀ copy ∈ s.copies.values, copy.buffer.Fitted

section Copies

variable {s : Session}

/-- Keeping what came of copying adds a copy, or none. -/
theorem copies_keepCopy (store : Store) (result : Except Failure Copy) :
    (keepCopy ({ s with store }, result)).1.copies = s.copies ∨
      ∃ copy, result = .ok copy ∧
        (keepCopy ({ s with store }, result)).1.copies = s.copies.insert copy := by
  cases result with
  | error why => exact .inl rfl
  | ok copy => exact .inr ⟨copy, rfl, rfl⟩

/-- **Only copying makes copies, and only dropping them takes them away.** -/
theorem copies_act (s : Session) (operation : Operation) :
    (s.act operation).1.copies = s.copies ∨
      (∃ copy, copy.buffer.Fitted ∧ (s.act operation).1.copies = s.copies.insert copy) ∨
      ∃ k, operation = .dropCopy k ∧ (s.act operation).1.copies = s.copies.erase k := by
  -- Three ways in which operations leave copies alone, or add one; then one case for each
  -- operation.
  have hcontext : ∀ {k act}, (∀ c, (act s c).1.copies = s.copies) →
      (s.withContext k act).1.copies = s.copies := fun hact =>
    of_withContext (P := fun s' => s'.copies = s.copies) rfl hact
  have hfault : ∀ {k act}, (∀ e, (act s e).1.copies = s.copies) →
      (s.withFault k act).1.copies = s.copies := fun hact =>
    of_withFault (P := fun s' => s'.copies = s.copies) rfl hact
  have hcopy : ∀ {k l} {copy : ContextId → FaultId → Store × Except Failure Copy},
      (∀ c e made, (copy c e).2 = .ok made → made.buffer.Fitted) →
      let s' := (s.withContext k fun s c => s.withFault l fun s e =>
        keepCopy ({ s with store := (copy c e).1 }, (copy c e).2)).1
      s'.copies = s.copies ∨ ∃ made, made.buffer.Fitted ∧ s'.copies = s.copies.insert made := by
    intro k l copy hfits
    refine of_withContext (P := fun s' => s'.copies = s.copies ∨
      ∃ made, made.buffer.Fitted ∧ s'.copies = s.copies.insert made) (.inl rfl) fun c => ?_
    refine of_withFault (P := fun s' => s'.copies = s.copies ∨
      ∃ made, made.buffer.Fitted ∧ s'.copies = s.copies.insert made) (.inl rfl) fun e => ?_
    exact (copies_keepCopy _ _).imp_right fun ⟨made, hmade, heq⟩ =>
      ⟨made, hfits c e made hmade, heq⟩
  cases operation with
  | openBackend limit rule => exact .inl rfl
  | failNext b offsets => exact .inl rfl
  | letIn b readers =>
      rw [Session.act]
      split <;> exact .inl rfl
  | createContext settings rule =>
      rw [Session.act, Session.createContext, onStore_eq]
      cases (createOver s.store settings rule).2 <;> exact .inl rfl
  | retainContext k => exact .inl (hcontext fun _ => rfl)
  | releaseContext k diagnostics keep =>
      refine .inl (hcontext fun c => ?_)
      rw [Session.releaseContext, onStore_eq]
      cases (s.store.releaseContext c diagnostics).2 <;> cases keep <;> rfl
  | dropContext k =>
      refine .inl (hcontext fun c => ?_)
      rw [Session.dropContext, onStore_eq]
      cases (s.store.dropContext c).2 <;> rfl
  | allocate k layout =>
      refine .inl (hcontext fun c => ?_)
      rw [Session.allocate, onStore_eq]
      cases (s.store.allocate c layout).2 <;> rfl
  | free k l =>
      refine .inl (hcontext fun c => ?_)
      rw [withLoan]
      split
      · rfl
      · next loan _ =>
          rw [Session.free, onStore_eq]
          cases (s.store.freeThrough c loan.block).2 <;> rfl
  | detachRegistry k => exact .inl (hcontext fun _ => rfl)
  | track k l => exact .inl (hcontext fun _ => hfault fun _ => rfl)
  | untrack k l => exact .inl (hcontext fun _ => hfault fun _ => rfl)
  | createFault k draft cause =>
      have hcreate : ∀ c (cause : Option FaultId),
          (s.createFault c draft cause).1.copies = s.copies := by
        intro c cause
        rw [Session.createFault, onStore_eq]
        cases (s.store.create c draft cause).2 <;> rfl
      cases cause with
      | none => exact .inl (hcontext fun c => hcreate c none)
      | some l => exact .inl (hcontext fun c => hfault fun e => hcreate c (some e))
  | retainFault k => exact .inl (hfault fun _ => rfl)
  | dropFault k => exact .inl (hfault fun _ => rfl)
  | takeCause k =>
      refine .inl (hfault fun e => ?_)
      rw [Session.takeCause]
      split <;> rfl
  | read k passes => exact .inl (hfault fun _ => rfl)
  | copyDocument k l passes =>
      exact (hcopy fun _ _ _ h => Store.fitted_of_copyDocument h).imp_right .inl
  | copyMessage k l =>
      exact (hcopy fun _ _ _ h => Store.fitted_of_copyMessage h).imp_right .inl
  | dropCopy k =>
      rw [Session.act, withCopy]
      split
      · exact .inl rfl
      · exact .inr (.inr ⟨k, rfl, rfl⟩)

/-- **An operation** leaves copies as they are, adds one that fits its block, or takes one away. -/
theorem Fitted.act (hs : s.Fitted) (operation : Operation) : (s.act operation).1.Fitted := by
  rcases s.copies_act operation with hsame | ⟨copy, hfitted, hinsert⟩ | ⟨k, -, herase⟩
  · rwa [Fitted, hsame]
  · rw [Fitted, hinsert]
    intro copy' hmem
    rw [Arena.values_insert, Multiset.mem_cons] at hmem
    rcases hmem with rfl | hmem
    · exact hfitted
    · exact hs copy' hmem
  · rw [Fitted, herase]
    intro copy hmem
    obtain ⟨key, hget⟩ := Arena.mem_values_iff.1 hmem
    rw [Arena.get?_erase] at hget
    split at hget
    · cases hget
    · exact hs copy (Arena.mem_values hget)

/-- **A run** does so operation by operation. -/
theorem Fitted.run (hs : s.Fitted) (operations : List Operation) :
    (s.run operations).1.Fitted := by
  induction operations generalizing s with
  | nil => exact hs
  | cons operation rest ih =>
      refine ih (s := (s.perform operation).1) ?_
      unfold Session.perform
      split
      · exact hs
      · exact hs.act operation

end Copies

end Session

end FaultChain

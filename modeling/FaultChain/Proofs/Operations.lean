import FaultChain.Proofs.Reading
import FaultChain.Store.Copying
import FaultChain.Store.Creation
import FaultChain.Store.Lending
import FaultChain.Store.Teardown

/-!
# What the operations on a store keep

`Upheld I` adds to `Kept I` the changes that only whole operations make: errors are added,
registries are filled and emptied, backends get other readers to let in.  `Invariant I` adds the
changes of contexts themselves: they are added, counted and taken down.  As in `Kept`, the code is
followed once, and an invariant need only be carried through the changes.

References are counted in a word, so taking one is the only change that may need room.  An operation
therefore starts from one invariant, `I`, and ends with another, `J`, with `Takes I J` between them
for the references that it takes; where there is nothing to count the two are the same.

### Two invariants for one operation

An operation takes references at its beginning, before it makes a request, so the readers who are
let in already find the counts raised.  If the bound on references is to hold at that moment, it has
to be the bound that holds afterwards.  Hence `I` before and `J` after: `Takes I J` is one step, and
everything that follows it keeps `J`.  On the way back, when a creation fails, the references are
given up again under `J`, and nothing has to be counted a second time.

Each lemma is about one function of the store, with its visitor left open, and asks for the lemmas
about what it calls.  No lemma here opens an invariant, and no module on an invariant opens an
operation; a change of an operation is a change in this file.
-/

namespace FaultChain

open Memory (Block Backend Reentry Layout Rule)

namespace Holdings

/-- What is held after an error was asked for: a handle on it, if it was created. -/
def created (o : Holdings) : Except Failure FaultId → Holdings
  | .ok e => o.hold e
  | .error _ => o

/-- What is held after a buffer of a backend was asked for. -/
def formatted (o : Holdings) (b : BackendId) : Except Failure Memory.Buffer → Holdings
  | .ok buffer => o.own b buffer.block
  | .error _ => o

/-- What is held after a copy was asked for. -/
def copied (o : Holdings) : Except Failure Copy → Holdings
  | .ok copy => o.own copy.backend copy.buffer.block
  | .error _ => o

/-- What is held after a block on loan was asked for. -/
def lent (o : Holdings) : Option Loan → Holdings
  | some loan => o.own loan.backend loan.block
  | none => o

end Holdings

namespace Store

/-- An invariant that every change on the way of an operation keeps, contexts aside. -/
structure Upheld (I : Holdings → Store → Prop) : Prop extends Kept I where
  emit : ∀ {o : Holdings} {s : Store} (level : Level) (origin text : String), I o s →
    I o (s.emit level origin text)
  openBackend : ∀ {o : Holdings} {s : Store} (limit : Option Nat) (rule : Rule), I o s →
    I o (s.openBackend limit rule).1
  failNext : ∀ {o : Holdings} {s : Store} (b : BackendId) (offsets : List Nat), I o s →
    I o (s.modifyBackend b (·.failNext offsets))
  /-- A backend takes the references for other readers and gives up those that it held. -/
  arrange : ∀ {o : Holdings} {s : Store} {b : BackendId} {backend : Backend}
    {readers : List Reentry}, I (o.holdAll (readers.map Reentry.fault)) s →
    s.backends.get? b = some backend →
    I (o.holdAll (backend.reentries.map Reentry.fault))
      (s.modifyBackend b fun backend => { backend with reentries := readers })
  /-- An error is added, with the blocks that were obtained for it and a reference on its cause. -/
  add : ∀ {o : Holdings} {s : Store} {c : ContextId} {context : Context} {block : Block}
    {message : Memory.Buffer} {draft : Draft} {cause : Option FaultId},
    I (((o.own context.backend block).own context.backend message.block).holdAll cause.toList) s →
    o.fresh = none → s.contexts.get? c = some context → context.valid = true →
    block.layout = .fault → message.Fitted →
    I (o.registering s.faults.next)
      (s.addFault (ofDraft c context.backend block message draft cause))
  /-- The error that waits for its entry gets it. -/
  enlist : ∀ {o : Holdings} {s : Store} {e : FaultId} {c : ContextId} {context : Context}
    {node : Block}, I ((o.registering e).own context.backend node) s → o.fresh = none →
    s.contexts.get? c = some context → context.valid = true →
    (∀ f, s.faults.get? e = some f → f.context = some c) → node.layout = .node →
    I (o.hold e) (s.modifyContext c fun context =>
      { context with registry := { fault := e, node } :: context.registry })
  /-- The error that waits for its entry is detached instead. -/
  dismiss : ∀ {o : Holdings} {s : Store} {e : FaultId}, I (o.registering e) s → o.fresh = none →
    I (o.hold e) (s.detach e)
  detachRegistry : ∀ {o : Holdings} {s : Store} (c : ContextId), I o s → o.fresh = none →
    I o (s.detachRegistry c).1

/-- An invariant that every change keeps. -/
structure Invariant (I : Holdings → Store → Prop) : Prop extends Upheld I where
  addContext : ∀ {o : Holdings} {s : Store} {b : BackendId} {block : Block}, I (o.own b block) s →
    block.layout = .context →
    I o (s.addContext { generation := Context.initialGeneration, backend := b, block })
  /-- The counters of a context change. -/
  adjust : ∀ {o : Holdings} {s : Store} {c : ContextId} {g : Context → Context}, I o s →
    (∀ x, g x = { x with refs := (g x).refs, generation := (g x).generation }) →
    I o (s.modifyContext c g)
  /-- A context without registered errors is taken down. -/
  close : ∀ {o : Holdings} {s : Store} {c : ContextId} {context context' : Context}, I o s →
    s.contexts.get? c = some context' → context'.valid = true → context'.registry = [] →
    context.backend = context'.backend → context.block = context'.block →
    I o (s.destroyContext c context)

/-- Taking references on given errors, to which there are references, leads from one invariant to
another. -/
def Takes (I J : Holdings → Store → Prop) (es : List FaultId) : Prop :=
  ∀ (o : Holdings) (s : Store), I o s → o.fresh = none → (∀ e ∈ es, e ∈ o.references s) →
    J (o.holdAll es) (es.foldl Store.retain s)

/-- What taking one reference keeps, taking several keeps. -/
theorem foldl_retain {P : Store → Prop} (hP : ∀ s e, P s → P (s.retain e)) (es : List FaultId)
    {s : Store} (h : P s) : P (es.foldl Store.retain s) := by
  induction es generalizing s with
  | nil => exact h
  | cons e es ih => exact ih (hP s e h)

/-- Taking references changes errors only, and no key. -/
theorem exists_foldl_retain (es : List FaultId) (s : Store) :
    ∃ faults, es.foldl Store.retain s = { s with faults } ∧ faults.next = s.faults.next := by
  refine foldl_retain (P := fun s' => ∃ faults, s' = { s with faults } ∧
    faults.next = s.faults.next) (fun s' e hs' => ?_) es ⟨s.faults, rfl, rfl⟩
  obtain ⟨faults, rfl, hnext⟩ := hs'
  exact ⟨_, rfl, (Arena.next_modify faults e _).trans hnext⟩

section Retained

variable (es : List FaultId) (s : Store)

/-- Contexts do not change with it. -/
theorem contexts_foldl_retain : (es.foldl Store.retain s).contexts = s.contexts := by
  obtain ⟨faults, hretained, -⟩ := exists_foldl_retain es s
  rw [hretained]

/-- Nor do backends. -/
theorem backends_foldl_retain : (es.foldl Store.retain s).backends = s.backends := by
  obtain ⟨faults, hretained, -⟩ := exists_foldl_retain es s
  rw [hretained]

/-- So as many readers are waiting as before. -/
theorem waiting_foldl_retain : (es.foldl Store.retain s).waiting = s.waiting := by
  rw [waiting, backends_foldl_retain]
  rfl

/-- And the next key is the same. -/
theorem next_foldl_retain : (es.foldl Store.retain s).faults.next = s.faults.next := by
  obtain ⟨faults, hretained, hnext⟩ := exists_foldl_retain es s
  rw [hretained, hnext]

end Retained

/-- An invariant that does not look at memory. -/
def Blind (I : Holdings → Store → Prop) : Prop :=
  ∀ (o : Holdings) (s : Store) (blocks : Multiset (BackendId × Block)) (b : BackendId)
    (block : Block), I o s → I { o with blocks } (s.free b block)

section Creation

variable {I J : Holdings → Store → Prop} {visit : Visitor} {n : Nat} {o : Holdings} {s : Store}
  {c : ContextId} {context : Context}

/-- What is held by handles is held. -/
theorem mem_references_of_mem_faults {e : FaultId} (h : e ∈ o.faults) : e ∈ o.references s := by
  simp only [Holdings.references, Multiset.mem_add, h, true_or]

/-- A message is formatted in a buffer that is asked for, and whoever asked for it holds its
block. -/
theorem Kept.formatWith (hI : Kept I) (hv : Keeps I n visit) (hf : Framed visit)
    (hwait : s.waiting ≤ n) (h : I o s) (b : BackendId) (argument : Message.Argument) :
    I (o.formatted b (s.formatWith visit b argument).2) (s.formatWith visit b argument).1 := by
  unfold Store.formatWith
  cases Message.measure argument.first with
  | none => exact h
  | some length =>
      have hbuffer := hI.requestBufferWith hv hf hwait h b length
      dsimp only
      rcases hanswer : s.requestBufferWith visit b length with ⟨s', _ | buffer⟩ <;>
        rw [hanswer] at hbuffer
      · exact hbuffer
      · dsimp only [Holdings.formatted]
        rw [Message.block_stored]
        exact hbuffer

/-- Formatting leaves to others what a request does. -/
theorem Framed.formatWith (hf : Framed visit) (s : Store) (b : BackendId)
    (argument : Message.Argument) : s.Follows (s.formatWith visit b argument).1 :=
  (kept_follows s).formatWith (o := {}) (hf.keeps_follows s) hf (Nat.le_refl s.waiting) (.refl s) b
    argument

/-- A message that is handed out is in a buffer of the size of its block. -/
theorem fitted_of_formatWith {s' : Store} {b : BackendId} {argument : Message.Argument}
    {message : Memory.Buffer} (h : s.formatWith visit b argument = (s', .ok message)) :
    message.Fitted := by
  unfold Store.formatWith at h
  split at h
  · cases h
  · split at h
    · cases h
    · next buffer hrequest =>
        cases h
        obtain ⟨hblank, hfitted⟩ := blank_of_requestBufferWith hrequest
        refine Message.fitted_stored _ hfitted ?_
        rw [hblank, Memory.Buffer.capacity, Memory.Buffer.zeroed, Memory.Buffer.size_zeros]
        exact Nat.le_succ _

/-- What asking for an entry and entering an error keep, entering it on request keeps. -/
theorem of_trackWith {P : Store → Prop} {e : FaultId} (h : P s)
    (hrequest : ∀ b, P (s.requestWith visit b .node).1)
    (henter : ∀ s' node, P s' → P (s'.modifyContext c fun context =>
      { context with registry := { fault := e, node } :: context.registry })) :
    P (s.trackWith visit c e).1 := by
  unfold Store.trackWith
  split
  · exact h
  next context _ =>
  split
  case isFalse => exact h
  have hanswered := hrequest context.backend
  split
  · next s' heq =>
      rw [heq] at hanswered
      exact hanswered
  · next s' node heq =>
      rw [heq] at hanswered
      exact henter s' node hanswered

/-- Asking for an entry leaves to others what a request does. -/
theorem Framed.trackWith (hf : Framed visit) (s : Store) (c : ContextId) (e : FaultId) :
    s.Follows (s.trackWith visit c e).1 :=
  of_trackWith (.refl s) (fun b => hf.requestWith s b .node) fun _ _ h =>
    h.trans (follows_modifyContext fun _ => rfl)

/-- The entry of an error is asked for, and made if it is granted. -/
theorem Upheld.trackWith (hJ : Upheld J) (hv : Keeps J n visit) (hf : Framed visit)
    (hwait : s.waiting ≤ n) {e : FaultId} (h : J (o.registering e) s) (hfresh : o.fresh = none)
    (hget : s.contexts.get? c = some context) (hvalid : context.valid = true)
    (hlink : ∀ f, s.faults.get? e = some f → f.context = some c) :
    J (if (s.trackWith visit c e).2 then o.hold e else o.registering e)
      (s.trackWith visit c e).1 := by
  unfold Store.trackWith
  simp only [hget, hvalid, if_true]
  have hrequest := hJ.requestWith hv hf hwait h context.backend .node
  have hframe := hf.requestWith s context.backend .node
  rcases hanswer : s.requestWith visit context.backend .node with ⟨s', _ | node⟩ <;>
    rw [hanswer] at hrequest hframe
  · exact hrequest
  · obtain ⟨context', hget', hbare⟩ := hframe.context hget
    have hbackend : context'.backend = context.backend := Context.backend_of_bare hbare
    refine hJ.enlist (hbackend ▸ hrequest) hfresh hget' ?_ (fun f' hfault' => ?_)
      (layout_of_requestWith hanswer)
    · exact (Context.valid_of_bare hbare).trans hvalid
    · obtain ⟨f, hfault, hbare⟩ := hframe.faults hfault'
      exact (Fault.context_of_bare hbare).trans (hlink f hfault)

/-- The references that a new error holds are taken first. -/
theorem registerWith_eq (visit : Visitor) (s : Store) (c : ContextId) (fault : Fault) :
    s.registerWith visit c fault =
      let s := fault.cause.toList.foldl Store.retain s
      match (s.addFault fault).trackWith visit c s.faults.next with
      | (s', true) => (s', s.faults.next)
      | (s', false) =>
        ((s'.emit .warn faultOrigin ("registry node allocation failed, " ++ fault.link.kind ++
          " error left detached")).detach s.faults.next, s.faults.next) := by
  unfold registerWith
  cases fault.cause <;> rfl

/-- An error whose blocks are there is added and registered, or left detached. -/
theorem Upheld.registerWith (hJ : Upheld J) {cause : Option FaultId}
    (htake : Takes I J cause.toList) (hv : Keeps J n visit) (hf : Framed visit)
    (hwait : s.waiting ≤ n) {block : Block} {message : Memory.Buffer} {draft : Draft}
    (h : I ((o.own context.backend block).own context.backend message.block) s)
    (hfresh : o.fresh = none) (hcause : ∀ e ∈ cause.toList, e ∈ o.faults)
    (hget : s.contexts.get? c = some context) (hvalid : context.valid = true)
    (hblock : block.layout = .fault) (hmessage : message.Fitted) :
    J (o.hold (s.registerWith visit c (ofDraft c context.backend block message draft cause)).2)
      (s.registerWith visit c (ofDraft c context.backend block message draft cause)).1 := by
  have hcontexts := contexts_foldl_retain cause.toList s
  have hwaiting := waiting_foldl_retain cause.toList s
  have hheld := htake _ _ h hfresh fun e he => mem_references_of_mem_faults (hcause e he)
  rw [registerWith_eq]
  dsimp only [ofDraft]
  generalize cause.toList.foldl Store.retain s = s₁ at hcontexts hwaiting hheld
  have hadded : J (o.registering s₁.faults.next)
      (s₁.addFault (ofDraft c context.backend block message draft cause)) :=
    hJ.add hheld hfresh (by rw [hcontexts, hget]) hvalid hblock hmessage
  have hlink : ∀ f, (s₁.addFault (ofDraft c context.backend block message draft cause)).faults.get?
      s₁.faults.next = some f → f.context = some c := by
    intro f hfault
    rw [addFault, Arena.get?_insert, if_pos rfl, Option.some.injEq] at hfault
    exact hfault ▸ rfl
  have hwait₁ : (s₁.addFault (ofDraft c context.backend block message draft cause)).waiting ≤ n :=
    Nat.le_trans (Nat.le_of_eq hwaiting) hwait
  have htrack := hJ.trackWith hv hf hwait₁ hadded hfresh
    ((congrArg (·.get? c) hcontexts).trans hget) hvalid hlink
  unfold ofDraft at htrack
  split
  · next s₂ heq =>
      rw [heq] at htrack
      exact htrack
  · next s₂ heq =>
      rw [heq] at htrack
      exact hJ.dismiss (hJ.emit _ _ _ htrack) hfresh

/-- **Creating an error** leads from the invariant before the reference on its cause is taken to the
one after it, whatever is refused on the way. -/
theorem Upheld.createWith (hI : Upheld I) (hJ : Upheld J)
    (hIJ : ∀ {o : Holdings} {s : Store}, I o s → J o s) {cause : Option FaultId}
    (htake : Takes I J cause.toList) (hvI : Keeps I n visit) (hvJ : Keeps J n visit)
    (hf : Framed visit) (hwait : s.waiting ≤ n) (h : I o s) (hfresh : o.fresh = none)
    (hcause : ∀ e ∈ cause.toList, e ∈ o.faults) (c : ContextId) (draft : Draft) :
    J (o.created (s.createWith visit c draft cause).2) (s.createWith visit c draft cause).1 := by
  unfold Store.createWith
  split
  · exact hIJ h
  next context hget =>
  split
  case isFalse => exact hIJ h
  next hvalid =>
  dsimp only
  have hrequest := hI.requestWith hvI hf hwait h context.backend .fault
  have hframe := hf.requestWith s context.backend .fault
  split
  · next s₁ heq =>
      rw [heq] at hrequest
      exact hIJ hrequest
  next s₁ block heq =>
  rw [heq] at hrequest hframe
  have hformat := hI.formatWith hvI hf (Nat.le_trans hframe.waiting hwait) hrequest context.backend
    draft.message
  have hframe' := hframe.trans (hf.formatWith s₁ context.backend draft.message)
  split
  · next s₂ failure heq' =>
      rw [heq'] at hformat
      exact hIJ (hI.free hformat)
  next s₂ message heq' =>
  rw [heq'] at hformat hframe'
  -- Readers let in by the requests may have changed the context, but not its backend or validity.
  obtain ⟨context', hget', hbare⟩ := hframe'.context hget
  have hbackend : context'.backend = context.backend := Context.backend_of_bare hbare
  dsimp only [Holdings.formatted, Holdings.answered] at hformat
  rw [← hbackend] at hformat ⊢
  exact hJ.registerWith htake hvJ hf (Nat.le_trans hframe'.waiting hwait) hformat hfresh hcause
    hget' ((Context.valid_of_bare hbare).trans hvalid) (layout_of_requestWith heq)
    (fitted_of_formatWith heq')

/-- The operation of a user lets in the readers who are waiting. -/
theorem Upheld.create (hI : Upheld I) (hJ : Upheld J)
    (hIJ : ∀ {o : Holdings} {s : Store}, I o s → J o s) {cause : Option FaultId}
    (htake : Takes I J cause.toList) (h : I o s) (hfresh : o.fresh = none)
    (hcause : ∀ e ∈ cause.toList, e ∈ o.faults) (c : ContextId) (draft : Draft) :
    J (o.created (s.create c draft cause).2) (s.create c draft cause).1 :=
  hI.createWith hJ hIJ htake (hI.keeps_reader _) (hJ.keeps_reader _) (framed_reader _)
    (Nat.le_refl _) h hfresh hcause c draft

end Creation

/-! ## Contexts, copies and loans

Operations that take no references.  Each is a request, or a change of one context, or both.
-/

section Contexts

variable {I : Holdings → Store → Prop} {o : Holdings} {s : Store}

theorem Kept.request (hI : Kept I) (h : I o s) (b : BackendId) (layout : Layout) :
    I (o.answered b (s.requestWith (reader s.waiting) b layout).2)
      (s.requestWith (reader s.waiting) b layout).1 :=
  hI.requestWith (hI.keeps_reader _) (framed_reader _) (Nat.le_refl _) h b layout

/-- A context is one block, and no error refers to it yet. -/
theorem Invariant.createContext (hI : Invariant I) (h : I o s) (b : BackendId)
    (settings : Settings) : I o (s.createContext b settings).1 := by
  unfold Store.createContext createContextWith
  split
  · exact h
  · have hrequest := hI.request h b .context
    split
    · next s' heq =>
        rw [heq] at hrequest
        exact hrequest
    · next s' block heq =>
        rw [heq] at hrequest
        exact hI.emit _ _ _ (hI.addContext hrequest (layout_of_requestWith heq))

/-- References on a context are counted in it alone. -/
theorem Invariant.retainContext (hI : Invariant I) (h : I o s) (c : ContextId) :
    I o (s.retainContext c) := by
  refine hI.adjust h fun context => ?_
  split <;> rfl

/-- The last one ends the context, or is given back. -/
theorem Invariant.releaseContext (hI : Invariant I) (h : I o s) (c : ContextId)
    (diagnostics : Bool) : I o (s.releaseContext c diagnostics).1 := by
  unfold Store.releaseContext
  split
  · exact h
  next context hget =>
  split
  · exact h
  next hvalid =>
  rw [Bool.not_eq_true, Bool.not_eq_false'] at hvalid
  have hlessened := hI.adjust (c := c)
    (g := fun context => { context with refs := context.refs - 1 }) h fun _ => rfl
  dsimp only
  split
  · exact hlessened
  have hattempt := hI.adjust (c := c)
    (g := fun context => { context with generation := context.generation + 1 }) hlessened
    fun _ => rfl
  split
  · next hverdict =>
      have hempty : context.registry = [] := by
        unfold Verdict.ofLive at hverdict
        split at hverdict
        · next hlive => exact List.eq_nil_of_length_eq_zero hlive
        · split at hverdict <;> cases hverdict
      have hget' : ((s.contexts.modify c fun context =>
          { context with refs := context.refs - 1 }).modify c fun context =>
          { context with generation := context.generation + 1 }).get? c = some { context with
            refs := context.refs - 1, generation := context.generation + 1 } := by
        simp only [Arena.get?_modify, if_true, hget, Option.map_some]
      exact hI.close hattempt hget' hvalid hempty rfl rfl
  · exact hI.emit _ _ _ hattempt
  · exact hI.adjust (hI.emit _ _ _ (hI.emit _ _ _ hattempt)) fun _ => rfl

/-- Dropping is releasing, with an answer that nobody sees. -/
theorem Invariant.dropContext (hI : Invariant I) (h : I o s) (c : ContextId) :
    I o (s.dropContext c).1 := by
  have hrelease := hI.releaseContext h c Verdict.diagnosing
  unfold Store.dropContext
  split
  · next s' heq =>
      rw [heq] at hrelease
      exact hI.emit _ _ _ hrelease
  · exact hrelease

/-- A block on loan is held by whoever asked for it. -/
theorem Kept.allocate (hI : Kept I) (h : I o s) (c : ContextId) (layout : Layout) :
    I (o.lent (s.allocate c layout).2) (s.allocate c layout).1 := by
  unfold Store.allocate allocateWith
  split
  · exact h
  next context _ =>
  split
  · have hrequest := hI.request h context.backend layout
    split
    · next s' heq =>
        rw [heq] at hrequest
        exact hrequest
    · next s' block heq =>
        rw [heq] at hrequest
        exact hrequest
  · exact h

/-- A copy holds the block that it was made in. -/
theorem Kept.copyTextWith {visit : Visitor} {n : Nat} (hI : Kept I) (hv : Keeps I n visit)
    (hf : Framed visit) (hwait : s.waiting ≤ n) (h : I o s) (b : BackendId) (text : String) :
    I (o.copied (s.copyTextWith visit b text).2) (s.copyTextWith visit b text).1 := by
  have hrequest := hI.requestCopyWith hv hf hwait h b text.toUTF8
  unfold Store.copyTextWith
  split
  · next s' heq =>
      rw [heq] at hrequest
      exact hrequest
  · next s' buffer heq =>
      rw [heq] at hrequest
      exact hrequest

/-- Copying a document reads it first. -/
theorem Kept.copyDocument (hI : Kept I) (h : I o s) {e : FaultId} (hheld : e ∈ o.faults)
    (c : ContextId) (passes : Document.Passes) :
    I (o.copied (s.copyDocument c e passes).2) (s.copyDocument c e passes).1 := by
  unfold Store.copyDocument copyDocumentWith
  split
  · exact h
  split
  · have hread := hI.read h hheld passes
    have hframe := (framed_reader s.waiting).readWith s e passes
    exact hI.copyTextWith (hI.keeps_reader _) (framed_reader _) hframe.waiting hread _ _
  · exact h

/-- Copying a message does not. -/
theorem Kept.copyMessage (hI : Kept I) (h : I o s) (c : ContextId) (e : FaultId) :
    I (o.copied (s.copyMessage c e).2) (s.copyMessage c e).1 := by
  unfold Store.copyMessage copyMessageWith
  split
  · exact h
  split
  · exact hI.copyTextWith (hI.keeps_reader _) (framed_reader _) (Nat.le_refl _) h _ _
  · exact h

end Contexts

end Store

end FaultChain

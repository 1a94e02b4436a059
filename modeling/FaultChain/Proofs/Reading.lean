import FaultChain.Proofs.Keeping

/-!
# What readers keep

`Kept.readWith` carries an invariant through the reading of an error, given what the visitors keep
whom backends let in, and `Kept.keeps_reader` ties the knot: the visitor that is really let in keeps
whatever is kept.

A build looks up the context of the error before its two requests and leaves the document after
them.  That the error is then still attached to a context over the same backend is the frame
(`Follows.attachedOver`), which is itself an invariant that every change keeps (`kept_follows`).

### The knot

A reading lets readers in, who read.  What a reading keeps therefore depends on what readers keep,
and the other way round.  It is cut by how many readers are waiting: a visitor of depth `n` is asked
to keep an invariant only in stores with `n` readers waiting at most, and a reader who is let in has
been struck off, so those that it lets in find one less.  `Kept.readWith` is the step, for any
visitor that keeps the invariant at its depth, and `Kept.keeps_reader` is the induction over depths.

### What is load-bearing

Blocks are in the hands of a build between its requests, while readers come in and go.  They stand
in the holdings of the invariant and not in the store (`Holdings.own`), so a reader who is let in
may do whatever keeps the invariant with those holdings in place: it cannot give back what the build
holds, because it would have to own it.  When the build is over, its blocks are the error's or are
given back, and the holdings are what they were.
-/

namespace FaultChain

open Memory (Block Backend Layout)

namespace Store

/-! ## The frame

Each small change on the way of a request or a reading is looked at by the frame once; the frame is
then an invariant like the others, and the whole follows.
-/

section Frame

variable {s s' : Store}

/-- A backend may record and count, and strike off readers. -/
theorem follows_modifyBackend {b : BackendId} {g : Backend → Backend}
    (hg : ∀ backend, s.backends.get? b = some backend → backend.Follows (g backend) ∧
      (g backend).reentries.length ≤ backend.reentries.length) :
    s.Follows (s.modifyBackend b g) := by
  cases hget : s.backends.get? b with
  | none =>
      rw [modifyBackend, Arena.modify_of_get?_eq_none hget]
      exact .refl s
  | some backend =>
      obtain ⟨hlater, hreaders⟩ := hg backend hget
      refine { Follows.refl s with backends := fun {b' backend'} h => ?_, waiting := ?_ }
      · rw [modifyBackend, Arena.get?_modify] at h
        split at h
        · next heq =>
            subst heq
            rw [hget, Option.map_some, Option.some.injEq] at h
            exact ⟨backend, hget, h ▸ hlater⟩
        · exact ⟨backend', h, .refl _⟩
      · have hwaiting := waiting_modifyBackend hget g
        omega

/-- A block that is given back is recorded. -/
theorem follows_free (b : BackendId) (block : Block) : s.Follows (s.free b block) :=
  follows_modifyBackend fun _ _ =>
    ⟨⟨Nat.le_refl _, fun _ h => .inl (List.mem_of_ne_of_mem (by simp) h)⟩, Nat.le_refl _⟩

/-- An error may change in its references and documents, which the frame does not look at
(`bare`). -/
theorem follows_modifyFault {e : FaultId} {g : Fault → Fault} (hg : ∀ f, (g f).bare = f.bare) :
    s.Follows (s.modifyFault e g) := by
  refine { Follows.refl s with
    faults := fun {e' f'} h => ?_, next := Arena.next_modify _ _ _, waiting := Nat.le_refl _ }
  rw [modifyFault, Arena.get?_modify] at h
  split at h
  · obtain ⟨f, hget, rfl⟩ := Option.map_eq_some_iff.1 h
    exact ⟨f, hget, hg f⟩
  · exact ⟨f', h, rfl⟩

/-- A context may change in its registry and its counts. -/
theorem follows_modifyContext {c : ContextId} {g : Context → Context}
    (hg : ∀ context, (g context).bare = context.bare) : s.Follows (s.modifyContext c g) := by
  refine { Follows.refl s with contexts := fun c' => ?_, waiting := Nat.le_refl _ }
  rw [modifyContext, Arena.get?_modify]
  split
  · rw [Option.map_map]
    congr 1
    exact funext hg
  · rfl

/-- An error may go. -/
theorem follows_forgetFault (e : FaultId) : s.Follows (s.forgetFault e) := by
  refine { Follows.refl s with
    faults := fun {e' f'} h => ?_, next := Arena.next_erase _ _, waiting := Nat.le_refl _ }
  rw [forgetFault, Arena.get?_erase] at h
  split at h
  · cases h
  · exact ⟨f', h, rfl⟩

/-- An entry may be taken out of a registry. -/
theorem follows_untrack (c : ContextId) (e : FaultId) : s.Follows (s.untrack c e) := by
  unfold untrack
  split
  · exact .refl s
  · split
    · exact .refl s
    · refine Follows.trans ?_ (follows_free _ _)
      exact follows_modifyContext fun _ => rfl

/-- An error may be taken out of the registry that it is linked to. -/
theorem follows_untrackOwn (e : FaultId) (f : Fault) : s.Follows (s.untrackOwn e f) := by
  unfold untrackOwn
  split
  · exact follows_untrack _ _
  · exact .refl s

/-- The two blocks of a document may be given back. -/
theorem follows_freeCached (b : BackendId) (cached : Cached) :
    s.Follows (s.freeCached b cached) :=
  (follows_free _ _).trans (follows_free _ _)

/-- An error may be destroyed, with all that it lives in. -/
theorem follows_destroy (e : FaultId) (f : Fault) : s.Follows (s.destroy e f) := by
  have hdocuments : ∀ (documents : List Cached) (s : Store),
      s.Follows (documents.foldl (fun s cached => s.freeCached f.backend cached) s) := by
    intro documents
    induction documents with
    | nil => exact .refl
    | cons cached rest ih => exact fun s => (follows_freeCached _ _).trans (ih _)
  exact (((hdocuments _ s).trans (follows_free _ _)).trans (follows_free _ _)).trans
    (follows_forgetFault e)

/-- A request that entered after some store, and is answered now, has a number that this store had
not given out.  It was counted when it entered, and readers have been in since, whose requests got
the numbers after it. -/
theorem Follows.settle {s₀ s₁ : Store} {b : BackendId} {backend₁ backend : Backend}
    {layout : Layout} (h₁ : s₀.Follows s₁) (hget₁ : s₁.backends.get? b = some backend₁)
    (h : s₀.Follows s) (hget : s.backends.get? b = some backend) :
    s₀.Follows
      (s.modifyBackend b fun _ => (backend.settle (backend₁.requests + 1) layout).1) := by
  refine { h with backends := fun {b' backend'} h' => ?_, waiting := ?_ }
  · rw [modifyBackend, Arena.get?_modify] at h'
    split at h'
    · next heq =>
        subst heq
        rw [hget, Option.map_some, Option.some.injEq] at h'
        obtain ⟨backend₀, hget₀, hlater⟩ := h.backends hget
        obtain ⟨backend₀', hget₀', hlater₁⟩ := h₁.backends hget₁
        obtain rfl : backend₀ = backend₀' := Option.some.inj (hget₀.symm.trans hget₀')
        refine ⟨backend₀, hget₀, ?_⟩
        subst h'
        unfold Backend.settle
        split
        · exact ⟨hlater.requests, fun block hmem =>
            hlater.granted block (List.mem_of_ne_of_mem (by simp) hmem)⟩
        · refine ⟨hlater.requests, fun block hmem => ?_⟩
          rcases List.mem_cons.1 hmem with heq | hmem
          · injection heq with heq
            rw [heq]
            exact .inr (Nat.lt_succ_of_le hlater₁.requests)
          · exact hlater.granted block hmem
    · exact h.backends h'
  -- An answer lets nobody in.
  · have hreaders : (backend.settle (backend₁.requests + 1) layout).1.reentries =
        backend.reentries := by
      unfold Backend.settle
      split <;> rfl
    have hwaiting := waiting_modifyBackend hget
      fun _ => (backend.settle (backend₁.requests + 1) layout).1
    have hle := h.waiting
    rw [hreaders] at hwaiting
    omega

/-- **The frame is an invariant** of requests, releases and readings.  So what holds of every
invariant holds of the frame, and what a build knows before its requests it may use after them. -/
theorem kept_follows (s₀ : Store) : Kept fun _ s => s₀.Follows s where
  enter {_ _ _ backend} h hget := h.trans <| follows_modifyBackend fun backend' hget' => by
    obtain rfl : backend = backend' := Option.some.inj (hget.symm.trans hget')
    refine ⟨⟨Nat.le_succ _, fun _ hmem => .inl hmem⟩, ?_⟩
    have hdue := waiting_enter hget
    have hwaiting := waiting_modifyBackend hget fun _ => backend.enter.1
    omega
  settle h₁ hget₁ h hget _ := h₁.settle hget₁ h hget
  free h := h.trans (follows_free _ _)
  absent h _ := h
  lessen h _ _ := h.trans (follows_modifyFault fun _ => rfl)
  destroy h _ _ := (h.trans (follows_untrackOwn _ _)).trans (follows_destroy _ _)
  evict _ h := h.trans (follows_modifyFault fun _ => rfl)
  install h _ _ _ _ _ := h.trans (follows_modifyFault fun _ => rfl)

/-- An attached error stays attached to a context over the same backend. -/
theorem Follows.attachedOver (h : s.Follows s') {e : FaultId} {b : BackendId}
    (hover : s.AttachedOver e b) : s'.AttachedOver e b := by
  intro f' hget'
  obtain ⟨f, hget, hbare⟩ := h.faults hget'
  obtain ⟨c, context, hlink, hcontext, hbackend⟩ := hover f hget
  obtain ⟨context', hcontext', hbare'⟩ := h.context hcontext
  refine ⟨c, context', (Fault.context_of_bare hbare).trans hlink, hcontext', ?_⟩
  exact (Context.backend_of_bare hbare').trans hbackend

end Frame

/-! ## Readings

A build knows what it looked up before its requests, and the frame says that it may go on believing
it: the error is attached to the same context, and that is over the same backend.
-/

section Readings

variable {I : Holdings → Store → Prop} {visit : Visitor} {n : Nat} {o : Holdings} {s : Store}
  {e : FaultId} {b : BackendId}

/-- A visitor that keeps the frame keeps it at any depth. -/
theorem Framed.keeps_follows (hf : Framed visit) (s₀ : Store) :
    Keeps (fun _ s => s₀.Follows s) n visit :=
  fun _ s e _ h => h.trans (hf e s)

/-- A request keeps the frame, whoever is let in. -/
theorem Framed.requestWith (hf : Framed visit) (s : Store) (b : BackendId) (layout : Layout) :
    s.Follows (s.requestWith visit b layout).1 :=
  (kept_follows s).requestWith (o := {}) (hf.keeps_follows s) hf (Nat.le_refl s.waiting) (.refl s)
    b layout

/-- So does a request for a buffer. -/
theorem Framed.requestBufferWith (hf : Framed visit) (s : Store) (b : BackendId) (length : Nat) :
    s.Follows (s.requestBufferWith visit b length).1 :=
  (kept_follows s).requestBufferWith (o := {}) (hf.keeps_follows s) hf (Nat.le_refl s.waiting)
    (.refl s) b length

/-- What was built is left on the error, or given back if there is a document already: readers have
been in since the build found none. -/
theorem Kept.publish (hI : Kept I) {own : Cached}
    (h : I ((o.own b own.node).own b own.text.block) s) (hheld : e ∈ o.faults)
    (hover : s.AttachedOver e b) (hnode : own.node.layout = .cache) (htext : own.text.Fitted) :
    I o (s.publish e b own).1 := by
  unfold Store.publish
  cases hcache : (s.faults.get? e).bind Fault.cache with
  | none =>
      refine hI.install h hheld hover (fun f hget => ?_) hnode htext
      rw [hget, Option.bind_some] at hcache
      exact hcache
  | some winner => exact hI.free (hI.free h)

/-- A build keeps an invariant: every way out of it gives back what it obtained or leaves it on the
error. -/
theorem Kept.buildWith (hI : Kept I) (hv : Keeps I n visit) (hf : Framed visit)
    (hwait : s.waiting ≤ n) (h : I o s) (hheld : e ∈ o.faults) (hover : s.AttachedOver e b)
    (generation : UInt32) (passes : Document.Passes) :
    I o (s.buildWith visit e b generation passes).1 := by
  unfold Store.buildWith
  split
  · exact h
  next chain _ =>
  dsimp only
  split
  · exact h
  have hrequest := hI.requestWith hv hf hwait h b .cache
  have hframe := hf.requestWith s b .cache
  split
  · next s₁ heq =>
      rw [heq] at hrequest
      exact hrequest
  next s₁ node heq =>
  rw [heq] at hrequest hframe
  have hbuffer := hI.requestBufferWith hv hf (Nat.le_trans hframe.waiting hwait) hrequest b
    (Document.measure passes.measuring chain - 1)
  have hframe' := hf.requestBufferWith s₁ b (Document.measure passes.measuring chain - 1)
  split
  · next s₂ heq' =>
      rw [heq'] at hbuffer
      exact hI.free hbuffer
  next s₂ blank heq' =>
  rw [heq'] at hbuffer hframe'
  split
  · exact hI.free (hI.free hbuffer)
  next text _ =>
  refine hI.publish hbuffer hheld ((hframe.trans hframe').attachedOver hover)
    (layout_of_requestWith heq) ?_
  exact (blank_of_requestBufferWith heq').2.replace (Document.size_render _ _ _)

/-- **Reading an error on which a reference is held keeps an invariant.** The reference is what
keeps the error from being destroyed by the readers who are let in. -/
theorem Kept.readWith (hI : Kept I) (hv : Keeps I n visit) (hf : Framed visit)
    (hwait : s.waiting ≤ n) (h : I o s) (hheld : e ∈ o.faults) (passes : Document.Passes) :
    I o (s.readWith visit e passes).1 := by
  unfold Store.readWith
  split
  · exact h
  next f hget =>
  split
  · exact h
  next context hcontext =>
  have hover : s.AttachedOver e context.backend := by
    intro f' hget'
    obtain rfl : f = f' := Option.some.inj (hget.symm.trans hget')
    obtain ⟨c, hlink, hcontext⟩ := Option.bind_eq_some_iff.1 hcontext
    exact ⟨c, context, hlink, hcontext, rfl⟩
  have hevicted : s.Follows (s.evict e) := (kept_follows s).evict (o := {}) e (.refl s)
  dsimp only
  split
  · exact hI.buildWith hv hf hwait h hheld hover _ _
  · split
    · exact h
    · exact hI.buildWith hv hf (Nat.le_trans hevicted.waiting hwait) (hI.evict e h) hheld
        (hevicted.attachedOver hover) _ _

/-- A reading that keeps the frame is one of a held error: the frame does not look at what is held.
-/
theorem Framed.readWith (hf : Framed visit) (s : Store) (e : FaultId) (passes : Document.Passes) :
    s.Follows (s.readWith visit e passes).1 :=
  (kept_follows s).readWith (o := { faults := {e} }) (hf.keeps_follows s) hf (Nat.le_refl s.waiting)
    (.refl s) (Multiset.mem_singleton_self e) passes

/-- Readers who are let in keep the frame, however many they let in themselves. -/
theorem framed_reader (n : Nat) : Framed (reader n) := by
  induction n with
  | zero => exact fun _ s => .refl s
  | succ n ih =>
      intro r s
      exact (ih.readWith s r.fault r.passes).trans ((kept_follows _).release (o := {}) (.refl _))

/-- **Readers who are let in keep what is kept**, as long as the recursion is deep enough for those
who are waiting. -/
theorem Kept.keeps_reader (hI : Kept I) (n : Nat) : Keeps I n (reader n) := by
  induction n with
  | zero => exact fun _ _ _ hwait => absurd hwait (Nat.not_lt_zero _)
  | succ n ih =>
      intro o s r hwait h
      have hread := hI.readWith ih (framed_reader n) (Nat.le_of_lt_succ hwait) h
        (Multiset.mem_cons_self r.fault o.faults) r.passes
      exact hI.release hread

/-- Reading keeps an invariant. -/
theorem Kept.read (hI : Kept I) (h : I o s) (hheld : e ∈ o.faults) (passes : Document.Passes) :
    I o (s.read e passes).1 :=
  hI.readWith (hI.keeps_reader _) (framed_reader _) (Nat.le_refl _) h hheld passes

end Readings

end Store

end FaultChain

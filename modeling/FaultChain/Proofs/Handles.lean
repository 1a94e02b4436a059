import FaultChain.Proofs.Ownership
import FaultChain.Proofs.Sessions
import FaultChain.Proofs.Teardown

/-!
# What handles count for

A handle on an error and a handle on a context are one reference each.  For errors this is `Owned`,
carried through a run (`Session.Balanced.run`).  A context has no other references than handles, so
its count is that of the handles on it (`Session.Counted`), with one exception: dropping the last
handle while errors are registered is refused by the context, but the handle is gone all the same.
The context is then *lost*; it counts one reference that nobody holds, and as nobody can name it any
more, it stays so.

### What is load-bearing

`Session.Fits` is the one thing asked of a run: no object comes to have `2 ^ 32` references.  Counts
are kept in words of that size and do not saturate, so the bound cannot be spared.

### Lost contexts

There are two ways to give up the last handle on a context with errors.  Releasing it is refused and
the handle comes back, so the user can try again.  Dropping it cannot be refused: the handle is
gone, the context restores its count, and nobody will ever release it.  That is the code's own
behaviour, and the law says it: such contexts are collected along a run (`Session.lost`), and of
each of them it is known that it counts one reference and has no handle.  Were they left out, counts
of contexts would be handles only up to an unknown error.

### Why the bound is not one invariant more

`Fits` is asked of every operation of a run, in the session in which it is performed, and not of the
run as a whole: how many references there will be depends on what the run does.  It has a part for
the references that an operation takes on the way and one for those that it leaves; a reference may
be taken and given up within one operation.  `Scant` is the same with one bound for everything,
which can be decided for a given run.
-/

namespace FaultChain

open Memory (Block Backend Reentry)

namespace Store

/-- The contexts of two stores are the same but for their registries.  What is left of a context
without its registry is its `bare` part. -/
def SameContexts (s₀ s : Store) : Prop :=
  s.contexts.next = s₀.contexts.next ∧
    ∀ c, (s.contexts.get? c).map Context.bare = (s₀.contexts.get? c).map Context.bare

/-- What leaves contexts alone leaves them the same. -/
theorem sameContexts_of_eq {s₀ s s' : Store} (h : s₀.SameContexts s)
    (heq : s'.contexts = s.contexts) : s₀.SameContexts s' := by
  unfold SameContexts
  rw [heq]
  exact h

/-- A registry changes. -/
theorem SameContexts.modify {s₀ s s' : Store} {c : ContextId} {g : Context → Context}
    (h : s₀.SameContexts s) (hg : ∀ context, (g context).bare = context.bare)
    (heq : s'.contexts = s.contexts.modify c g) : s₀.SameContexts s' := by
  unfold SameContexts
  rw [heq, Arena.next_modify]
  refine ⟨h.1, fun c' => ?_⟩
  rw [← h.2 c', Arena.get?_modify]
  split
  · rw [Option.map_map]
    exact congrArg (Option.map · _) (funext hg)
  · rfl

/-- An entry that is taken out changes a registry. -/
theorem SameContexts.untrackOwn {s₀ s : Store} (h : s₀.SameContexts s) (e : FaultId) (f : Fault) :
    s₀.SameContexts (s.untrackOwn e f) := by
  unfold Store.untrackOwn Store.untrack
  split
  · split
    · exact h
    · split
      · exact h
      · refine h.modify ?_ rfl
        exact fun _ => rfl
  · exact h

/-- So does emptying one. -/
theorem SameContexts.detachRegistry {s₀ s : Store} (h : s₀.SameContexts s) (c : ContextId) :
    s₀.SameContexts (s.detachRegistry c).1 := by
  cases hget : s.contexts.get? c with
  | none =>
      rw [Store.detachRegistry, hget]
      exact h
  | some context =>
      rw [detachRegistry_eq s hget]
      refine h.modify (c := c) (g := fun context => { context with registry := [] })
        (fun _ => rfl) ?_
      rw [contexts_freeAll, contexts_detachAll]
      rfl

/-- What is not done to contexts themselves leaves them the same.  Requests, releases and readings
may take entries out of registries, and that is all that they do to contexts. -/
theorem upheld_sameContexts (s₀ : Store) : Upheld fun _ s => s₀.SameContexts s where
  enter h _ := h
  settle _ _ h _ _ := h
  free h := h
  absent h _ := h
  lessen h _ _ := h
  destroy {_ s e f} h _ _ := by
    have hcontexts : ((s.untrackOwn e f).destroy e f).contexts = (s.untrackOwn e f).contexts := by
      rw [destroy_eq, contexts_freeAll]
      rfl
    exact sameContexts_of_eq (h.untrackOwn e f) hcontexts
  evict _ h := h
  install h _ _ _ _ _ := h
  emit _ _ _ h := h
  openBackend _ _ h := h
  failNext _ _ h := h
  arrange h _ := h
  add h _ _ _ _ _ := h
  enlist h _ _ _ _ _ := by
    refine h.modify ?_ rfl
    exact fun _ => rfl
  dismiss h _ := h
  detachRegistry c h _ := h.detachRegistry c

/-- Nobody's holdings are looked at. -/
theorem blind_sameContexts (s₀ : Store) : Blind fun _ s => s₀.SameContexts s :=
  fun _ _ _ _ _ h => h

/-- Nor are references that are taken. -/
theorem takes_sameContexts (s₀ : Store) (es : List FaultId) :
    Takes (fun _ s => s₀.SameContexts s) (fun _ s => s₀.SameContexts s) es :=
  fun _ _ h _ _ => foldl_retain (fun _ _ h => h) es h

/-- A context is added, or none and the others are as they were.  The readers who are let in on the
request are part of either case. -/
theorem createContext_cases (s : Store) (b : BackendId) (settings : Settings) :
    (∃ why, (s.createContext b settings).2 = .error why ∧
        s.SameContexts (s.createContext b settings).1) ∨
      ((s.createContext b settings).2 = .ok s.contexts.next ∧
        ∃ s₁ : Store, ∃ context : Context, s.SameContexts s₁ ∧
          (s.createContext b settings).1.contexts = s₁.contexts.insert context ∧
          context.refs = 1 ∧ context.generation = Context.initialGeneration) := by
  unfold Store.createContext createContextWith
  have hsame : s.SameContexts s := ⟨rfl, fun _ => rfl⟩
  split
  · exact .inl ⟨_, rfl, hsame⟩
  · have hrequest := (upheld_sameContexts s).toKept.request (o := {}) hsame b .context
    split
    · next s₁ heq =>
        rw [heq] at hrequest
        exact .inl ⟨_, rfl, hrequest⟩
    · next s₁ block heq =>
        rw [heq] at hrequest
        exact .inr ⟨congrArg Except.ok hrequest.1, s₁, _, hrequest, rfl, rfl, rfl⟩

end Store

namespace Session

/-- A session holds the same contexts as another, and has ended or not as that one has.  It is what
most operations leave, whatever else they do. -/
def Beside (s s' : Session) : Prop :=
  s'.contexts = s.contexts ∧ s'.aborted = s.aborted

section Beside

variable {s : Session} {h : Handle}

/-- Acting on a context that is held, or doing nothing. -/
theorem beside_withContext {act : Session → ContextId → Session × Outcome}
    (hact : ∀ c, s.Beside (act s c).1) : s.Beside (s.withContext h act).1 :=
  of_withContext ⟨rfl, rfl⟩ hact

/-- Acting on an error that is held, or doing nothing. -/
theorem beside_withFault {act : Session → FaultId → Session × Outcome}
    (hact : ∀ e, s.Beside (act s e).1) : s.Beside (s.withFault h act).1 :=
  of_withFault ⟨rfl, rfl⟩ hact

/-- A copy is held beside contexts. -/
theorem beside_keepCopy (store : Store) (result : Except Failure Copy) :
    s.Beside (keepCopy ({ s with store }, result)).1 := by
  cases result <;> exact ⟨rfl, rfl⟩

/-- So is a loan. -/
theorem beside_allocate (c : ContextId) (layout : Memory.Layout) :
    s.Beside (s.allocate c layout).1 := by
  rw [allocate, onStore_eq]
  cases (s.store.allocate c layout).2 <;> exact ⟨rfl, rfl⟩

/-- A loan that comes back is let go beside them. -/
theorem beside_free (c : ContextId) (loan : Loan) : s.Beside (s.free c h loan).1 := by
  rw [free, onStore_eq]
  cases (s.store.freeThrough c loan.block).2 <;> exact ⟨rfl, rfl⟩

/-- So is an error. -/
theorem beside_createFault (c : ContextId) (draft : Draft) (cause : Option FaultId) :
    s.Beside (s.createFault c draft cause).1 := by
  rw [createFault, onStore_eq]
  cases (s.store.create c draft cause).2 <;> exact ⟨rfl, rfl⟩

/-- So is a handle on a cause. -/
theorem beside_takeCause (e : FaultId) : s.Beside (s.takeCause e).1 := by
  unfold takeCause
  split <;> exact ⟨rfl, rfl⟩

/-- What is not done to contexts leaves the handles on them alone.  There is one case for each such
operation, and none of them looks at the answer. -/
theorem beside_act {operation : Operation} (hcontext : operation.isContextual = false) :
    s.Beside (s.act operation).1 := by
  cases operation with
  | openBackend limit rule => exact ⟨rfl, rfl⟩
  | failNext b offsets => exact ⟨rfl, rfl⟩
  | letIn b readers =>
      rw [Session.act]
      split <;> exact ⟨rfl, rfl⟩
  | createContext settings rule => cases hcontext
  | retainContext k => cases hcontext
  | releaseContext k diagnostics keep => cases hcontext
  | dropContext k => cases hcontext
  | allocate k layout => exact beside_withContext fun c => beside_allocate c layout
  | free k l =>
      refine beside_withContext fun c => ?_
      unfold withLoan
      split
      · exact ⟨rfl, rfl⟩
      · exact beside_free c _
  | detachRegistry k => exact beside_withContext fun _ => ⟨rfl, rfl⟩
  | track k l => exact beside_withContext fun _ => beside_withFault fun _ => ⟨rfl, rfl⟩
  | untrack k l => exact beside_withContext fun _ => beside_withFault fun _ => ⟨rfl, rfl⟩
  | createFault k draft cause =>
      cases cause with
      | none => exact beside_withContext fun c => beside_createFault c draft none
      | some l =>
          exact beside_withContext fun c => beside_withFault fun e =>
            beside_createFault c draft (some e)
  | retainFault k => exact beside_withFault fun _ => ⟨rfl, rfl⟩
  | dropFault k => exact beside_withFault fun _ => ⟨rfl, rfl⟩
  | takeCause k => exact beside_withFault fun e => beside_takeCause e
  | read k passes => exact beside_withFault fun _ => ⟨rfl, rfl⟩
  | copyDocument k l passes =>
      exact beside_withContext fun _ => beside_withFault fun _ => beside_keepCopy _ _
  | copyMessage k l =>
      exact beside_withContext fun _ => beside_withFault fun _ => beside_keepCopy _ _
  | dropCopy k =>
      rw [Session.act, withCopy]
      split <;> exact ⟨rfl, rfl⟩

/-- What is not done to contexts themselves changes registries at most. -/
theorem sameContexts_act {operation : Operation} (hcontext : operation.isContextual = false)
    (hhook : operation.isHook = false) : s.store.SameContexts (s.act operation).1.store :=
  (Store.upheld_sameContexts s.store).act (Store.upheld_sameContexts s.store) id hcontext hhook
    (Store.takes_sameContexts _ _) (.inr (Store.blind_sameContexts _)) ⟨rfl, fun _ => rfl⟩

end Beside

/-! ## Handles on contexts

A reference on a context is a handle, but for a handle that was dropped and refused: the context
then keeps the reference and nobody has it.  So it is known of every context whether it is lost.
-/

/-- The context that an operation loses: its last handle is dropped while errors are registered.
The reference stays, and nobody has a handle for it. -/
def loses (s : Session) : Operation → List ContextId
  | .dropContext h =>
    (s.contexts.get? h).toList.filter fun c =>
      s.contexts.values.count c == 1 && (s.store.contexts.get? c).any (·.live != 0)
  | _ => []

/-- The contexts that a run loses. -/
def lost (s : Session) : List Operation → List ContextId
  | [] => []
  | operation :: rest => s.loses operation ++ (s.perform operation).1.lost rest

/-- **Every context counts the handles on it**, unless it is lost.  A context that is gone counts
nothing that matters. -/
structure Counted (s : Session) (lost : List ContextId) : Prop where
  held_known : ∀ c ∈ s.contexts.values, c < s.store.contexts.next
  lost_known : ∀ c ∈ lost, c < s.store.contexts.next
  counted : ∀ {c context}, s.store.contexts.get? c = some context → context.valid = true →
    if c ∈ lost then context.refs = 1 ∧ s.contexts.values.count c = 0
    else context.refs = .ofNat (s.contexts.values.count c) ∧ 0 < s.contexts.values.count c

section Counted

variable {s s' : Session} {past past' : List ContextId} {c : ContextId} {context : Context}
  {h : Handle}

/-- A change of one context and of the handles on it.  All operations on contexts are such changes;
what is to be shown for each is the last condition. -/
theorem Counted.change (hs : s.Counted past)
    (hnext : s.store.contexts.next ≤ s'.store.contexts.next) (hc : c < s'.store.contexts.next)
    (hlost : ∀ c' ≠ c, c' ∈ past' ↔ c' ∈ past)
    (hcontexts : ∀ c' ≠ c, (s'.store.contexts.get? c').map Context.bare =
      (s.store.contexts.get? c').map Context.bare)
    (hhandles : ∀ c' ≠ c, s'.contexts.values.count c' = s.contexts.values.count c')
    (hself : ∀ context, s'.store.contexts.get? c = some context → context.valid = true →
      if c ∈ past' then context.refs = 1 ∧ s'.contexts.values.count c = 0
      else context.refs = .ofNat (s'.contexts.values.count c) ∧ 0 < s'.contexts.values.count c) :
    s'.Counted past' := by
  constructor
  case held_known =>
    intro c' hmem
    by_cases heq : c' = c
    · exact heq ▸ hc
    · rw [← Multiset.count_pos, hhandles c' heq, Multiset.count_pos] at hmem
      exact Nat.lt_of_lt_of_le (hs.held_known c' hmem) hnext
  case lost_known =>
    intro c' hmem
    by_cases heq : c' = c
    · exact heq ▸ hc
    · exact Nat.lt_of_lt_of_le (hs.lost_known c' ((hlost c' heq).1 hmem)) hnext
  case counted =>
    intro c' context' hget' hvalid'
    by_cases heq : c' = c
    · subst heq
      exact hself context' hget' hvalid'
    · have hmap := hcontexts c' heq
      rw [hget', Option.map_some, eq_comm, Option.map_eq_some_iff] at hmap
      obtain ⟨context, hget, hbare⟩ := hmap
      have hrefs : context.refs = context'.refs := (congrArg Context.refs hbare :)
      have hcounted := hs.counted hget ((Context.valid_of_bare hbare).trans hvalid')
      simp only [hlost c' heq, hhandles c' heq, ← hrefs]
      exact hcounted

/-- Contexts and the handles on them stay as they are. -/
theorem Counted.same (hs : s.Counted past) (hstore : s.store.SameContexts s'.store)
    (hcontexts : s'.contexts = s.contexts) : s'.Counted past := by
  constructor
  case held_known =>
    rw [hcontexts, hstore.1]
    exact hs.held_known
  case lost_known =>
    rw [hstore.1]
    exact hs.lost_known
  case counted =>
    intro c' context' hget' hvalid'
    have hmap := hstore.2 c'
    rw [hget', Option.map_some, eq_comm, Option.map_eq_some_iff] at hmap
    obtain ⟨context, hget, hbare⟩ := hmap
    have hrefs : context.refs = context'.refs := (congrArg Context.refs hbare :)
    rw [hcontexts, ← hrefs]
    exact hs.counted hget ((Context.valid_of_bare hbare).trans hvalid')

/-- A context on which there is a handle is not lost.  Once it is lost nobody can get a handle on
it, as handles come from handles. -/
theorem Counted.of_handle (hs : s.Counted past) (hh : s.contexts.get? h = some c)
    (hget : s.store.contexts.get? c = some context) (hvalid : context.valid = true) :
    c ∉ past ∧ context.refs = .ofNat (s.contexts.values.count c) := by
  have hpos := Multiset.count_pos.2 (Arena.mem_values hh)
  have hcounted := hs.counted hget hvalid
  split at hcounted
  · omega
  · next hlost => exact ⟨hlost, hcounted.1⟩

/-- A new context counts the one handle on it that is given out.  Nobody had one before, as its key
is new. -/
theorem Counted.createContext (hs : s.Counted past) (settings : Settings) (rule : Memory.Rule) :
    (s.createContext settings rule).1.Counted past := by
  have hover : ∃ store b, (store : Store).contexts = s.store.contexts ∧
      Session.createOver s.store settings rule = store.createContext b settings := by
    unfold Session.createOver
    split
    · exact ⟨_, _, rfl, rfl⟩
    · exact ⟨(s.store.openBackend none rule).1, _, rfl, rfl⟩
  obtain ⟨store, b, hcontexts, hover⟩ := hover
  rw [Session.createContext, onStore_eq, hover]
  rcases store.createContext_cases b settings with
    ⟨why, hanswer, hsame⟩ | ⟨hanswer, s₁, context, hsame, hinsert, hrefs, -⟩
  · rw [hanswer]
    unfold Store.SameContexts at hsame
    rw [hcontexts] at hsame
    exact hs.same hsame rfl
  · rw [hanswer]
    unfold Store.SameContexts at hsame
    rw [hcontexts] at hsame hanswer ⊢
    -- No handle is on a key that was not given out yet, and none is lost.
    have hfresh : s.contexts.values.count s.store.contexts.next = 0 :=
      Multiset.count_eq_zero.2 fun hmem => absurd (hs.held_known _ hmem) (Nat.lt_irrefl _)
    have hnew : s.store.contexts.next ∉ past :=
      fun hmem => absurd (hs.lost_known _ hmem) (Nat.lt_irrefl _)
    refine hs.change (c := s.store.contexts.next) ?_ ?_ (fun _ _ => Iff.rfl) (fun c' hne => ?_)
      (fun c' hne => ?_) (fun context' hget _ => ?_)
    · show _ ≤ (store.createContext b settings).1.contexts.next
      rw [hinsert, Arena.next_insert, hsame.1]
      exact Nat.le_succ _
    · show _ < (store.createContext b settings).1.contexts.next
      rw [hinsert, Arena.next_insert, hsame.1]
      exact Nat.lt_succ_self _
    · show ((store.createContext b settings).1.contexts.get? c').map _ = _
      rw [hinsert, Arena.get?_insert, hsame.1, if_neg hne]
      exact hsame.2 c'
    · show Multiset.count c' (s.contexts.insert _).values = _
      rw [Arena.values_insert, Multiset.count_cons_of_ne hne]
    · change (store.createContext b settings).1.contexts.get? _ = _ at hget
      rw [hinsert, Arena.get?_insert, hsame.1, if_pos rfl, Option.some.injEq] at hget
      show if _ then _ ∧ Multiset.count _ (s.contexts.insert _).values = 0
        else _ = UInt32.ofNat (Multiset.count _ (s.contexts.insert _).values) ∧
          0 < Multiset.count _ (s.contexts.insert _).values
      rw [if_neg hnew, Arena.values_insert, Multiset.count_cons_self, hfresh, ← hget, hrefs]
      exact ⟨rfl, Nat.one_pos⟩

/-- Letting go of a handle is seen by its context alone. -/
theorem count_forgetContext (hh : s.contexts.get? h = some c) :
    (∀ c' ≠ c, (s.forgetContext h).contexts.values.count c' = s.contexts.values.count c') ∧
      s.contexts.values.count c = (s.forgetContext h).contexts.values.count c + 1 := by
  have hvalues : s.contexts.values = c ::ₘ (s.forgetContext h).contexts.values :=
    Arena.values_eq_cons_erase hh
  refine ⟨fun c' hne => ?_, ?_⟩
  · rw [hvalues, Multiset.count_cons_of_ne hne]
  · rw [hvalues, Multiset.count_cons_self]

/-- One more handle is one more reference. -/
theorem Counted.retainContext (hs : s.Counted past) (hh : s.contexts.get? h = some c) :
    (s.retainContext c).1.Counted past := by
  have hknown := hs.held_known c (Arena.mem_values hh)
  refine hs.change (c := c) ?_ ?_ (fun _ _ => Iff.rfl) (fun c' hne => ?_) (fun c' hne => ?_)
    (fun context' hget hvalid => ?_)
  · exact Nat.le_of_eq (Arena.next_modify _ _ _).symm
  · exact Nat.lt_of_lt_of_eq hknown (Arena.next_modify _ _ _).symm
  · show ((s.store.contexts.modify c _).get? c').map _ = _
    rw [Arena.get?_modify, if_neg (Ne.symm hne)]
  · show Multiset.count c' (s.contexts.insert c).values = _
    rw [Arena.values_insert, Multiset.count_cons_of_ne hne]
  · change (s.store.contexts.modify c _).get? c = _ at hget
    rw [Arena.get?_modify, if_pos rfl, Option.map_eq_some_iff] at hget
    obtain ⟨context, hget, rfl⟩ := hget
    show if _ then _ ∧ Multiset.count c (s.contexts.insert c).values = 0
      else _ = UInt32.ofNat (Multiset.count c (s.contexts.insert c).values) ∧
        0 < Multiset.count c (s.contexts.insert c).values
    split at hvalid
    · next hvalid =>
        obtain ⟨hlost, hrefs⟩ := hs.of_handle hh hget hvalid
        rw [if_neg hlost, if_pos hvalid, Arena.values_insert, Multiset.count_cons_self,
          UInt32.ofNat_add, ← hrefs]
        exact ⟨rfl, Nat.succ_pos _⟩
    · next hinvalid => exact absurd hvalid hinvalid

/-- A handle on a context that counts one reference is the only one.  This is where the bound is
used: with `2 ^ 32 + 1` handles the context would count one as well, and would be taken down. -/
theorem Counted.count_eq_one_iff (hs : s.Counted past) (hh : s.contexts.get? h = some c)
    (hroom : s.contexts.values.count c ≤ 2 ^ 32) (hget : s.store.contexts.get? c = some context)
    (hvalid : context.valid = true) : s.contexts.values.count c = 1 ↔ context.refs = 1 := by
  have hrefs := (hs.of_handle hh hget hvalid).2
  constructor
  · intro hone
    rw [hrefs, hone]
    rfl
  · intro hone
    exact Store.eq_one_of_ofNat_eq_one hroom (hrefs.symm.trans hone)

/-- What an answer to a release says about the number of handles on a context, before and after, and
about whether the context is lost. -/
def Parts (lost : Prop) (before after : Nat) : Release → Prop
  | .retained => ¬lost ∧ before = after + 1
  | .refused => lost ∧ after = 0 ∨ ¬lost ∧ after = before
  | .aborted => False
  | .invalid | .destroyed => True

/-- A reference on a context is given up: the handle goes with it unless it is refused, and where
the handle goes all the same the context is lost. -/
theorem Counted.release (hs : s.Counted past) (hh : s.contexts.get? h = some c)
    (hget : s.store.contexts.get? c = some context) {diagnostics : Bool}
    (hnext : s'.store.contexts.next = s.store.contexts.next)
    (hstore : ∀ c', s'.store.contexts.get? c' =
      if c = c' then some (context.after (context.outcome diagnostics))
      else s.store.contexts.get? c')
    (hlost : ∀ c' ≠ c, c' ∈ past' ↔ c' ∈ past)
    (hhandles : ∀ c' ≠ c, s'.contexts.values.count c' = s.contexts.values.count c')
    (hparts : Parts (c ∈ past') (s.contexts.values.count c) (s'.contexts.values.count c)
      (context.outcome diagnostics)) : s'.Counted past' := by
  have hknown := hs.held_known c (Arena.mem_values hh)
  refine hs.change (c := c) (Nat.le_of_eq hnext.symm) (hnext ▸ hknown) hlost (fun c' hne => ?_)
    hhandles (fun context' hget' hvalid' => ?_)
  · rw [hstore, if_neg (Ne.symm hne)]
  rw [hstore, if_pos rfl, Option.some.injEq] at hget'
  -- By the answer. Where the context is gone there is nothing to count; else a handle and a
  -- reference go or stay together.
  cases houtcome : context.outcome diagnostics with
  | invalid =>
      rw [houtcome] at hget'
      have hinvalid := Context.outcome_eq_invalid_iff.1 houtcome
      rw [← hget'] at hvalid'
      exact absurd (hinvalid.symm.trans hvalid') Bool.false_ne_true
  | destroyed =>
      rw [houtcome] at hget'
      rw [← hget'] at hvalid'
      exact absurd hvalid' Bool.false_ne_true
  | retained =>
      rw [houtcome] at hget'
      obtain ⟨hvalid, hlast⟩ := Context.outcome_eq_retained_iff.1 houtcome
      rw [houtcome] at hparts
      obtain ⟨hnew, hcount⟩ := hparts
      have hrefs := (hs.of_handle hh hget hvalid).2
      rw [hcount] at hrefs
      rw [if_neg hnew, ← hget', Context.after, hrefs]
      refine ⟨Store.ofNat_succ_sub_one _, Nat.pos_of_ne_zero fun hzero => ?_⟩
      rw [hzero] at hrefs
      exact hlast hrefs
  | refused =>
      rw [houtcome] at hget'
      obtain ⟨hvalid, hlast, -⟩ := Context.outcome_eq_refused_iff.1 houtcome
      have hrefs := (hs.of_handle hh hget hvalid).2
      rw [houtcome] at hparts
      rw [← hget', Context.after]
      rcases hparts with ⟨hgone, hleft⟩ | ⟨hkept, hleft⟩
      · exact if_pos hgone ▸ ⟨hlast, hleft⟩
      · rw [if_neg hkept, hleft]
        exact ⟨hrefs, Multiset.count_pos.2 (Arena.mem_values hh)⟩
  | aborted =>
      rw [houtcome] at hparts
      exact hparts.elim

/-- A release gives up the handle or hands it back.  Which of the two it is depends on the answer,
and the count goes along. -/
theorem Counted.releaseContext (hs : s.Counted past) (hh : s.contexts.get? h = some c)
    (diagnostics keep : Bool)
    (hrunning : (s.releaseContext h c diagnostics keep).1.aborted = false) :
    (s.releaseContext h c diagnostics keep).1.Counted past := by
  obtain ⟨hothers, hcount⟩ := count_forgetContext hh
  rw [Session.releaseContext, onStore_eq] at hrunning ⊢
  cases hget : s.store.contexts.get? c with
  | none =>
      have heq : s.store.releaseContext c diagnostics = (s.store, .invalid) := by
        unfold Store.releaseContext
        rw [hget]
      rw [heq]
      exact hs
  | some context =>
      obtain ⟨hanswer, hnext, hstore⟩ := Store.releaseContext_eq hget diagnostics
      rw [hanswer] at hrunning ⊢
      -- A handle is forgotten exactly if the context is gone or has taken the reference; that the
      -- process went on rules out the last answer.
      cases houtcome : context.outcome diagnostics with
      | invalid =>
          exact hs.release hh hget hnext hstore (fun _ _ => Iff.rfl) (fun _ _ => rfl)
            (by rw [houtcome]; trivial)
      | destroyed =>
          cases keep with
          | true =>
              exact hs.release hh hget hnext hstore (fun _ _ => Iff.rfl) (fun _ _ => rfl)
                (by rw [houtcome]; trivial)
          | false =>
              exact hs.release hh hget hnext hstore (fun _ _ => Iff.rfl) hothers
                (by rw [houtcome]; trivial)
      | retained =>
          have hvalid := (Context.outcome_eq_retained_iff.1 houtcome).1
          refine hs.release hh hget hnext hstore (fun _ _ => Iff.rfl) hothers ?_
          rw [houtcome]
          exact ⟨(hs.of_handle hh hget hvalid).1, hcount⟩
      | refused =>
          have hvalid := (Context.outcome_eq_refused_iff.1 houtcome).1
          refine hs.release hh hget hnext hstore (fun _ _ => Iff.rfl) (fun _ _ => rfl) ?_
          rw [houtcome]
          exact .inr ⟨(hs.of_handle hh hget hvalid).1, rfl⟩
      | aborted =>
          rw [houtcome] at hrunning
          cases hrunning

/-- Dropping a handle loses the context where releasing it would be refused.  The handle is gone
either way, so the count of a refused one has nobody to it. -/
theorem Counted.dropContext (hs : s.Counted past) (hh : s.contexts.get? h = some c)
    (hroom : s.contexts.values.count c ≤ 2 ^ 32) :
    (s.dropContext h c).1.Counted (past ++ s.loses (.dropContext h)) := by
  obtain ⟨hothers, hcount⟩ := count_forgetContext hh
  obtain ⟨hsame, hcontexts⟩ := s.store.dropContext_eq c
  have hlost : ∀ c' ≠ c, c' ∈ past ++ s.loses (.dropContext h) ↔ c' ∈ past := by
    intro c' hne
    rw [loses, hh, Option.toList_some, List.mem_append, List.mem_filter, List.mem_singleton]
    exact or_iff_left fun hmem => hne hmem.1
  have hself : c ∈ s.loses (.dropContext h) ↔ s.contexts.values.count c = 1 ∧
      (s.store.contexts.get? c).any (·.live != 0) = true := by
    rw [loses, hh, Option.toList_some, List.mem_filter, List.mem_singleton, Bool.and_eq_true,
      beq_iff_eq]
    exact and_iff_right rfl
  rw [Session.dropContext, onStore_eq, hsame]
  cases hget : s.store.contexts.get? c with
  | none =>
      have heq : s.store.releaseContext c Verdict.diagnosing = (s.store, .invalid) := by
        unfold Store.releaseContext
        rw [hget]
      rw [heq] at hcontexts ⊢
      refine hs.change (c := c) (Nat.le_of_eq (congrArg Arena.next hcontexts.symm)) ?_ hlost
        (fun c' _ => congrArg (fun contexts => (contexts.get? c').map Context.bare) hcontexts)
        hothers (fun context hget' _ => ?_)
      · exact Nat.lt_of_lt_of_eq (hs.held_known c (Arena.mem_values hh))
          (congrArg Arena.next hcontexts.symm)
      · have hnone := (congrArg (·.get? c) hcontexts).trans hget
        cases hget'.symm.trans hnone
  | some context =>
      obtain ⟨hanswer, hnext, hstore⟩ := Store.releaseContext_eq hget Verdict.diagnosing
      rw [hanswer]
      rw [← hcontexts] at hnext hstore
      rw [hget, Option.any_some] at hself
      cases houtcome : context.outcome Verdict.diagnosing with
      | invalid =>
          exact hs.release hh hget hnext hstore hlost hothers (by rw [houtcome]; trivial)
      | destroyed =>
          exact hs.release hh hget hnext hstore hlost hothers (by rw [houtcome]; trivial)
      | retained =>
          obtain ⟨hvalid, hlast⟩ := Context.outcome_eq_retained_iff.1 houtcome
          refine hs.release hh hget hnext hstore hlost hothers ?_
          rw [houtcome]
          refine ⟨?_, hcount⟩
          rw [List.mem_append, not_or, hself, hs.count_eq_one_iff hh hroom hget hvalid]
          exact ⟨(hs.of_handle hh hget hvalid).1, fun hmem => hlast hmem.1⟩
      | refused =>
          obtain ⟨hvalid, hlast, hregistry, -⟩ := Context.outcome_eq_refused_iff.1 houtcome
          -- The handle was the last one, and what is registered keeps the context from going.
          have hone := (hs.count_eq_one_iff hh hroom hget hvalid).2 hlast
          have hlive : (context.live != 0) = true :=
            bne_iff_ne.2 fun hzero => hregistry (List.eq_nil_of_length_eq_zero hzero)
          refine hs.release hh hget hnext hstore hlost hothers ?_
          rw [houtcome]
          exact .inl ⟨List.mem_append_right past (hself.2 ⟨hone, hlive⟩),
            Nat.succ.inj (hcount.symm.trans hone)⟩
      | aborted =>
          -- Nobody who drops a handle asks for a diagnosis.
          have hdiagnosing := (Context.outcome_eq_aborted_iff.1 houtcome).2.2.2
          cases hdiagnosing

end Counted

/-! ## Runs

An operation may take references only as long as there is room for them, which is the one premise
that a run needs.  It is put as a condition on each step, so that it can be decided for a run that
is given.
-/

/-- **No object comes to have `2 ^ 32` references**: an operation has room for those that it takes,
and leaves fewer on every object.  Counts wrap around, so an object with more of them would be taken
for one with few, and go while it is still referred to. -/
structure Fits (s : Session) (operation : Operation) : Prop where
  room : ∀ e, (s.holdings.references s.store).count e + (s.takes operation).count e ≤ 2 ^ 32
  faults : ∀ e, ((s.perform operation).1.holdings.references
    (s.perform operation).1.store).count e < 2 ^ 32
  contexts : ∀ c, (s.perform operation).1.contexts.values.count c < 2 ^ 32

/-- Whether there are fewer than `2 ^ 32` references and handles in all.  It asks for more than is
needed and can be decided without going through all objects. -/
def Scant (s : Session) (operation : Operation) : Prop :=
  (s.holdings.references s.store).card + (s.takes operation).length < 2 ^ 32 ∧
    ((s.perform operation).1.holdings.references (s.perform operation).1.store).card < 2 ^ 32 ∧
    (s.perform operation).1.contexts.values.card < 2 ^ 32

instance (s : Session) (operation : Operation) : Decidable (s.Scant operation) :=
  inferInstanceAs (Decidable (_ ∧ _ ∧ _))

/-- What is few in all is few for every object. -/
theorem Scant.fits {s : Session} {operation : Operation} (h : s.Scant operation) :
    s.Fits operation where
  room e := Nat.le_trans
    (Nat.add_le_add (Multiset.count_le_card e _) List.count_le_length) (Nat.le_of_lt h.1)
  faults e := Nat.lt_of_le_of_lt (Multiset.count_le_card e _) h.2.1
  contexts c := Nat.lt_of_le_of_lt (Multiset.count_le_card c _) h.2.2

/-- What every session keeps that has not run out of references.  After an abort the handles on
contexts need not be counted, as nobody can use them. -/
structure Balanced (s : Session) (lost : List ContextId) : Prop where
  owned : Store.Owned (fun _ => 2 ^ 32) s.holdings s.store
  faults : ∀ e, (s.holdings.references s.store).count e < 2 ^ 32
  contexts : ∀ c, s.contexts.values.count c < 2 ^ 32
  counted : s.aborted = false → s.Counted lost

section Runs

variable {s : Session} {past : List ContextId} {operation : Operation}

/-- References are taken on errors to which there are references: on an error that is held, or on
the cause of one. -/
theorem mem_references_of_mem_takes {e : FaultId} (hmem : e ∈ s.takes operation) :
    e ∈ s.holdings.references s.store := by
  have hheld : ∀ {h : Handle} {e : FaultId}, s.faults.get? h = some e →
      e ∈ s.holdings.references s.store :=
    fun hget => Store.mem_references_of_mem_faults (Arena.mem_values hget)
  cases operation with
  | letIn b readers =>
      obtain ⟨guest, -, hget⟩ := List.mem_filterMap.1 hmem
      exact hheld hget
  | createFault h draft cause =>
      cases cause with
      | none => cases hmem
      | some h => exact hheld (Option.mem_toList.1 hmem)
  | retainFault h => exact hheld (Option.mem_toList.1 hmem)
  | takeCause h =>
      obtain ⟨f, hfault, hcause⟩ := Option.bind_eq_some_iff.1 (Option.mem_toList.1 hmem)
      obtain ⟨e', -, hfault⟩ := Option.bind_eq_some_iff.1 hfault
      exact Store.Explained.mem_references ⟨f, hfault, hcause⟩
  | _ => cases hmem

/-- An operation that has room for the references that it takes keeps an invariant that bounds
them. -/
theorem perform_of_room {I : (FaultId → Nat) → Holdings → Store → Prop}
    (hI : ∀ {cap}, (∀ e, 1 ≤ cap e) → (∀ e, cap e ≤ 2 ^ 32) → Store.Invariant (I cap))
    (htakes : ∀ cap es, Store.Takes (I cap) (I fun e => cap e + es.count e) es)
    (hwithin : ∀ {cap o store}, I cap o store → ∀ e, (o.references store).count e ≤ cap e)
    (hmono : ∀ {cap cap' o store}, I cap o store →
      (∀ e, (o.references store).count e ≤ cap' e) → I cap' o store)
    (hhook : operation.isHook = false)
    (hroom : ∀ e, (s.holdings.references s.store).count e + (s.takes operation).count e ≤ 2 ^ 32)
    (hloan : s.Returns operation ∨ Store.Blind (I fun _ => 2 ^ 32))
    (h : I (fun _ => 2 ^ 32) s.holdings s.store) :
    I (fun _ => 2 ^ 32) (s.perform operation).1.holdings (s.perform operation).1.store := by
  -- The bound to start with leaves room for what the operation takes.
  let cap : FaultId → Nat := fun e => 2 ^ 32 - (s.takes operation).count e
  have hcap : ∀ e, 1 ≤ cap e ∧ cap e + (s.takes operation).count e = 2 ^ 32 := by
    intro e
    have hle := hroom e
    have hpos : 0 < (s.takes operation).count e → 0 < (s.holdings.references s.store).count e :=
      fun hpos => Multiset.count_pos.2 (mem_references_of_mem_takes (List.count_pos_iff.1 hpos))
    constructor <;> simp only [cap] <;> omega
  have hbefore : I cap s.holdings s.store := hmono h fun e => Nat.le_sub_of_add_le (hroom e)
  have hafter : Store.Invariant (I fun _ => 2 ^ 32) :=
    hI (fun _ => Nat.one_le_two_pow) fun _ => Nat.le_refl _
  refine (hI (fun e => (hcap e).1) fun e => Nat.sub_le _ _).perform hafter.toUpheld
    (fun h => hmono h fun e => Nat.le_trans (hwithin h e) (Nat.sub_le _ _)) hhook
    (fun o store h hfresh hmem => ?_) hloan hbefore
  have htaken := htakes cap _ o store h hfresh hmem
  exact hmono htaken fun e => Nat.le_trans (hwithin htaken e) (Nat.le_of_eq (hcap e).2)

/-- Contexts are lost by dropping handles on them only. -/
theorem loses_eq_nil (hcontext : operation.isContextual = false) : s.loses operation = [] := by
  cases operation with
  | dropContext h => cases hcontext
  | _ => rfl

/-- **An operation** keeps contexts counting, and adds to those that are lost. -/
theorem Counted.act (hs : s.Counted past) (hhook : operation.isHook = false)
    (hroom : ∀ c, s.contexts.values.count c ≤ 2 ^ 32)
    (hrunning : (s.act operation).1.aborted = false) :
    (s.act operation).1.Counted (past ++ s.loses operation) := by
  -- Only operations on contexts matter, and only a handle that is dropped can be lost.
  cases hcontext : operation.isContextual with
  | false =>
      rw [loses_eq_nil hcontext, List.append_nil]
      exact hs.same (sameContexts_act hcontext hhook) (beside_act hcontext).1
  | true =>
    cases operation with
    | createContext settings rule =>
        have hnone : past ++ s.loses (.createContext settings rule) = past := List.append_nil past
        rw [hnone]
        exact hs.createContext settings rule
    | retainContext h =>
        have hnone : past ++ s.loses (.retainContext h) = past := List.append_nil past
        rw [hnone, Session.act, withContext]
        split
        · exact hs
        · next c hh => exact hs.retainContext hh
    | releaseContext h diagnostics keep =>
        have hnone : past ++ s.loses (.releaseContext h diagnostics keep) = past :=
          List.append_nil past
        rw [Session.act, withContext] at hrunning
        rw [hnone, Session.act, withContext]
        split
        · exact hs
        · next c hh =>
            rw [hh] at hrunning
            exact hs.releaseContext hh diagnostics keep hrunning
    | dropContext h =>
        rw [Session.act, withContext]
        split
        · next hh =>
            rw [loses, hh, Option.toList_none, List.filter_nil, List.append_nil]
            exact hs
        · next c hh => exact hs.dropContext hh (hroom c)
    | _ => cases hcontext

/-- An operation keeps counts right, if it has room.  The counts of errors and of contexts are kept
by the same case split on the operation. -/
theorem Balanced.perform (hs : s.Balanced past) (hhook : operation.isHook = false)
    (hfits : s.Fits operation) :
    (s.perform operation).1.Balanced (past ++ s.loses operation) where
  owned := perform_of_room Store.invariant_owned Store.takes_owned Store.Owned.within
    Store.Owned.mono hhook hfits.room (.inr Store.blind_owned) hs.owned
  faults := hfits.faults
  contexts := hfits.contexts
  counted hrunning := by
    unfold Session.perform at hrunning ⊢
    split at hrunning
    · next haborted => exact absurd hrunning (by rw [haborted]; decide)
    · next hstarted =>
        rw [if_neg hstarted]
        exact (hs.counted (Bool.eq_false_iff.2 hstarted)).act hhook
          (fun c => Nat.le_of_lt (hs.contexts c)) hrunning

/-- **A run** keeps counts right, if every operation of it has room. -/
theorem Balanced.run {operations : List Operation} (hs : s.Balanced past)
    (hhooks : ∀ operation ∈ operations, operation.isHook = false)
    (hfits : Throughout Fits s operations) :
    (s.run operations).1.Balanced (past ++ s.lost operations) := by
  induction operations generalizing s past with
  | nil =>
      rw [lost, List.append_nil]
      exact hs
  | cons operation rest ih =>
      rw [lost, ← List.append_assoc]
      exact ih (hs.perform (hhooks operation List.mem_cons_self) hfits.1)
        (fun operation hmem => hhooks operation (List.mem_cons_of_mem _ hmem)) hfits.2

/-- Before anything is done there is nothing to be counted. -/
theorem balanced_start (log : Log) : (start log).Balanced [] where
  owned :=
    { counted := fun hget => absurd hget (by rw [start, Arena.get?_empty]; nofun)
      live := by
        intro e
        constructor
        · intro hmem
          cases hmem
        · rintro ⟨f, hget⟩
          rw [start, Arena.get?_empty] at hget
          cases hget
      older := fun hget => absurd hget (by rw [start, Arena.get?_empty]; nofun)
      within := fun e => Nat.zero_le _ }
  faults _ := Nat.two_pow_pos 32
  contexts _ := Nat.two_pow_pos 32
  counted _ :=
    { held_known := fun c hmem => by cases hmem
      lost_known := fun c hmem => by cases hmem
      counted := fun hget => absurd hget (by rw [start, Arena.get?_empty]; nofun) }

end Runs

/-- **Ownership is exact** after every run that does not run out of references: an error counts the
handles on it, the references that backends hold for readers of it, and the errors that it explains;
it is there if and only if it can be reached from a handle or a reader; and a valid context counts
the handles on it, or one if it is lost. -/
theorem ownership_of_run (log : Log) (operations : List Operation)
    (hhooks : ∀ operation ∈ operations, operation.isHook = false)
    (hfits : Throughout Fits (start log) operations) :
    let s := ((start log).run operations).1
    (∀ e f, s.store.faults.get? e = some f →
      f.refs.toNat = s.faults.values.count e + s.store.pending.count e +
        s.store.faults.values.countP fun g => g.cause = some e) ∧
    (∀ e, (∃ f, s.store.faults.get? e = some f) ↔
      ∃ root, (root ∈ s.faults.values ∨ root ∈ s.store.pending) ∧
        Relation.ReflTransGen s.store.Explained root e) ∧
    (s.aborted = false → ∀ c context, s.store.contexts.get? c = some context →
      context.valid = true →
      if c ∈ (start log).lost operations then
        context.refs.toNat = 1 ∧ s.contexts.values.count c = 0
      else context.refs.toNat = s.contexts.values.count c) := by
  intro s
  have hs : s.Balanced ((start log).lost operations) := (balanced_start log).run hhooks hfits
  refine ⟨fun e f hget => ?_, fun e => hs.owned.live_iff_reachable rfl,
    fun hrunning c context hget hvalid => ?_⟩
  · have hbelow := hs.faults e
    rw [hs.owned.counted hget, UInt32.toNat_ofNat_of_lt' hbelow, ← Store.count_causes]
    simp only [Holdings.references, Multiset.count_add]
    rfl
  · have hcounted := (hs.counted hrunning).counted hget hvalid
    split at hcounted
    · next hlost =>
        rw [if_pos hlost, hcounted.1]
        exact ⟨rfl, hcounted.2⟩
    · next hkept =>
        rw [if_neg hkept, hcounted.1, UInt32.toNat_ofNat_of_lt' (hs.contexts c)]

/-- In the sample run a context is lost and a reader is waiting, and the counts are right.  Both are
the cases in which a reference is held by nobody's handle. -/
theorem ownership_of_sampleRun :
    (∀ operation ∈ sampleRun, operation.isHook = false) ∧
    Throughout Fits (start { filter := .off }) sampleRun ∧
    (let s := ((start { filter := .off }).run sampleRun).1
    (∀ e f, s.store.faults.get? e = some f →
      f.refs.toNat = s.faults.values.count e + s.store.pending.count e +
        s.store.faults.values.countP fun g => g.cause = some e) ∧
    (∀ e, (∃ f, s.store.faults.get? e = some f) ↔
      ∃ root, (root ∈ s.faults.values ∨ root ∈ s.store.pending) ∧
        Relation.ReflTransGen s.store.Explained root e) ∧
    (s.aborted = false → ∀ c context, s.store.contexts.get? c = some context →
      context.valid = true →
      if c ∈ (start { filter := .off }).lost sampleRun then
        context.refs.toNat = 1 ∧ s.contexts.values.count c = 0
      else context.refs.toNat = s.contexts.values.count c)) := by
  have hhooks : ∀ operation ∈ sampleRun, operation.isHook = false := by decide
  have hscant : Throughout Scant (start { filter := .off }) sampleRun := by decide +kernel
  have hfits := hscant.mono fun _ _ => Scant.fits
  exact ⟨hhooks, hfits, ownership_of_run { filter := .off } sampleRun hhooks hfits⟩

end Session

end FaultChain

import FaultChain.Proofs.Ownership

/-!
# Every block has one owner

A backend remembers what it handed out and what came back; the store shows who lives in which block.
`Accounted` says that the two agree: a block is outstanding as often as it is owned, by a context,
an entry of a registry, an error, a document, or somebody outside the store.  As a block is known by
the number of its request, and numbers are never given out twice, this excludes that a block is
freed twice, freed with another layout, or lost (`Memory.Honest`).

### What is load-bearing

A document is allocated through the context of its error and freed through the backend of the error,
so both must be one (`Accounted.homed`).  It is left on the error after requests that let readers
in, so the error must still be there; this is where the references have to be right, and the reason
why `Accounted` is carried together with `Owned` (`Ledger`).

### Why a multiset of owners

Two records could live in one block, and a block could be in nobody's hands; both are wrong, and
neither is excluded by saying of each record that it has a block.  `Accounted.balance` is one
equation for both: for every backend and every block, it is outstanding as often as it is owned.
With an honest history a block is outstanding at most once, so it has at most one owner, and with
the equation it has exactly one.  The owners outside the store, copies and loans and whoever is in
the middle of a build, are on the same side of the equation as those inside (`Holdings.blocks`), so
a block that changes hands leaves it as it is.

### Numbers and readers

A block is numbered when its request enters, and granted when the request is answered, after the
readers that came in with it.  Their requests have greater numbers and are answered earlier.  So
numbers in a history do not rise, and what is kept is that none is used twice: a request that
entered in some store has a number that no later store has used (`Accounted.settle`).
-/

namespace FaultChain

open Memory (Block Backend Reentry Event Layout Rule)

namespace Memory

/-! ## Histories

What a history should be is said by going through it from its end: each block that came back had
been handed out before it and had not come back.  Tallies of such a history are numbers of blocks.
-/

/-- **A history is honest** if every block that came back was handed out, with its layout, and had
not come back before, and no two blocks have the same number. -/
def Honest : List Event → Prop
  | [] => True
  | .granted block :: rest =>
    (∀ other, .granted other ∈ rest → other.serial ≠ block.serial) ∧ Honest rest
  | .refused _ _ :: rest => Honest rest
  | .freed block :: rest => block ∈ outstanding rest ∧ Honest rest

/-- A backend whose history is honest, and goes no further than its requests.  The second clause is
what makes the number of the next request a new one. -/
structure Backend.Orderly (b : Backend) : Prop where
  honest : Honest b.history
  numbered : ∀ block, .granted block ∈ b.history → block.serial ≤ b.requests

/-- What is outstanding was handed out. -/
theorem granted_of_mem_outstanding {history : List Event} {block : Block}
    (h : block ∈ outstanding history) : .granted block ∈ history := by
  induction history with
  | nil => cases h
  | cons event rest ih =>
      cases event with
      | granted other =>
          rcases List.mem_cons.1 h with rfl | h
          · exact List.mem_cons_self
          · exact List.mem_cons_of_mem _ (ih h)
      | refused serial layout => exact List.mem_cons_of_mem _ (ih h)
      | freed other => exact List.mem_cons_of_mem _ (ih (List.mem_of_mem_erase h))

/-- Blocks that came back are gone for good: a block is outstanding at most once. -/
theorem Honest.nodup {history : List Event} (h : Honest history) : (outstanding history).Nodup := by
  induction history with
  | nil => exact List.nodup_nil
  | cons event rest ih =>
      cases event with
      | granted block =>
          refine List.nodup_cons.2 ⟨fun hmem => ?_, ih h.2⟩
          exact h.1 block (granted_of_mem_outstanding hmem) rfl
      | refused serial layout => exact ih h
      | freed block => exact (ih h.2).erase block

/-- What an honest backend handed out came back or is outstanding.  So the difference of its two
counters is the number of blocks that somebody owns. -/
theorem Honest.allocs_eq {history : List Event} (h : Honest history) :
    (Tally.ofHistory history).allocs =
      (Tally.ofHistory history).frees + (outstanding history).length := by
  induction history with
  | nil => rfl
  | cons event rest ih =>
      cases event with
      | granted block =>
          have hrest := ih h.2
          show (Tally.ofHistory rest).allocs + 1 =
            (Tally.ofHistory rest).frees + ((outstanding rest).length + 1)
          omega
      | refused serial layout => exact ih h
      | freed block =>
          have hrest := ih h.2
          have hlength := List.length_erase_of_mem h.1
          have hpos := List.length_pos_of_mem h.1
          show (Tally.ofHistory rest).allocs =
            (Tally.ofHistory rest).frees + 1 + ((outstanding rest).erase block).length
          omega

/-- How many bytes a block holds, if it holds bytes rather than a record.  This is what a backend's
tally of buffers adds up. -/
def Block.bytes (block : Block) : Nat :=
  if block.layout.isBytes then block.layout.size else 0

/-- The tally of buffers is that of the buffers that are outstanding. -/
theorem Honest.bufferBytes_eq {history : List Event} (h : Honest history) :
    (Tally.ofHistory history).bufferBytes = ((outstanding history).map Block.bytes).sum := by
  induction history with
  | nil => rfl
  | cons event rest ih =>
      cases event with
      | granted block =>
          have hrest := ih h.2
          show (Tally.ofHistory rest).bufferBytes + block.bytes =
            block.bytes + ((outstanding rest).map Block.bytes).sum
          omega
      | refused serial layout => exact ih h
      | freed block =>
          have hrest := ih h.2
          have hsum := ((List.perm_cons_erase h.1).map Block.bytes).sum_eq
          rw [List.map_cons, List.sum_cons] at hsum
          show (Tally.ofHistory rest).bufferBytes - block.bytes =
            (((outstanding rest).erase block).map Block.bytes).sum
          omega

end Memory

/-! ## Owners

Blocks belong to contexts, to errors or to whoever holds them.  Each change of the store moves
blocks from one owner to another, grants one or takes one back, and is stated as what was owned
before against what is owned after.
-/

/-- The blocks that a context lives in: its own while it is valid, and those of its entries.  A
context that is gone has given its own block back, although its key is still there. -/
def Context.blocks (context : Context) : List Block :=
  (if context.valid then [context.block] else []) ++ context.registry.map Registration.node

/-- The blocks that a context lives in, with its backend. -/
def Context.owned (context : Context) : Multiset (BackendId × Block) :=
  (context.blocks.map (context.backend, ·) : List (BackendId × Block))

/-- The blocks that an error lives in, with its backend: its own, that of its message, and two for
each document. -/
def Fault.owned (f : Fault) : Multiset (BackendId × Block) :=
  (f.blocks.map (f.backend, ·) : List (BackendId × Block))

/-- More blocks of a backend, in the hands of an operation. -/
def Holdings.ownAll (o : Holdings) (b : BackendId) (blocks : List Block) : Holdings :=
  blocks.foldr (fun block o => o.own b block) o

/-- More blocks are owned besides those before. -/
theorem Holdings.blocks_ownAll (o : Holdings) (b : BackendId) (blocks : List Block) :
    (o.ownAll b blocks).blocks =
      (blocks.map (b, ·) : List (BackendId × Block)) + o.blocks := by
  induction blocks with
  | nil => exact (zero_add o.blocks).symm
  | cons block rest ih =>
      rw [List.map_cons, ← Multiset.cons_coe, Multiset.cons_add, ← ih]
      rfl

namespace Store

/-- The blocks that contexts and errors live in, each with the backend that handed it out. -/
def owned (s : Store) : Multiset (BackendId × Block) :=
  s.contexts.values.bind Context.owned + s.faults.values.bind Fault.owned

/-- The blocks that a backend handed out and that did not come back. -/
def outstanding (s : Store) (b : BackendId) : List Block :=
  ((s.backends.get? b).map fun backend => Memory.outstanding backend.history).getD []

section Owners

variable {s s' : Store} {c : ContextId} {context : Context} {e : FaultId} {f : Fault}

/-- A change of a context, with what it owned before on one side and what it owns after on the
other.  Subtraction of multisets is avoided that way. -/
theorem owned_modifyContext (hget : s.contexts.get? c = some context) (g : Context → Context) :
    (s.modifyContext c g).owned + context.owned = s.owned + (g context).owned := by
  simp only [owned, modifyContext, Arena.values_modify hget, Arena.values_eq_cons_erase hget,
    Multiset.cons_bind]
  abel

/-- What a context gives up, nobody in the store owns any more. -/
theorem owned_eq_of_modifyContext (hget : s.contexts.get? c = some context)
    {g : Context → Context} {gone : Multiset (BackendId × Block)}
    (hg : context.owned = gone + (g context).owned) :
    s.owned = gone + (s.modifyContext c g).owned := by
  have howned := owned_modifyContext hget g
  rw [hg, ← add_assoc, add_left_inj, add_comm] at howned
  exact howned.symm

/-- A new context owns its block. -/
theorem owned_addContext (s : Store) (context : Context) :
    (s.addContext context).owned = context.owned + s.owned := by
  simp only [owned, addContext, Arena.values_insert, Multiset.cons_bind]
  abel

/-- A change of an error, with what it owned before and after. -/
theorem owned_modifyFault (hget : s.faults.get? e = some f) (g : Fault → Fault) :
    (s.modifyFault e g).owned + f.owned = s.owned + (g f).owned := by
  simp only [owned, modifyFault, Arena.values_modify hget, Arena.values_eq_cons_erase hget,
    Multiset.cons_bind]
  abel

/-- An error changes in nothing that it lives in. -/
theorem owned_modifyFault_of_owned (s : Store) (e : FaultId) {g : Fault → Fault}
    (hg : ∀ f, (g f).owned = f.owned) : (s.modifyFault e g).owned = s.owned := by
  cases hget : s.faults.get? e with
  | none => rw [modifyFault, Arena.modify_of_get?_eq_none hget]
  | some f =>
      have howned := owned_modifyFault hget g
      rwa [hg f, add_left_inj] at howned

/-- A context changes in nothing that it lives in. -/
theorem owned_modifyContext_of_owned (s : Store) (c : ContextId) {g : Context → Context}
    (hg : ∀ context, (g context).owned = context.owned) :
    (s.modifyContext c g).owned = s.owned := by
  cases hget : s.contexts.get? c with
  | none => rw [modifyContext, Arena.modify_of_get?_eq_none hget]
  | some context =>
      have howned := owned_modifyContext hget g
      rwa [hg context, add_left_inj] at howned

/-- What an error owned, nobody in the store owns once it is gone. -/
theorem owned_forgetFault (hget : s.faults.get? e = some f) :
    s.owned = f.owned + (s.forgetFault e).owned := by
  simp only [owned, forgetFault, Arena.values_eq_cons_erase hget, Multiset.cons_bind]
  abel

/-- A new error owns its blocks. -/
theorem owned_addFault (s : Store) (f : Fault) : (s.addFault f).owned = f.owned + s.owned := by
  simp only [owned, addFault, Arena.values_insert, Multiset.cons_bind]
  abel

/-- Detaching makes no difference to who owns what: documents stay with the error. -/
theorem owned_detachAll (s : Store) (es : List FaultId) : (s.detachAll es).owned = s.owned := by
  induction es generalizing s with
  | nil => rfl
  | cons e es ih =>
      refine (ih (s.detach e)).trans (owned_modifyFault_of_owned s e ?_)
      exact fun _ => rfl

/-- What is outstanding at a backend is read off its history. -/
theorem outstanding_modifyBackend (s : Store) (b : BackendId) (g : Backend → Backend)
    (b' : BackendId) :
    (s.modifyBackend b g).outstanding b' =
      if b = b' then ((s.backends.get? b').map fun backend =>
        Memory.outstanding (g backend).history).getD []
      else s.outstanding b' := by
  unfold outstanding modifyBackend
  rw [Arena.get?_modify]
  split
  · rw [Option.map_map]
    rfl
  · rfl

end Owners

/-- **Every outstanding block has one owner**, and every owned block is outstanding.  As multisets,
both are the same for each backend. -/
structure Accounted (o : Holdings) (s : Store) : Prop where
  balance : ∀ b block, (s.outstanding b).count block = (s.owned + o.blocks).count (b, block)
  orderly : ∀ {b backend}, s.backends.get? b = some backend → backend.Orderly

section Accounts

variable {o o' : Holdings} {s s' : Store} {b : BackendId} {block : Block} {backend : Backend}
  {c : ContextId} {context : Context} {e : FaultId} {f : Fault}

/-- Blocks change hands, and backends do not see it.  What is owned and what is held are the same
together. -/
theorem Accounted.pass (h : Accounted o s) (hbackends : s'.backends = s.backends)
    (hblocks : s'.owned + o'.blocks = s.owned + o.blocks) : Accounted o' s' where
  balance b block := by
    rw [outstanding, hbackends, hblocks]
    exact h.balance b block
  orderly hget := h.orderly (hbackends ▸ hget)

/-- A backend changes, but neither grants a block nor takes one back. -/
theorem Accounted.quiet (h : Accounted o s) (hblocks : o'.blocks = o.blocks) (b : BackendId)
    {g : Backend → Backend}
    (hout : ∀ backend, s.backends.get? b = some backend →
      Memory.outstanding (g backend).history = Memory.outstanding backend.history)
    (horderly : ∀ backend, s.backends.get? b = some backend → backend.Orderly →
      (g backend).Orderly) : Accounted o' (s.modifyBackend b g) where
  balance b' block := by
    rw [outstanding_modifyBackend, hblocks]
    refine Eq.trans ?_ (h.balance b' block)
    split
    · next heq =>
        subst heq
        unfold outstanding
        cases hget : s.backends.get? b with
        | none => rfl
        | some backend => simp only [Option.map_some, hout backend hget]
    · rfl
  orderly hget := by
    rw [modifyBackend, Arena.get?_modify] at hget
    split at hget
    · next heq =>
        subst heq
        obtain ⟨backend, hbackend, rfl⟩ := Option.map_eq_some_iff.1 hget
        exact horderly backend hbackend (h.orderly hbackend)
    · exact h.orderly hget

/-- A backend hands out a block under a number that it has counted and not used.  So the block is
new to everybody, and its history stays honest. -/
theorem Accounted.grant (h : Accounted o s) (hget : s.backends.get? b = some backend)
    {backend' : Backend} (hhistory : backend'.history = .granted block :: backend.history)
    (hrequests : backend'.requests = backend.requests) (hcounted : block.serial ≤ backend.requests)
    (hunused : ∀ other, .granted other ∈ backend.history → other.serial ≠ block.serial) :
    Accounted (o.own b block) (s.modifyBackend b fun _ => backend') where
  balance b' block' := by
    have hbalance := h.balance b' block'
    have hcons : s.owned + (o.own b block).blocks = (b, block) ::ₘ (s.owned + o.blocks) :=
      Multiset.add_cons _ _ _
    have howned : (s.modifyBackend b fun _ => backend').owned = s.owned := rfl
    rw [outstanding_modifyBackend, howned, hcons]
    -- Both sides have one more of this block of this backend, and as many of all others.
    split
    · next heq =>
        subst heq
        rw [outstanding, hget] at hbalance
        rw [hget, Option.map_some, Option.getD_some, hhistory]
        refine List.count_cons.trans ?_
        rw [Multiset.count_cons, ← hbalance]
        by_cases heq : block' = block
        · subst heq
          rw [if_pos (beq_self_eq_true _), if_pos rfl]
          rfl
        · rw [if_neg fun hsame => heq (beq_iff_eq.1 hsame).symm,
            if_neg fun hsame => heq (Prod.mk.inj hsame).2]
          rfl
    · next hne =>
        rw [Multiset.count_cons_of_ne fun heq => hne (Prod.mk.inj heq).1.symm]
        exact hbalance
  orderly hget' := by
    rw [modifyBackend, Arena.get?_modify] at hget'
    split at hget'
    · next heq =>
        subst heq
        rw [hget, Option.map_some, Option.some.injEq] at hget'
        subst hget'
        have hbackend := h.orderly hget
        constructor
        · rw [hhistory]
          exact ⟨hunused, hbackend.honest⟩
        · intro other hmem
          rw [hhistory] at hmem
          rw [hrequests]
          rcases List.mem_cons.1 hmem with heq | hmem
          · injection heq with heq
            rw [heq]
            exact hcounted
          · exact hbackend.numbered other hmem
    · exact h.orderly hget'

/-- A backend takes back a block that somebody owns.  It was handed out, then, and had not come
back. -/
theorem Accounted.free (h : Accounted (o.own b block) s) : Accounted o (s.free b block) := by
  have hcons : s.owned + (o.own b block).blocks = (b, block) ::ₘ (s.owned + o.blocks) :=
    Multiset.add_cons _ _ _
  have howned : (s.free b block).owned = s.owned := rfl
  -- Somebody owns the block, so the balance says that it did not come back yet.
  have hmem : block ∈ s.outstanding b := by
    rw [← List.count_pos_iff, h.balance, hcons, Multiset.count_cons_self]
    exact Nat.succ_pos _
  constructor
  case balance =>
    intro b' block'
    have hbalance := h.balance b' block'
    rw [hcons] at hbalance
    rw [Store.free, outstanding_modifyBackend]
    show _ = (s.owned + o.blocks).count _
    split
    · next heq =>
        subst heq
        cases hget : s.backends.get? b with
        | none =>
            rw [outstanding, hget] at hmem
            cases hmem
        | some backend =>
            rw [outstanding, hget, Multiset.count_cons] at hbalance
            show ((Memory.outstanding backend.history).erase block).count block' = _
            change (Memory.outstanding backend.history).count block' = _ at hbalance
            rw [List.count_erase, hbalance]
            by_cases heq : block' = block
            · simp [heq]
            · simp [heq, Ne.symm heq]
    · next hne =>
        rw [Multiset.count_cons_of_ne fun heq => hne (Prod.mk.inj heq).1.symm] at hbalance
        exact hbalance
  case orderly =>
    intro b' backend' hget'
    rw [Store.free, modifyBackend, Arena.get?_modify] at hget'
    split at hget'
    · next heq =>
        subst heq
        obtain ⟨backend, hget, rfl⟩ := Option.map_eq_some_iff.1 hget'
        rw [outstanding, hget] at hmem
        have hbackend := h.orderly hget
        refine ⟨⟨hmem, hbackend.honest⟩, fun other hother => hbackend.numbered other ?_⟩
        exact List.mem_of_ne_of_mem (by simp) hother
    · exact h.orderly hget'

/-- Blocks come back one after another. -/
theorem Accounted.freeAll {blocks : List Block} (h : Accounted (o.ownAll b blocks) s) :
    Accounted o (s.freeAll b blocks) := by
  induction blocks generalizing s with
  | nil => exact h
  | cons block rest ih => exact ih (Accounted.free h)

/-- An entry that is taken out of a registry is the one whose block comes back. -/
theorem Context.owned_eraseP {entry : Registration} {p : Registration → Bool}
    (hfind : context.registry.find? p = some entry) :
    context.owned = {(context.backend, entry.node)} +
      { context with registry := context.registry.eraseP p }.owned := by
  obtain ⟨hp, before, after, hregistry, hbefore⟩ := List.find?_eq_some_iff_append.1 hfind
  have herased : context.registry.eraseP p = before ++ after := by
    rw [hregistry, List.eraseP_append_right _ fun r hr => by simpa using hbefore r hr,
      List.eraseP_cons_of_pos hp]
  unfold Context.owned Context.blocks
  rw [herased, hregistry, Multiset.singleton_add, Multiset.cons_coe, Multiset.coe_eq_coe]
  simp only [List.map_append, List.map_cons, ← List.append_assoc]
  exact List.perm_middle

/-- An entry that is taken out gives its block back. -/
theorem Accounted.untrackOwn (h : Accounted o s) (e : FaultId) (f : Fault) :
    Accounted o (s.untrackOwn e f) := by
  unfold Store.untrackOwn Store.untrack
  split
  · split
    · exact h
    · next context hget =>
        split
        · exact h
        · next entry hfind =>
            have howned := owned_eq_of_modifyContext hget (g := fun context =>
              { context with registry := context.registry.eraseP fun r => r.fault == e })
              (Context.owned_eraseP hfind)
            refine Accounted.free (h.pass rfl ?_)
            rw [howned, Holdings.own]
            dsimp only
            rw [← Multiset.singleton_add]
            abel
  · exact h

/-- Everything that an error lives in comes back, and nobody owns it any more. -/
theorem Accounted.destroy (h : Accounted o s) (hget : s.faults.get? e = some f) :
    Accounted o ((s.untrackOwn e f).destroy e f) := by
  have huntracked := h.untrackOwn e f
  have hget' : (s.untrackOwn e f).faults.get? e = some f := by rw [faults_untrackOwn, hget]
  rw [destroy_eq]
  refine Accounted.freeAll (huntracked.pass rfl ?_)
  rw [Holdings.blocks_ownAll, owned_forgetFault hget', Fault.owned]
  abel

/-- So do all entries of a registry. -/
theorem Accounted.detachRegistry (h : Accounted o s) (c : ContextId) :
    Accounted o (s.detachRegistry c).1 := by
  cases hget : s.contexts.get? c with
  | none =>
      rw [Store.detachRegistry, hget]
      exact h
  | some context =>
      rw [detachRegistry_eq s hget]
      have hgone : context.owned = (context.registry.map (context.backend, ·.node) :
          List (BackendId × Block)) + { context with registry := [] }.owned := by
        unfold Context.owned Context.blocks
        rw [Multiset.coe_add, Multiset.coe_eq_coe, List.map_append, List.map_map, List.map_nil,
          List.append_nil]
        exact List.perm_append_comm
      have howned := owned_eq_of_modifyContext hget
        (g := fun context => { context with registry := [] }) hgone
      refine Accounted.freeAll (h.pass (backends_detachAll _ _) ?_)
      rw [howned, owned_detachAll, Holdings.blocks_ownAll, List.map_map, Function.comp_def]
      abel

/-- The blocks of a document become those of the error that it is left on.  Until then they were in
the hands of the build. -/
theorem Accounted.install {own : Cached} (h : Accounted ((o.own b own.node).own b own.text.block) s)
    (hget : s.faults.get? e = some f) (hbackend : f.backend = b) (hcache : f.cache = none) :
    Accounted o (s.modifyFault e fun f => { f with cache := some own }) := by
  have howned := owned_modifyFault hget fun f => { f with cache := some own }
  have hmore : { f with cache := some own }.owned =
      (b, own.text.block) ::ₘ (b, own.node) ::ₘ f.owned := by
    unfold Fault.owned Fault.blocks Fault.documents
    rw [hbackend, hcache]
    rfl
  rw [hmore, Multiset.add_cons, Multiset.add_cons, ← Multiset.cons_add, ← Multiset.cons_add,
    add_left_inj] at howned
  refine h.pass rfl ?_
  rw [howned]
  dsimp only [Holdings.own]
  simp only [Multiset.cons_add, Multiset.add_cons]

/-- A document that is retired keeps its blocks, and its place among what the error owns.  It goes
back when the error does. -/
theorem Accounted.evict (h : Accounted o s) (e : FaultId) : Accounted o (s.evict e) := by
  refine h.pass rfl (congrArg (· + o.blocks) (owned_modifyFault_of_owned s e fun f => ?_))
  unfold Fault.owned Fault.blocks Fault.documents
  rfl

/-- A new error lives in the blocks that were obtained for it. -/
theorem Accounted.add {message : Memory.Buffer} {draft : Draft} {cause : Option FaultId}
    (h : Accounted ((o.own b block).own b message.block) s) :
    Accounted (o.registering e) (s.addFault (ofDraft c b block message draft cause)) := by
  refine h.pass rfl ?_
  rw [owned_addFault]
  dsimp only [Holdings.own, Holdings.registering]
  have howned : (ofDraft c b block message draft cause).owned =
      (b, message.block) ::ₘ (b, block) ::ₘ 0 := rfl
  rw [howned]
  simp only [Multiset.cons_add, Multiset.add_cons, zero_add]

/-- A new entry lives in the block that was obtained for it. -/
theorem Accounted.enlist {node : Block}
    (h : Accounted ((o.registering e).own context.backend node) s)
    (hget : s.contexts.get? c = some context) :
    Accounted (o.hold e) (s.modifyContext c fun context =>
      { context with registry := { fault := e, node } :: context.registry }) := by
  have howned := owned_modifyContext hget fun context =>
    { context with registry := { fault := e, node } :: context.registry }
  have hmore : { context with registry := { fault := e, node } :: context.registry }.owned =
      {(context.backend, node)} + context.owned := by
    unfold Context.owned Context.blocks
    rw [Multiset.singleton_add, Multiset.cons_coe, Multiset.coe_eq_coe]
    simp only [List.map_append, List.map_cons]
    exact List.perm_middle
  rw [hmore, ← add_assoc, add_left_inj] at howned
  refine h.pass rfl ?_
  rw [howned]
  dsimp only [Holdings.own, Holdings.registering, Holdings.hold]
  rw [← Multiset.singleton_add]
  abel

/-- A new context lives in the block that was obtained for it. -/
theorem Accounted.addContext (h : Accounted (o.own b block) s) :
    Accounted o
      (s.addContext { generation := Context.initialGeneration, backend := b, block }) := by
  refine h.pass rfl ?_
  rw [owned_addContext]
  dsimp only [Holdings.own]
  have howned : Context.owned { generation := Context.initialGeneration, backend := b, block } =
      {(b, block)} := rfl
  rw [howned, ← Multiset.singleton_add]
  abel

/-- A context that is taken down gives back its block. -/
theorem Accounted.close {context' : Context} (h : Accounted o s)
    (hget : s.contexts.get? c = some context') (hvalid : context'.valid = true)
    (hbackend : context.backend = context'.backend) (hblock : context.block = context'.block) :
    Accounted o (s.destroyContext c context) := by
  have hgone : context'.owned = {(context'.backend, context'.block)} +
      { context' with valid := false }.owned := by
    unfold Context.owned Context.blocks
    rw [hvalid]
    rfl
  have howned := owned_eq_of_modifyContext hget
    (g := fun context => { context with valid := false }) hgone
  have hpassed : Accounted (o.own context.backend context.block)
      (s.modifyContext c fun context => { context with valid := false }) := by
    refine h.pass rfl ?_
    rw [howned, hbackend, hblock]
    dsimp only [Holdings.own]
    rw [← Multiset.singleton_add]
    abel
  exact hpassed.free.pass rfl rfl

/-- A new backend has handed out nothing. -/
theorem Accounted.openBackend (h : Accounted o s) (limit : Option Nat) (rule : Rule) :
    Accounted o (s.openBackend limit rule).1 where
  balance b block := by
    refine Eq.trans ?_ (h.balance b block)
    rw [outstanding, outstanding, Store.openBackend, Arena.get?_insert]
    split
    · next heq => rw [heq, Arena.get?_eq_none_of_next_le (Nat.le_refl _)]; rfl
    · rfl
  orderly hget := by
    rw [Store.openBackend, Arena.get?_insert] at hget
    split at hget
    · obtain rfl := Option.some.inj hget
      exact ⟨trivial, fun _ hmem => absurd hmem List.not_mem_nil⟩
    · exact h.orderly hget

/-- A request that entered in an earlier store is answered. -/
theorem Accounted.settle {o₀ : Holdings} {s₀ : Store} {backend₀ : Backend} {layout : Layout}
    (h₀ : Accounted o₀ s₀) (hget₀ : s₀.backends.get? b = some backend₀) (h : Accounted o s)
    (hget : s.backends.get? b = some backend) (hlater : backend₀.enter.1.Follows backend) :
    Accounted (o.answered b (backend.settle (backend₀.requests + 1) layout).2)
      (s.modifyBackend b fun _ => (backend.settle (backend₀.requests + 1) layout).1) := by
  unfold Backend.settle
  split
  · refine h.quiet rfl b (fun backend' hget' => ?_) fun backend' hget' horderly => ?_
    · obtain rfl := Option.some.inj (hget.symm.trans hget')
      rfl
    · obtain rfl := Option.some.inj (hget.symm.trans hget')
      exact ⟨horderly.honest, fun block hmem =>
        horderly.numbered block (List.mem_of_ne_of_mem (by simp) hmem)⟩
  · refine h.grant hget rfl rfl hlater.requests fun other hmem heq => ?_
    -- What was granted before the request entered has a smaller number, and the rest a greater one.
    rcases hlater.granted other hmem with hbefore | hafter
    · have hle := (h₀.orderly hget₀).numbered other hbefore
      dsimp only at heq
      omega
    · rw [heq] at hafter
      exact absurd hafter (Nat.lt_irrefl _)

end Accounts

/-! ## What keeps the accounts

The ledger goes along with the references and the links: an error gives its blocks back where its
last reference is given up, and an entry where its error is taken out of the registry.
-/

/-- An attached error was built through the backend of its context.  A detached one keeps its own
backend, and its blocks go back there. -/
def Homed (s : Store) : Prop :=
  ∀ e f c, s.faults.get? e = some f → f.context = some c →
    ∃ context, s.contexts.get? c = some context ∧ context.backend = f.backend

/-- **The references, the links and the blocks are in order.** Blocks cannot be followed without
references, as an error that is gone has given its blocks back. -/
structure Ledger (cap : FaultId → Nat) (o : Holdings) (s : Store) : Prop where
  owned : Owned cap o s
  homed : Homed s
  accounted : Accounted o s

section Keeping

variable {cap cap' : FaultId → Nat} {o : Holdings} {s s' : Store} {c : ContextId}
  {context : Context}

/-- An attached error stays over its backend along the frame. -/
theorem Homed.follows (h : Homed s) (hlater : s.Follows s') : Homed s' := by
  intro e f' c hget' hlink'
  obtain ⟨f, hget, hbare⟩ := hlater.faults hget'
  have hbackend : f'.backend = f.backend := (congrArg Fault.backend hbare :)
  obtain ⟨context, hcontext, heq⟩ := h e f c hget ((Fault.context_of_bare hbare).symm.trans hlink')
  obtain ⟨context', hcontext', hbare'⟩ := hlater.context hcontext
  exact ⟨context', hcontext', (Context.backend_of_bare hbare').trans (heq.trans hbackend.symm)⟩

/-- Contexts keep their backends. -/
theorem Homed.modifyContext (h : Homed s) (c : ContextId) {g : Context → Context}
    (hg : ∀ context, (g context).backend = context.backend) : Homed (s.modifyContext c g) := by
  intro e f c' hget hlink
  obtain ⟨context, hcontext, hbackend⟩ := h e f c' hget hlink
  rw [Store.modifyContext, Arena.get?_modify]
  split
  · next heq =>
      refine ⟨g context, ?_, (hg context).trans hbackend⟩
      rw [hcontext, Option.map_some]
  · exact ⟨context, hcontext, hbackend⟩

/-- A detached error needs no context. -/
theorem Homed.detach (h : Homed s) (e : FaultId) : Homed (s.detach e) := by
  intro e' f' c hget hlink
  rw [Store.detach, modifyFault, Arena.get?_modify] at hget
  split at hget
  · obtain ⟨f, -, rfl⟩ := Option.map_eq_some_iff.1 hget
    cases hlink
  · exact h e' f' c hget hlink

/-- Nor do those of an emptied registry. -/
theorem Homed.detachRegistry (h : Homed s) (c : ContextId) : Homed (s.detachRegistry c).1 := by
  cases hget : s.contexts.get? c with
  | none =>
      rw [Store.detachRegistry, hget]
      exact h
  | some context =>
      have hemptied := h.modifyContext c (g := fun context => { context with registry := [] })
        fun _ => rfl
      rw [detachRegistry_eq s hget]
      intro e f c' hfault hlink
      rw [faults_freeAll, get?_detachAll, Option.map_eq_some_iff] at hfault
      obtain ⟨f₀, hfault, rfl⟩ := hfault
      rw [contexts_freeAll, contexts_detachAll]
      split at hlink
      · cases hlink
      · next hkept =>
          rw [if_neg hkept]
          exact hemptied e f₀ c' hfault hlink

/-- A new context has nobody attached yet. -/
theorem Homed.addContext (h : Homed s) (context : Context) : Homed (s.addContext context) := by
  intro e f c hget hlink
  obtain ⟨context', hcontext, hbackend⟩ := h e f c hget hlink
  refine ⟨context', ?_, hbackend⟩
  rw [Store.addContext, Arena.get?_insert,
    if_neg (Nat.ne_of_lt (Arena.lt_next_of_get? hcontext))]
  exact hcontext

/-- A new error is built through the backend of the context that it is attached to, since that is
where its blocks were asked for. -/
theorem Homed.addFault (h : Homed s) {f : Fault}
    (hf : ∀ c, f.context = some c → ∃ context, s.contexts.get? c = some context ∧
      context.backend = f.backend) : Homed (s.addFault f) := by
  intro e f' c hget hlink
  rw [Store.addFault, Arena.get?_insert] at hget
  split at hget
  · obtain rfl := Option.some.inj hget
    exact hf c hlink
  · exact h e f' c hget hlink

/-- **Every change keeps the ledger**, as long as there is room for the counts.  What is known of
references and links comes from their own invariants; only the accounts are new. -/
theorem invariant_ledger (hcap : ∀ e, 1 ≤ cap e) (hroom : ∀ e, cap e ≤ 2 ^ 32) :
    Invariant (Ledger cap) where
  enter {o s b backend} h hget :=
    { owned := (invariant_owned hcap hroom).enter h.owned hget
      homed := h.homed
      accounted := h.accounted.quiet (Holdings.blocks_holdAll _ _) b
        (fun backend' hget' => by
          obtain rfl := Option.some.inj (hget.symm.trans hget')
          rfl)
        fun backend' hget' horderly => by
          obtain rfl := Option.some.inj (hget.symm.trans hget')
          exact ⟨horderly.honest, fun block hmem =>
            Nat.le_succ_of_le (horderly.numbered block hmem)⟩ }
  settle {o₀ o s₀ s b backend₀ backend layout} h₀ hget₀ h hget hlater :=
    { owned := (invariant_owned hcap hroom).settle h₀.owned hget₀ h.owned hget hlater
      homed := h.homed
      accounted := h₀.accounted.settle hget₀ h.accounted hget hlater }
  free {o s b block} h :=
    { owned := (invariant_owned hcap hroom).free h.owned
      homed := h.homed
      accounted := h.accounted.free }
  absent h hget :=
    { owned := (invariant_owned hcap hroom).absent h.owned hget
      homed := h.homed
      accounted := h.accounted.pass rfl rfl }
  lessen {o s e f} h hget hlast :=
    { owned := (invariant_owned hcap hroom).lessen h.owned hget hlast
      homed := h.homed.follows ((kept_follows s).lessen (o := {}) (.refl s) hget hlast)
      accounted := h.accounted.pass rfl
        (congrArg (· + o.blocks) (owned_modifyFault_of_owned s e fun _ => rfl)) }
  destroy {o s e f} h hget hlast :=
    { owned := (invariant_owned hcap hroom).destroy h.owned hget hlast
      homed := h.homed.follows ((kept_follows s).destroy (o := {}) (.refl s) hget hlast)
      accounted := (h.accounted.destroy hget).pass rfl
        (congrArg (_ + ·) (Holdings.blocks_holdAll _ _)) }
  evict {o s} e h :=
    { owned := (invariant_owned hcap hroom).evict e h.owned
      homed := h.homed.follows ((kept_follows s).evict (o := {}) e (.refl s))
      accounted := h.accounted.evict e }
  install {o s e b own} h hheld hover hcache hnode htext :=
    { owned := (invariant_owned hcap hroom).install h.owned hheld hover hcache hnode htext
      homed := h.homed.follows (follows_modifyFault fun _ => rfl)
      accounted := by
        have hlive : e ∈ ((o.own b own.node).own b own.text.block).references s :=
          mem_references_of_mem_faults hheld
        -- The backend of the context that the blocks were asked through is that of the error.
        obtain ⟨f, hget⟩ := h.owned.live.1 hlive
        obtain ⟨c, context, hlink, hcontext, hbackend⟩ := hover f hget
        obtain ⟨context', hcontext', hhome⟩ := h.homed e f c hget hlink
        obtain rfl := Option.some.inj (hcontext.symm.trans hcontext')
        exact h.accounted.install hget (hhome.symm.trans hbackend) (hcache f hget) }
  emit level origin text h :=
    { owned := (invariant_owned hcap hroom).emit level origin text h.owned
      homed := h.homed
      accounted := h.accounted.pass rfl rfl }
  openBackend {o s} limit rule h :=
    { owned := (invariant_owned hcap hroom).openBackend limit rule h.owned
      homed := h.homed
      accounted := h.accounted.openBackend limit rule }
  failNext {o s} b offsets h :=
    { owned := (invariant_owned hcap hroom).failNext b offsets h.owned
      homed := h.homed
      accounted := h.accounted.quiet rfl b (fun _ _ => rfl) fun _ _ horderly =>
        ⟨horderly.honest, horderly.numbered⟩ }
  arrange {o s b backend readers} h hget :=
    { owned := (invariant_owned hcap hroom).arrange h.owned hget
      homed := h.homed
      accounted := h.accounted.quiet
        ((Holdings.blocks_holdAll _ _).trans (Holdings.blocks_holdAll _ _).symm) b (fun _ _ => rfl)
        fun _ _ horderly => ⟨horderly.honest, horderly.numbered⟩ }
  add {o s c context block message draft cause} h hfresh hget hvalid hblock hmessage :=
    { owned := (invariant_owned hcap hroom).add h.owned hfresh hget hvalid hblock hmessage
      homed := h.homed.addFault fun c' hlink => by
        obtain rfl := Option.some.inj hlink
        exact ⟨context, hget, rfl⟩
      accounted := by
        refine Accounted.add (h.accounted.pass rfl ?_)
        rw [Holdings.blocks_holdAll] }
  enlist {o s e c context node} h hfresh hget hvalid hlink hnode :=
    { owned := (invariant_owned hcap hroom).enlist h.owned hfresh hget hvalid hlink hnode
      homed := h.homed.modifyContext c fun _ => rfl
      accounted := h.accounted.enlist hget }
  dismiss {o s e} h hfresh :=
    { owned := (invariant_owned hcap hroom).dismiss h.owned hfresh
      homed := h.homed.detach e
      accounted := h.accounted.pass rfl
        (congrArg (· + o.blocks) (owned_modifyFault_of_owned s e fun _ => rfl)) }
  detachRegistry c h hfresh :=
    { owned := (invariant_owned hcap hroom).detachRegistry c h.owned hfresh
      homed := h.homed.detachRegistry c
      accounted := h.accounted.detachRegistry c }
  addContext h hlayout :=
    { owned := (invariant_owned hcap hroom).addContext h.owned hlayout
      homed := h.homed.addContext _
      accounted := h.accounted.addContext }
  adjust {o s c g} h hg :=
    { owned := (invariant_owned hcap hroom).adjust h.owned hg
      homed := h.homed.modifyContext c fun context => by rw [hg]
      accounted := h.accounted.pass rfl (congrArg (· + o.blocks)
        (owned_modifyContext_of_owned s c fun context => by rw [hg]; rfl)) }
  close {o s c context context'} h hget hvalid hempty hbackend hblock :=
    { owned := (invariant_owned hcap hroom).close h.owned hget hvalid hempty hbackend hblock
      homed := h.homed.modifyContext c fun _ => rfl
      accounted := h.accounted.close hget hvalid hbackend hblock }

/-- References that are taken one after another use up the room that there is for them. -/
theorem takes_ledger (cap : FaultId → Nat) (es : List FaultId) :
    Takes (Ledger cap) (Ledger fun e => cap e + es.count e) es := by
  intro o s h hfresh hmem
  have howned := takes_owned cap es o s h.owned hfresh hmem
  have hhomed := foldl_retain (P := Homed)
    (fun _ _ h => h.follows (follows_modifyFault fun _ => rfl)) es h.homed
  have haccounted := foldl_retain (P := Accounted o) (fun s e h => h.pass rfl
    (congrArg (· + o.blocks) (owned_modifyFault_of_owned s e fun _ => rfl))) es h.accounted
  exact ⟨howned, hhomed, haccounted.pass rfl (congrArg (_ + ·) (Holdings.blocks_holdAll _ _))⟩

/-- A bound that the counts do not exceed will do. -/
theorem Ledger.mono (h : Ledger cap o s) (hcap : ∀ e, (o.references s).count e ≤ cap' e) :
    Ledger cap' o s :=
  { h with owned := h.owned.mono hcap }

end Keeping

end Store

end FaultChain

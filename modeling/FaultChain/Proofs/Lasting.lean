import FaultChain.Proofs.Ledger
import FaultChain.Proofs.Sessions

/-!
# What lasts as long as an error

While an error is there, its link and its cause stay what they are, and documents that were left on
it stay on it, in their blocks and with their bytes: a document that is replaced is retired and not
freed.  `Store.Grown` says so of two stores, and every change keeps it (`invariant_grown`), what
readers do who are let in included.

It follows that the chain of an error is fixed when the error is created (`Grown.chain?_eq`), so the
text of a document is right forever if it was right once; and that whoever was shown a document can
go on reading until the error is destroyed, as no block of it came back before
(`Accounted.not_freed`).

### What is load-bearing

Keys are never given out twice, so an error that is found under a key later is the one that was
found there before.  That the causes of an error are there as long as it is, is `Owned`.

### Why two stores

What lasts cannot be said of one store: that the cause of an error is what it was needs the moment
at which it was that.  `Grown s₀` fixes that moment, and is an invariant of the stores that come
later, so the lemmas on operations carry it along like any other.  It says nothing about errors that
were created in between, and nothing about those that are gone.
-/

namespace FaultChain

open Memory (Block Backend Event)

/-- What an error tells of itself, and the cause that it names.  Nothing else of it is looked at by
whoever shows it. -/
def Fault.account (f : Fault) : Link × Option FaultId :=
  (f.link, f.cause)

namespace Store

/-! ## Chains

What is shown of an error along its causes is a function of their accounts.  So two stores in which
these agree show the same.
-/

section Congr

variable {s s' : Store} {P : FaultId → Prop} {e : FaultId}

/-- Stores that tell the same of an error and of whatever explains it show the same lineage.  The
errors that matter are named by a condition that passes from an error to its cause. -/
theorem lineage_congr
    (hsame : ∀ e, P e →
      (s'.faults.get? e).map Fault.account = (s.faults.get? e).map Fault.account)
    (hclosed : ∀ {e f cause}, P e → s.faults.get? e = some f → f.cause = some cause → P cause)
    (he : P e) : s'.lineage e = s.lineage e ∧ ∀ x ∈ s.lineage e, P x := by
  have honto : ∀ met, s'.lineageOnto e met = s.lineageOnto e met ∧
      ∀ x ∈ s.lineageOnto e met, x ∈ met ∨ P x := by
    induction e using Nat.strongRecOn with
    | _ e ih =>
      intro met
      have htold := hsame e he
      rw [lineageOnto, lineageOnto]
      cases hget : s.faults.get? e with
      | none =>
          rw [hget, Option.map_none, Option.map_eq_none_iff] at htold
          rw [htold]
          exact ⟨rfl, fun x hmem => .inl hmem⟩
      | some f =>
          rw [hget, Option.map_some, Option.map_eq_some_iff] at htold
          obtain ⟨f', hget', haccount⟩ := htold
          have hcause : f'.cause = f.cause := congrArg Prod.snd haccount
          have hself : ∀ x ∈ e :: met, x ∈ met ∨ P x := by
            intro x hmem
            rcases List.mem_cons.1 hmem with rfl | hmem
            · exact .inr he
            · exact .inl hmem
          rw [hget']
          dsimp only
          rw [hcause]
          cases hnamed : f.cause with
          | none => exact ⟨rfl, hself⟩
          | some cause =>
              dsimp only
              split
              · next holder =>
                  obtain ⟨heq, hmet⟩ := ih cause holder (hclosed he hget hnamed) (e :: met)
                  exact ⟨heq, fun x hmem => (hmet x hmem).elim (hself x) .inr⟩
              · exact ⟨rfl, hself⟩
  refine ⟨?_, fun x hmem => ?_⟩
  · rw [lineage, (honto []).1]
    rfl
  · exact ((honto []).2 x (List.mem_reverse.1 hmem)).resolve_left List.not_mem_nil

/-- Stores that tell the same of an error and of whatever explains it show the same chain. -/
theorem chain?_congr
    (hsame : ∀ e, P e →
      (s'.faults.get? e).map Fault.account = (s.faults.get? e).map Fault.account)
    (hclosed : ∀ {e f cause}, P e → s.faults.get? e = some f → f.cause = some cause → P cause)
    (he : P e) : s'.chain? e = s.chain? e := by
  obtain ⟨hlineage, hmembers⟩ := lineage_congr hsame hclosed he
  have hlink : ∀ x ∈ s.lineage e, s'.link? x = s.link? x := by
    intro x hmem
    have htold := congrArg (Option.map Prod.fst) (hsame x (hmembers x hmem))
    rw [Option.map_map, Option.map_map] at htold
    exact htold
  rw [chain?, chain?, hlineage]
  exact congrArg Chain.ofLinks? (List.filterMap_congr hlink)

end Congr

/-- An error that is there has a chain, of one link at least. -/
theorem exists_chain? {s : Store} {e : FaultId} {f : Fault} (hget : s.faults.get? e = some f) :
    ∃ chain, s.chain? e = some chain := by
  have hself : e ∈ s.lineage e := by
    rw [lineage, List.mem_reverse, lineageOnto, hget]
    dsimp only
    split
    · split
      · rw [lineageOnto_eq_append]
        exact List.mem_append_right _ (List.mem_singleton_self e)
      · exact List.mem_singleton_self e
    · exact List.mem_singleton_self e
  have hlink : f.link ∈ (s.lineage e).filterMap s.link? := by
    refine List.mem_filterMap.2 ⟨e, hself, ?_⟩
    rw [link?, hget, Option.map_some]
  rw [chain?]
  cases hlinks : (s.lineage e).filterMap s.link? with
  | nil =>
      rw [hlinks] at hlink
      cases hlink
  | cons top causes => exact ⟨_, rfl⟩

/-! ## What later stores keep

A relation between an earlier store and a later one, kept by every change of the later one.
-/

/-- **The errors that are left of a store** have the links and causes that they had, and the
documents that they had last among theirs. -/
structure Grown (s₀ s : Store) : Prop where
  next : s₀.faults.next ≤ s.faults.next
  faults : ∀ {e f}, e < s₀.faults.next → s.faults.get? e = some f →
    ∃ f₀, s₀.faults.get? e = some f₀ ∧ f.account = f₀.account ∧ f.backend = f₀.backend ∧
      f₀.documents <:+ f.documents

section Growing

variable {s₀ s s' : Store} {e : FaultId} {f : Fault}

/-- Nothing has changed yet. -/
theorem Grown.refl (s : Store) : s.Grown s where
  next := Nat.le_refl _
  faults _ hget := ⟨_, hget, rfl, rfl, List.suffix_refl _⟩

/-- A change that leaves the errors alone. -/
theorem Grown.pass (h : s₀.Grown s) (hfaults : s'.faults = s.faults) : s₀.Grown s' where
  next := hfaults ▸ h.next
  faults he hget := h.faults he (hfaults ▸ hget)

/-- An error changes, and keeps what lasts.  Whether a change does is asked of it for every error,
as it does not matter which one it is made to. -/
theorem Grown.modifyFault (h : s₀.Grown s) (e : FaultId) {g : Fault → Fault}
    (hg : ∀ f, s.faults.get? e = some f →
      (g f).account = f.account ∧ (g f).backend = f.backend ∧ f.documents <:+ (g f).documents) :
    s₀.Grown (s.modifyFault e g) where
  next := h.next.trans_eq (Arena.next_modify _ _ _).symm
  faults := by
    intro e' f' he hget
    rw [Store.modifyFault, Arena.get?_modify] at hget
    split at hget
    · next heq =>
        subst heq
        obtain ⟨f, hfault, rfl⟩ := Option.map_eq_some_iff.1 hget
        obtain ⟨f₀, hget₀, haccount, hbackend, hdocuments⟩ := h.faults he hfault
        obtain ⟨haccount', hbackend', hdocuments'⟩ := hg f hfault
        exact ⟨f₀, hget₀, haccount'.trans haccount, hbackend'.trans hbackend,
          hdocuments.trans hdocuments'⟩
    · exact h.faults he hget

/-- An error that goes leaves the others as they were. -/
theorem Grown.erase (h : s₀.Grown s) (hfaults : s'.faults = s.faults.erase e) : s₀.Grown s' where
  next := by
    rw [hfaults, Arena.next_erase]
    exact h.next
  faults := by
    intro e' f' he hget
    rw [hfaults, Arena.get?_erase] at hget
    split at hget
    · cases hget
    · exact h.faults he hget

/-- A registry that is emptied changes links to contexts only. -/
theorem Grown.detachRegistry (h : s₀.Grown s) (c : ContextId) :
    s₀.Grown (s.detachRegistry c).1 := by
  cases hget : s.contexts.get? c with
  | none =>
      rw [Store.detachRegistry, hget]
      exact h
  | some context =>
      have hdetached : ∀ (es : List FaultId) {s : Store},
          s₀.Grown s → s₀.Grown (s.detachAll es) := by
        intro es
        induction es with
        | nil => exact fun h => h
        | cons e es ih =>
            intro s h
            exact ih (h.modifyFault e fun _ _ => ⟨rfl, rfl, List.suffix_refl _⟩)
      rw [detachRegistry_eq s hget]
      have hemptied : s₀.Grown (s.modifyContext c fun context => { context with registry := [] }) :=
        h.pass rfl
      exact (hdetached _ hemptied).pass (faults_freeAll _ _ _)

/-- **Every change keeps what lasts.** -/
theorem invariant_grown (s₀ : Store) : Invariant fun _ s => s₀.Grown s where
  enter h _ := h.pass rfl
  settle _ _ h _ _ := h.pass rfl
  free h := h.pass rfl
  absent h _ := h
  lessen {_ _ e _} h _ _ := h.modifyFault e fun _ _ => ⟨rfl, rfl, List.suffix_refl _⟩
  destroy {_ s e f} h _ _ := h.erase (faults_destroyed s e f)
  evict e h := h.modifyFault e fun _ _ => ⟨rfl, rfl, List.suffix_refl _⟩
  install {_ s e b own} h _ _ hcache _ _ := by
    refine h.modifyFault e fun f hget => ⟨rfl, rfl, ?_⟩
    rw [Fault.documents, hcache f hget]
    exact List.suffix_cons _ _
  emit _ _ _ h := h.pass rfl
  openBackend _ _ h := h.pass rfl
  failNext _ _ h := h.pass rfl
  arrange h _ := h.pass rfl
  add {_ s _ _ _ _ _ _} h _ _ _ _ _ :=
    { next := by
        rw [addFault, Arena.next_insert]
        exact Nat.le_succ_of_le h.next
      faults := by
        intro e f he hget
        rw [addFault, Arena.get?_insert, if_neg (Nat.ne_of_lt (Nat.lt_of_lt_of_le he h.next))]
          at hget
        exact h.faults he hget }
  enlist h _ _ _ _ _ := h.pass rfl
  dismiss {_ _ e} h _ := h.modifyFault e fun _ _ => ⟨rfl, rfl, List.suffix_refl _⟩
  detachRegistry c h _ := h.detachRegistry c
  addContext h _ := h.pass rfl
  adjust h _ := h.pass rfl
  close h _ _ _ _ _ := h.pass rfl

/-- Nobody looks at the memory of backends for it. -/
theorem blind_grown (s₀ : Store) : Blind fun _ s => s₀.Grown s :=
  fun _ _ _ _ _ h => h.pass rfl

/-- A reference more is none of what lasts. -/
theorem takes_grown (s₀ : Store) (es : List FaultId) :
    Takes (fun _ s => s₀.Grown s) (fun _ s => s₀.Grown s) es :=
  fun _ _ h _ _ => foldl_retain
    (fun _ e h => h.modifyFault e fun _ _ => ⟨rfl, rfl, List.suffix_refl _⟩) es h

/-- An error of an earlier store is still there.  Keys are not given out twice, so it is the same
error. -/
def Lasts (s₀ s : Store) (e : FaultId) : Prop :=
  e < s₀.faults.next ∧ ∃ f, s.faults.get? e = some f

/-- An error that is still there tells what it told. -/
theorem Grown.account_eq (h : s₀.Grown s) (he : s₀.Lasts s e) :
    (s.faults.get? e).map Fault.account = (s₀.faults.get? e).map Fault.account := by
  obtain ⟨he, f, hget⟩ := he
  obtain ⟨f₀, hget₀, haccount, -, -⟩ := h.faults he hget
  rw [hget, hget₀, Option.map_some, Option.map_some, haccount]

/-- What explains an error that is there is older, and is there itself. -/
theorem Grown.lasts_cause (h : s₀.Grown s) {cap : FaultId → Nat} {o : Holdings}
    (hs : Owned cap o s) {f₀ : Fault} {cause : FaultId} (he : s₀.Lasts s e)
    (hget₀ : s₀.faults.get? e = some f₀) (hcause₀ : f₀.cause = some cause) :
    s₀.Lasts s cause := by
  obtain ⟨he, f, hget⟩ := he
  obtain ⟨f₀', hget₀', haccount, -, -⟩ := h.faults he hget
  obtain rfl := Option.some.inj (hget₀.symm.trans hget₀')
  have hcause : f.cause = some cause := (congrArg Prod.snd haccount).trans hcause₀
  have hexplained : s.Explained e cause := ⟨f, hget, hcause⟩
  exact ⟨Nat.lt_trans (hs.older hget hcause) he, hs.live.1 hexplained.mem_references⟩

/-- **The chain of an error is fixed** as long as the error is there, since everything along it is
there as well. -/
theorem Grown.chain?_eq (h : s₀.Grown s) {cap : FaultId → Nat} {o : Holdings} (hs : Owned cap o s)
    (hget : s.faults.get? e = some f) (he : e < s₀.faults.next) : s.chain? e = s₀.chain? e :=
  chain?_congr (fun _ => h.account_eq) (h.lasts_cause hs) ⟨he, f, hget⟩

end Growing

end Store

/-! ## Blocks that did not come back

A document is read out of a block.  As long as the block is owned, it was handed out and did not
come back, so whoever reads it reads what was written.
-/

namespace Memory

/-- What came back was handed out. -/
theorem Honest.granted_of_freed {history : List Event} (h : Honest history) {block : Block}
    (hmem : .freed block ∈ history) : .granted block ∈ history := by
  induction history with
  | nil => cases hmem
  | cons event rest ih =>
      cases event with
      | granted other =>
          have hrest := List.mem_of_ne_of_mem (by simp) hmem
          exact List.mem_cons_of_mem _ (ih h.2 hrest)
      | refused serial layout =>
          have hrest := List.mem_of_ne_of_mem (by simp) hmem
          exact List.mem_cons_of_mem _ (ih h hrest)
      | freed other =>
          refine List.mem_cons_of_mem _ ?_
          rcases List.mem_cons.1 hmem with heq | hmem
          · injection heq with heq
            exact granted_of_mem_outstanding (heq ▸ h.1)
          · exact ih h.2 hmem

/-- A block that is outstanding never came back: it would have been handed out twice. -/
theorem Honest.not_freed {history : List Event} (h : Honest history) {block : Block}
    (hout : block ∈ outstanding history) : .freed block ∉ history := by
  induction history with
  | nil => cases hout
  | cons event rest ih =>
      intro hmem
      cases event with
      | granted other =>
          have hrest := List.mem_of_ne_of_mem (by simp) hmem
          rcases List.mem_cons.1 hout with rfl | hout
          · exact h.1 block (h.2.granted_of_freed hrest) rfl
          · exact ih h.2 hout hrest
      | refused serial layout => exact ih h hout (List.mem_of_ne_of_mem (by simp) hmem)
      | freed other =>
          obtain ⟨hne, hout⟩ := (h.2.nodup.mem_erase_iff).1 hout
          rcases List.mem_cons.1 hmem with heq | hmem
          · injection heq with heq
            exact hne heq
          · exact ih h.2 hout hmem

end Memory

namespace Store

section Outstanding

variable {o : Holdings} {s : Store} {b : BackendId} {block : Block}

/-- No block has two owners. -/
theorem Accounted.nodup_owned (h : Accounted o s) : (s.owned + o.blocks).Nodup := by
  refine Multiset.nodup_iff_count_le_one.2 fun ⟨b, block⟩ => ?_
  have hout : (s.outstanding b).Nodup := by
    rw [outstanding]
    cases hbackend : s.backends.get? b with
    | none => exact List.nodup_nil
    | some backend => exact (h.orderly hbackend).honest.nodup
  rw [← h.balance]
  exact List.nodup_iff_count_le_one.1 hout block

/-- A block that is owned is outstanding. -/
theorem Accounted.exists_backend (h : Accounted o s) (howned : (b, block) ∈ s.owned + o.blocks) :
    ∃ backend, s.backends.get? b = some backend ∧ block ∈ Memory.outstanding backend.history := by
  have hmem : block ∈ s.outstanding b := by
    rw [← List.count_pos_iff, h.balance, Multiset.count_pos]
    exact howned
  rw [outstanding] at hmem
  cases hget : s.backends.get? b with
  | none =>
      rw [hget] at hmem
      cases hmem
  | some backend =>
      rw [hget] at hmem
      exact ⟨backend, rfl, hmem⟩

/-- **The blocks of an error** were handed out by its backend and did not come back. -/
theorem Accounted.not_freed (h : Accounted o s) {e : FaultId} {f : Fault}
    (hget : s.faults.get? e = some f) (hmem : block ∈ f.blocks) :
    ∃ backend, s.backends.get? f.backend = some backend ∧
      .granted block ∈ backend.history ∧ .freed block ∉ backend.history := by
  have howned : (f.backend, block) ∈ s.owned := by
    refine Multiset.mem_add.2 (.inr (Multiset.mem_bind.2 ⟨f, Arena.mem_values hget, ?_⟩))
    exact List.mem_map_of_mem hmem
  obtain ⟨backend, hbackend, hout⟩ := h.exists_backend (Multiset.mem_add.2 (.inl howned))
  exact ⟨backend, hbackend, Memory.granted_of_mem_outstanding hout,
    (h.orderly hbackend).honest.not_freed hout⟩

/-- The backend of a valid context is there, since the block of the context is outstanding at it. -/
theorem Accounted.backend_of_valid (h : Accounted o s) {c : ContextId} {context : Context}
    (hget : s.contexts.get? c = some context) (hvalid : context.valid = true) :
    ∃ backend, s.backends.get? context.backend = some backend := by
  have howned : (context.backend, context.block) ∈ s.owned := by
    refine Multiset.mem_add.2 (.inl (Multiset.mem_bind.2 ⟨context, Arena.mem_values hget, ?_⟩))
    refine List.mem_map_of_mem ?_
    rw [Context.blocks, if_pos hvalid]
    exact List.mem_cons_self
  obtain ⟨backend, hbackend, -⟩ := h.exists_backend (Multiset.mem_add.2 (.inl howned))
  exact ⟨backend, hbackend⟩

end Outstanding

end Store

end FaultChain

import FaultChain.Proofs.References
import Mathlib.Logic.Relation

/-!
# Who owns an error

Every error counts the references on it, and it is there exactly as long as there are any.  `Owned`
states this at every moment of an operation, with the references that the operation itself holds in
`Holdings`; every change keeps it (`invariant_owned`).

Where nothing is held by an operation in progress, an error is there if and only if it can be
reached from somebody who holds a reference, by following causes (`Owned.live_iff_reachable`): keys
fall along a chain, so the climb from an error to what it explains, and so on, ends at a holder.

### What is load-bearing

References are counted in a word.  An error whose count came round to one would be destroyed under
those who hold it, so the counts have to stay within `2 ^ 32`.  `Owned cap` carries the bound along,
one for each error; taking a reference is the only change that raises it (`takes_owned`).

### Equality, and not a bound

That a count is no less than the number of references would be enough for nobody to lose an error
under his hands; that it is no more, for no error to be left behind.  `Owned` asks for both at once,
as an equality, at every moment of an operation.  So it can be carried through a change without a
case split on which side is needed: what the change does to the references, it does to the count.
That an operation holds references in its hands, between giving up one and taking another, is what
`Holdings` is for.
-/

namespace FaultChain

open Memory (Block Backend Reentry)

/-- What sharing says about an error: how many references it counts, and which error it refers
to. -/
def Fault.sharing (f : Fault) : UInt32 × Option FaultId :=
  (f.refs, f.cause)

namespace Store

/-- One error is the cause of another, which is there.  That the cause is there as well is a matter
of its count. -/
def Explained (s : Store) (e cause : FaultId) : Prop :=
  ∃ f, s.faults.get? e = some f ∧ f.cause = some cause

/-- **Every error counts its references**, and is there as long as there are any.  The bound is one
for each error, as references are taken on one error at a time. -/
structure Owned (cap : FaultId → Nat) (o : Holdings) (s : Store) : Prop where
  counted : ∀ {e f}, s.faults.get? e = some f → f.refs = .ofNat ((o.references s).count e)
  live : ∀ {e}, e ∈ o.references s ↔ ∃ f, s.faults.get? e = some f
  /-- A cause was there before what it explains. -/
  older : ∀ {e f cause}, s.faults.get? e = some f → f.cause = some cause → cause < e
  /-- There is room for the count. -/
  within : ∀ e, (o.references s).count e ≤ cap e

/-! ## Counting in a word

A count is a number modulo `2 ^ 32`.  Below that bound a word is one exactly if the number is.
-/

/-- Taking one off a count that was raised gives it back, also where it wrapped. -/
theorem ofNat_succ_sub_one (n : Nat) : UInt32.ofNat (n + 1) - 1 = UInt32.ofNat n := by
  rw [UInt32.ofNat_add]
  exact UInt32.add_sub_cancel _ _

/-- A word shows one for no other number in its range.  The greatest number in it, `2 ^ 32`, is
shown as zero. -/
theorem eq_one_of_ofNat_eq_one {n : Nat} (hn : n ≤ 2 ^ 32) (h : UInt32.ofNat n = 1) : n = 1 := by
  have hmod := congrArg UInt32.toNat h
  rw [UInt32.toNat_ofNat', UInt32.toNat_one] at hmod
  omega

/-! ## What keeps the counts

Each change moves references or gives them up, and changes the count of one error by as many.
-/

section Keeping

variable {cap cap' : FaultId → Nat} {o o' : Holdings} {s s' : Store} {e : FaultId} {f : Fault}

/-- A bound may be raised. -/
theorem Owned.mono (h : Owned cap o s) (hcap : ∀ e, (o.references s).count e ≤ cap' e) :
    Owned cap' o s :=
  { h with within := hcap }

/-- A change that nobody who shares errors can tell: references, counts and causes are what they
were. -/
theorem Owned.congr (h : Owned cap o s) (href : o'.references s' = o.references s)
    (hfaults : ∀ e, (s'.faults.get? e).map Fault.sharing = (s.faults.get? e).map Fault.sharing) :
    Owned cap o' s' := by
  have hback : ∀ {e f'}, s'.faults.get? e = some f' →
      ∃ f, s.faults.get? e = some f ∧ f.sharing = f'.sharing := by
    intro e f' hget
    have hmap := hfaults e
    rw [hget, Option.map_some, eq_comm, Option.map_eq_some_iff] at hmap
    exact hmap
  constructor
  case counted =>
    intro e f' hget
    obtain ⟨f, hget, hsharing⟩ := hback hget
    have hrefs : f.refs = f'.refs := congrArg Prod.fst hsharing
    rw [href, ← hrefs, h.counted hget]
  case live =>
    intro e
    rw [href, h.live, ← Option.isSome_iff_exists, ← Option.isSome_iff_exists,
      ← Option.isSome_map (f := Fault.sharing), ← hfaults, Option.isSome_map]
  case older =>
    intro e f' cause hget hcause
    obtain ⟨f, hget, hsharing⟩ := hback hget
    exact h.older hget ((congrArg Prod.snd hsharing).trans hcause)
  case within =>
    rw [href]
    exact h.within

/-- The count of one error changes with the references on it.  All others count what they
counted. -/
theorem Owned.recount (h : Owned cap o s) (hget : s.faults.get? e = some f) {g : Fault → Fault}
    (hcause : ∀ f, (g f).cause = f.cause)
    (hrefs : (g f).refs = .ofNat ((o'.references s).count e)) (hmem : e ∈ o'.references s)
    (hothers : ∀ e' ≠ e, (o'.references s).count e' = (o.references s).count e')
    (hcap : ∀ e, (o'.references s).count e ≤ cap' e) : Owned cap' o' (s.modifyFault e g) := by
  have href := references_modifyFault o' s e hcause
  constructor
  case counted =>
    intro e' f' hget'
    rw [modifyFault, Arena.get?_modify] at hget'
    split at hget'
    · next heq =>
        subst heq
        rw [hget, Option.map_some, Option.some.injEq] at hget'
        rw [href, ← hget', hrefs]
    · next hne =>
        rw [href, hothers e' (Ne.symm hne)]
        exact h.counted hget'
  case live =>
    intro e'
    rw [href, modifyFault, Arena.get?_modify]
    split
    · next heq =>
        subst heq
        exact ⟨fun _ => ⟨g f, by rw [hget]; rfl⟩, fun _ => hmem⟩
    · next hne => rw [← Multiset.count_pos, hothers e' (Ne.symm hne), Multiset.count_pos, h.live]
  case older =>
    intro e' f' cause hget' hcause'
    rw [modifyFault, Arena.get?_modify] at hget'
    split at hget'
    · obtain ⟨f₀, hget₀, rfl⟩ := Option.map_eq_some_iff.1 hget'
      exact h.older hget₀ ((hcause f₀).symm.trans hcause')
    · exact h.older hget' hcause'
  case within =>
    rw [href]
    exact hcap

/-- A reference on an error to which there are others is taken. -/
theorem Owned.retain (h : Owned cap o s) (he : e ∈ o.references s) :
    Owned (fun e' => cap e' + [e].count e') (o.hold e) (s.retain e) := by
  obtain ⟨f, hget⟩ := h.live.1 he
  refine h.recount hget (fun _ => rfl) ?_ ?_ (fun e' hne => ?_) (fun e' => ?_)
  · rw [references_hold, Multiset.count_cons_self, UInt32.ofNat_add, ← h.counted hget]
    rfl
  · rw [references_hold]
    exact Multiset.mem_cons_self e _
  · rw [references_hold, Multiset.count_cons_of_ne hne]
  · have hcap := h.within e'
    rw [references_hold, ← Multiset.singleton_add, Multiset.count_add, ← Multiset.coe_singleton,
      Multiset.coe_count]
    omega

/-- A reference on an error is given up that is not the last. -/
theorem Owned.lessen (h : Owned cap (o.hold e) s) (hget : s.faults.get? e = some f)
    (hlast : f.refs ≠ 1) :
    Owned cap o (s.modifyFault e fun f => { f with refs := f.refs - 1 }) := by
  have hcounted := h.counted hget
  rw [references_hold, Multiset.count_cons_self] at hcounted
  refine h.recount hget (fun _ => rfl) ?_ ?_ (fun e' hne => ?_) (fun e' => ?_)
  · rw [hcounted]
    exact ofNat_succ_sub_one _
  · rw [← Multiset.count_ne_zero]
    intro hzero
    rw [hzero] at hcounted
    exact hlast hcounted
  · rw [references_hold, Multiset.count_cons_of_ne hne]
  · refine Nat.le_trans ?_ (h.within e')
    rw [references_hold]
    exact Multiset.count_le_count_cons _ _ _

/-- An error whose last reference is given up goes, and its reference on its cause is left over.
The count wraps at one only if there were `2 ^ 32` references more, which the bound excludes. -/
theorem Owned.destroy (hroom : ∀ e, cap e ≤ 2 ^ 32) (h : Owned cap (o.hold e) s)
    (hget : s.faults.get? e = some f) (hlast : f.refs = 1) :
    Owned cap (o.holdAll (f.cause.toList.filter (· < e))) ((s.untrackOwn e f).destroy e f) := by
  have hfaults := faults_destroyed s e f
  -- The release goes on only to older errors, and a cause is older than what it explains.
  have hall : f.cause.toList.filter (· < e) = f.cause.toList := by
    refine List.filter_eq_self.2 fun cause hcause => decide_eq_true ?_
    exact h.older hget (Option.mem_toList.1 hcause)
  have href := references_destroyed (o := o) hget
  -- A count of one is one reference and not `2 ^ 32 + 1`, which there is no room for.
  have hnone : (o.references s).count e = 0 := by
    have hle := hroom e
    have hwithin := h.within e
    have hcounted := h.counted hget
    rw [references_hold, Multiset.count_cons_self] at hwithin hcounted
    generalize (o.references s).count e = n at hwithin hcounted
    have hone := eq_one_of_ofNat_eq_one (Nat.le_trans hwithin hle) (hcounted.symm.trans hlast)
    exact Nat.succ.inj hone
  rw [hall]
  constructor
  case counted =>
    intro e' f' hget'
    rw [hfaults, Arena.get?_erase] at hget'
    split at hget'
    · cases hget'
    · next hne =>
        have hcounted := h.counted hget'
        rwa [references_hold, Multiset.count_cons_of_ne (Ne.symm hne), ← href] at hcounted
  case live =>
    intro e'
    rw [href, hfaults, Arena.get?_erase]
    split
    · next heq =>
        subst heq
        refine ⟨fun hmem => absurd hmem (Multiset.count_eq_zero.1 hnone), ?_⟩
        rintro ⟨f', hnever⟩
        cases hnever
    · next hne => rw [← h.live, references_hold, Multiset.mem_cons, or_iff_right (Ne.symm hne)]
  case older =>
    intro e' f' cause hget' hcause
    rw [hfaults, Arena.get?_erase] at hget'
    split at hget'
    · cases hget'
    · exact h.older hget' hcause
  case within =>
    intro e'
    refine Nat.le_trans ?_ (h.within e')
    rw [href, references_hold]
    exact Multiset.count_le_count_cons _ _ _

/-- An error is added that nobody refers to but whoever adds it. -/
theorem Owned.add (hcap : ∀ e, 1 ≤ cap e) (h : Owned cap (o.holdAll f.cause.toList) s)
    (hfresh : o.fresh = none) (hrefs : f.refs = 1) :
    Owned cap (o.registering s.faults.next) (s.addFault f) := by
  have href := references_add (s := s) (f := f) hfresh
  -- Whatever is referred to is there, and the next key is not given out yet.
  have hnext : s.faults.next ∉ (o.holdAll f.cause.toList).references s := by
    intro hmem
    obtain ⟨f', hget⟩ := h.live.1 hmem
    exact absurd (Arena.lt_next_of_get? hget) (Nat.lt_irrefl _)
  constructor
  case counted =>
    intro e' f' hget
    rw [addFault, Arena.get?_insert] at hget
    rw [href]
    split at hget
    · next heq =>
        obtain rfl := Option.some.inj hget
        rw [heq, Multiset.count_cons_self, Multiset.count_eq_zero.2 hnext, hrefs]
        rfl
    · next hne =>
        rw [Multiset.count_cons_of_ne hne]
        exact h.counted hget
  case live =>
    intro e'
    rw [href, Multiset.mem_cons, addFault, Arena.get?_insert]
    split
    · next heq => exact ⟨fun _ => ⟨f, rfl⟩, fun _ => .inl heq⟩
    · next hne => rw [or_iff_right hne, h.live]
  case older =>
    intro e' f' cause hget hcause
    rw [addFault, Arena.get?_insert] at hget
    split at hget
    · next heq =>
        obtain rfl := Option.some.inj hget
        have hmem : cause ∈ (o.holdAll f.cause.toList).references s := by
          rw [references_holdAll, Multiset.mem_add, Multiset.mem_coe]
          exact .inl (Option.mem_toList.2 hcause)
        obtain ⟨f', hget'⟩ := h.live.1 hmem
        exact heq ▸ Arena.lt_next_of_get? hget'
    · exact h.older hget hcause
  case within =>
    intro e'
    rw [href]
    by_cases heq : e' = s.faults.next
    · rw [heq, Multiset.count_cons_self, Multiset.count_eq_zero.2 hnext]
      exact hcap _
    · rw [Multiset.count_cons_of_ne heq]
      exact h.within e'

/-- What sharing looks at stays the same under such a change. -/
theorem sharing_modifyFault (s : Store) (e : FaultId) {g : Fault → Fault}
    (hg : ∀ f, (g f).sharing = f.sharing) (e' : FaultId) :
    ((s.modifyFault e g).faults.get? e').map Fault.sharing =
      (s.faults.get? e').map Fault.sharing := by
  rw [modifyFault, Arena.get?_modify]
  split
  · rw [Option.map_map]
    exact congrArg (Option.map · _) (funext hg)
  · rfl

/-- An error changes in what sharing does not look at. -/
theorem Owned.modifyFault (h : Owned cap o s) (e : FaultId) {g : Fault → Fault}
    (hg : ∀ f, (g f).sharing = f.sharing) : Owned cap o (s.modifyFault e g) :=
  h.congr (references_modifyFault o s e fun f => congrArg Prod.snd (hg f))
    (sharing_modifyFault s e hg)

/-- A registry that is emptied is no matter of sharing. -/
theorem sharing_detachRegistry (s : Store) (c : ContextId) (e : FaultId) :
    ((s.detachRegistry c).1.faults.get? e).map Fault.sharing =
      (s.faults.get? e).map Fault.sharing := by
  cases hget : s.contexts.get? c with
  | none => rw [detachRegistry, hget]
  | some context =>
      rw [detachRegistry_eq s hget]
      dsimp only
      rw [faults_freeAll, get?_detachAll, Option.map_map]
      refine congrArg (Option.map · _) (funext fun f => ?_)
      rw [Function.comp_apply]
      split <;> rfl

/-- **Every change keeps the counts**, as long as there is room for them.  Room is needed where a
reference is taken, and there the bound is the premise. -/
theorem invariant_owned (hcap : ∀ e, 1 ≤ cap e) (hroom : ∀ e, cap e ≤ 2 ^ 32) :
    Invariant (Owned cap) where
  enter h hget := h.congr (references_enter hget) fun _ => rfl
  settle _ _ h hget _ := h.congr (references_settle hget _ _) fun _ => rfl
  free h := h.congr (references_free _ _ _ _) fun _ => rfl
  absent {o s e} h hget := by
    have hmem : e ∈ (o.hold e).references s := by
      rw [references_hold]
      exact Multiset.mem_cons_self e _
    obtain ⟨f, hget'⟩ := h.live.1 hmem
    cases hget.symm.trans hget'
  lessen h hget hlast := h.lessen hget hlast
  destroy h hget hlast := h.destroy hroom hget hlast
  evict e h := h.modifyFault e fun _ => rfl
  install {o s e _ _} h _ _ _ _ _ := by
    have hown : Owned cap o s := h.congr rfl fun _ => rfl
    exact hown.modifyFault e fun _ => rfl
  emit _ _ _ h := h.congr rfl fun _ => rfl
  openBackend _ _ h := h.congr (references_openBackend _ _ _ _) fun _ => rfl
  failNext _ _ h := h.congr (references_failNext _ _ _ _) fun _ => rfl
  arrange h hget := h.congr (references_arrange hget _) fun _ => rfl
  add h hfresh _ _ _ _ := by
    refine Owned.add hcap (h.congr ?_ fun _ => rfl) hfresh rfl
    rw [references_holdAll, references_holdAll]
    rfl
  enlist h hfresh _ _ _ _ := h.congr (references_registering hfresh _ _).symm fun _ => rfl
  dismiss {o s e} h hfresh :=
    (h.congr (references_registering hfresh e s).symm fun _ => rfl).modifyFault e fun _ => rfl
  detachRegistry c h _ := h.congr (references_detachRegistry _ _ c) (sharing_detachRegistry _ c)
  addContext h _ := h.congr rfl fun _ => rfl
  adjust h _ := h.congr rfl fun _ => rfl
  close h _ _ _ _ _ := h.congr (references_free _ _ _ _) fun _ => rfl

/-- Nobody looks at the memory of backends for it. -/
theorem blind_owned : Blind (Owned cap) :=
  fun _ _ _ _ _ h => h.congr (references_free _ _ _ _) fun _ => rfl

/-- Taking references raises the bound on each error by as many as are taken on it.  So the bound
after an operation is known before it begins. -/
theorem takes_owned (cap : FaultId → Nat) (es : List FaultId) :
    Takes (Owned cap) (Owned fun e => cap e + es.count e) es := by
  induction es generalizing cap with
  | nil => exact fun _ _ h _ _ => h
  | cons e es ih =>
      intro o s h hfresh hmem
      have htaken := h.retain (hmem e List.mem_cons_self)
      have hrest := ih _ (o.hold e) (s.retain e) htaken hfresh fun e' he' => by
        rw [references_retain, references_hold]
        exact Multiset.mem_cons_of_mem (hmem e' (List.mem_cons_of_mem e he'))
      rw [Holdings.holdAll_hold, ← Holdings.holdAll_cons] at hrest
      refine hrest.mono fun e' => Nat.le_trans (hrest.within e') (Nat.le_of_eq ?_)
      simp only [List.count_cons, List.count_nil]
      omega

/-! ## Who keeps an error

Counts are right, so an error that is there is counted by somebody: a holder, or an error that it
explains, of which the same can be asked.
-/

/-- An error refers to its cause. -/
theorem Explained.mem_references {cause : FaultId} (hcause : s.Explained e cause) :
    cause ∈ o.references s := by
  obtain ⟨f, hget, hcause⟩ := hcause
  refine Multiset.mem_add.2 (.inr (Multiset.mem_bind.2 ⟨f, Arena.mem_values hget, ?_⟩))
  exact Option.mem_toList.2 hcause

/-- **An error is there if and only if somebody holds a reference on it or on an error that it leads
to**, following causes.  The way from the error goes up, to what it explains, and keys grow along
it; so it ends, and it ends at a holder. -/
theorem Owned.live_iff_reachable (h : Owned cap o s) (hfresh : o.fresh = none) :
    (∃ f, s.faults.get? e = some f) ↔
      ∃ root, (root ∈ o.faults ∨ root ∈ s.pending) ∧
        Relation.ReflTransGen s.Explained root e := by
  constructor
  · rintro ⟨f, hget⟩
    -- Whatever an error explains has a greater key, so the climb has only so far to go.
    induction hn : s.faults.next - e using Nat.strongRecOn generalizing e f with
    | _ n ih =>
      have hmem := h.live.2 ⟨f, hget⟩
      rw [Holdings.references, hfresh, Option.toList_none, Multiset.coe_nil, add_zero,
        Multiset.mem_add, Multiset.mem_add] at hmem
      rcases hmem with hroot | hcause
      · exact ⟨e, hroot, .refl⟩
      · obtain ⟨f', hf', hcause⟩ := Multiset.mem_bind.1 hcause
        obtain ⟨e', hget'⟩ := Arena.mem_values_iff.1 hf'
        have hlink : f'.cause = some e := Option.mem_toList.1 hcause
        have holder := h.older hget' hlink
        have hlt := Arena.lt_next_of_get? hget'
        have hless : s.faults.next - e' < n :=
          hn ▸ Nat.sub_lt_sub_left (Nat.lt_trans holder hlt) holder
        obtain ⟨root, hroot, hpath⟩ := ih _ hless f' hget' rfl
        exact ⟨root, hroot, hpath.tail ⟨f', hget', hlink⟩⟩
  · rintro ⟨root, hroot, hpath⟩
    refine h.live.1 ?_
    induction hpath with
    | refl =>
        rw [Holdings.references, Multiset.mem_add, Multiset.mem_add, Multiset.mem_add]
        exact .inl (hroot.imp_left .inl)
    | tail _ hstep _ => exact hstep.mem_references

end Keeping

end Store

end FaultChain

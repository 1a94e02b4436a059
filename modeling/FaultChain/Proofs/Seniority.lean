import FaultChain.Proofs.Hooks
import FaultChain.Proofs.References

/-!
# Who was there before

Keys are given out in turn, so they tell the age of an error.  All references are on errors that
were created, and an error is younger than its cause; `Known` says both, and every operation keeps
both (`Known.run`), whether or not counts of references overflow.  Hence a chain of causes ends, and
an error that is just being added cannot be named by anybody else.

### What is load-bearing

A bound on the number of references would be of no use here: that keys tell the age has to hold also
where a count has wrapped and an error was destroyed too early.  All that is used of a destroyed
error is that its key is gone for good.  A reference on it may still be about, and it is a reference
on a key that was given out, which is all that `Known` says.

References may be fewer than they should be after such an accident, so the lemmas compare them by
`≤` and not by equality, unlike those on ownership.
-/

namespace FaultChain

open Memory (Block Backend)

namespace Store

/-- **Keys tell the age**: references are on errors that were created, and causes are older than
what they explain. -/
structure Known (o : Holdings) (s : Store) : Prop where
  created : ∀ e ∈ o.references s, e < s.faults.next
  older : ∀ {e f cause}, s.faults.get? e = some f → f.cause = some cause → cause < e

section Knowing

variable {o o' : Holdings} {s s' : Store}

/-- Where no error changes, fewer references may be about. -/
theorem Known.congr (h : Known o s) (hfaults : s'.faults = s.faults)
    (href : o'.references s' ≤ o.references s) : Known o' s' where
  created e hmem := hfaults ▸ h.created e (Multiset.mem_of_le href hmem)
  older hget := h.older (hfaults ▸ hget)

/-- Errors keep their causes. -/
theorem Known.map (h : Known o s) {g : FaultId → Fault → Fault}
    (hget : ∀ e, s'.faults.get? e = (s.faults.get? e).map (g e))
    (hnext : s'.faults.next = s.faults.next) (hcause : ∀ e f, (g e f).cause = f.cause)
    (href : o'.references s' ≤ o.references s) : Known o' s' where
  created e hmem := hnext ▸ h.created e (Multiset.mem_of_le href hmem)
  older {e f' cause} hget' hlink := by
    rw [hget, Option.map_eq_some_iff] at hget'
    obtain ⟨f, hfault, rfl⟩ := hget'
    rw [hcause] at hlink
    exact h.older hfault hlink

/-- An error changes, and keeps its cause. -/
theorem Known.modifyFault (h : Known o s) (e : FaultId) {g : Fault → Fault}
    (hcause : ∀ f, (g f).cause = f.cause) : Known o (s.modifyFault e g) := by
  refine h.map (g := fun e' f => if e = e' then g f else f) (fun e' => ?_)
    (Arena.next_modify _ _ _) (fun e' f => ?_) (references_modifyFault o s e hcause).le
  · rw [Store.modifyFault, Arena.get?_modify]
    split
    · rfl
    · exact Option.map_id'.symm
  · split
    · exact hcause f
    · rfl

/-- Giving up a reference leaves fewer. -/
theorem references_le_hold (o : Holdings) (e : FaultId) (s : Store) :
    o.references s ≤ (o.hold e).references s := by
  rw [references_hold]
  exact Multiset.le_cons_self _ e

/-- A destroyed error leaves behind at most the reference on its cause. -/
theorem references_destroyed_le {e : FaultId} {f : Fault} (hget : s.faults.get? e = some f) :
    (o.holdAll (f.cause.toList.filter (· < e))).references ((s.untrackOwn e f).destroy e f) ≤
      o.references s := by
  rw [← references_destroyed (o := o) hget, references_holdAll, references_holdAll]
  exact add_le_add_left (Multiset.coe_le.2 List.filter_sublist.subperm) _

/-- An error goes, whether or not it was the last reference. -/
theorem Known.destroy (h : Known o s) {e : FaultId} {f : Fault} (hget : s.faults.get? e = some f) :
    Known (o.holdAll (f.cause.toList.filter (· < e))) ((s.untrackOwn e f).destroy e f) where
  created e' hmem := by
    rw [faults_destroyed, Arena.next_erase]
    exact h.created e' (Multiset.mem_of_le (references_destroyed_le hget) hmem)
  older {e' f' cause} hget' hlink := by
    rw [faults_destroyed, Arena.get?_erase] at hget'
    split at hget'
    · cases hget'
    · exact h.older hget' hlink

/-- An error is added, above all that were there. -/
theorem Known.add {f : Fault} (h : Known (o.holdAll f.cause.toList) s) (hfresh : o.fresh = none) :
    Known (o.registering s.faults.next) (s.addFault f) where
  created e hmem := by
    rw [references_add hfresh, Multiset.mem_cons] at hmem
    rw [addFault, Arena.next_insert]
    rcases hmem with rfl | hmem
    · exact Nat.lt_succ_self _
    · exact Nat.lt_succ_of_lt (h.created e hmem)
  older {e f' cause} hget hlink := by
    rw [addFault, Arena.get?_insert] at hget
    split at hget
    · next heq =>
        obtain rfl := Option.some.inj hget
        rw [heq]
        refine h.created cause ?_
        rw [references_holdAll, hlink]
        exact Multiset.mem_add.2 (.inl (Multiset.mem_coe.2 (List.mem_singleton_self cause)))
    · exact h.older hget hlink

/-- Errors lose their contexts. -/
theorem Known.detachRegistry (h : Known o s) (c : ContextId) :
    Known o (s.detachRegistry c).1 := by
  cases hget : s.contexts.get? c with
  | none =>
      rw [Store.detachRegistry, hget]
      exact h
  | some context =>
      have href := references_detachRegistry o s c
      rw [detachRegistry_eq s hget] at href ⊢
      refine h.map (g := fun e f => if e ∈ context.registry.map Registration.fault then
        { f with context := none } else f) (fun e => ?_) ?_ (fun e f => ?_) href.le
      · rw [faults_freeAll, get?_detachAll]
        rfl
      · rw [faults_freeAll, next_detachAll]
        rfl
      · split <;> rfl

/-- **Every change keeps the order of keys.** -/
theorem invariant_known : Invariant Known where
  enter h hget := h.congr rfl (references_enter hget).le
  settle _ _ h hget _ := h.congr rfl (references_settle hget _ _).le
  free h := h.congr rfl (references_free _ _ _ _).le
  absent h _ := h.congr rfl (references_le_hold _ _ _)
  lessen {o s e _} h _ _ := by
    have hless : Known o s := h.congr rfl (references_le_hold o e s)
    exact hless.modifyFault e fun _ => rfl
  destroy {o s e f} h hget _ := by
    have hless : Known o s := h.congr rfl (references_le_hold o e s)
    exact hless.destroy hget
  evict e h := h.modifyFault e fun _ => rfl
  install {o s e _ _} h _ _ _ _ _ := by
    have hown : Known o s := h.congr rfl (le_refl _)
    exact hown.modifyFault e fun _ => rfl
  emit _ _ _ h := h.congr rfl (le_refl _)
  openBackend _ _ h := h.congr rfl (references_openBackend _ _ _ _).le
  failNext _ _ h := h.congr rfl (references_failNext _ _ _ _).le
  arrange h hget := h.congr rfl (references_arrange hget _).le
  add {o s c context block message draft cause} h hfresh _ _ _ _ := by
    refine Known.add (h.congr rfl ?_) hfresh
    rw [references_holdAll, references_holdAll]
    exact le_refl _
  enlist {_ s e _ _ _} h hfresh _ _ _ _ := h.congr rfl (references_registering hfresh e s).ge
  dismiss {o s e} h hfresh := by
    have hheld : Known (o.hold e) s := h.congr rfl (references_registering hfresh e s).ge
    exact hheld.modifyFault e fun _ => rfl
  detachRegistry c h _ := h.detachRegistry c
  addContext h _ := h.congr rfl (le_refl _)
  adjust h _ := h.congr rfl (le_refl _)
  close h _ _ _ _ _ := h.congr rfl (references_free _ _ _ _).le

/-- Nobody looks at the memory of backends for it. -/
theorem blind_known : Blind Known :=
  fun _ _ _ _ _ h => h.congr rfl (references_free _ _ _ _).le

/-- One more reference is on an error on which there was one. -/
theorem Known.retain (h : Known o s) {e : FaultId} (he : e ∈ o.references s) :
    Known (o.hold e) (s.retain e) := by
  have hheld : Known (o.hold e) s := {
    h with
    created := fun e' hmem => by
      rw [references_hold, Multiset.mem_cons] at hmem
      rcases hmem with rfl | hmem
      · exact h.created e' he
      · exact h.created e' hmem }
  exact hheld.modifyFault e fun _ => rfl

/-- Taking references needs no room here. -/
theorem takes_known (es : List FaultId) : Takes Known Known es :=
  takes_of_retain (fun h _ he => h.retain he) es

/-- An entry that no link answers for is no reference. -/
theorem Known.track (h : Known o s) (c : ContextId) (e : FaultId) :
    Known o (s.track c e).1 := by
  have hrequest := invariant_known.request h
  exact of_trackWith h (fun b => (hrequest b .node).congr rfl (references_answered _ _ _ _).ge)
    fun _ _ h => h.congr rfl (le_refl _)

/-- Neither is one that is taken out. -/
theorem Known.untrack (h : Known o s) (c : ContextId) (e : FaultId) : Known o (s.untrack c e) := by
  unfold Store.untrack
  split
  · exact h
  · split
    · exact h
    · exact Known.congr (s := s) h rfl (references_free _ _ _ _).le

section Runs

variable {s : Session}

/-- Every operation keeps references on errors that were created. -/
theorem Known.perform (h : Known s.holdings s.store) (operation : Operation) :
    Known (s.perform operation).1.holdings (s.perform operation).1.store := by
  cases hhook : operation.isHook with
  | false =>
      exact invariant_known.perform invariant_known.toUpheld id hhook (takes_known _)
        (.inr blind_known) h
  | true =>
      unfold Session.perform
      split
      · exact h
      cases operation with
      | track k l =>
          rw [Session.act]
          exact Session.of_withContext (P := fun s => Known s.holdings s.store) h fun c =>
            Session.of_withFault (P := fun s => Known s.holdings s.store) h fun e => h.track c e
      | untrack k l =>
          rw [Session.act]
          exact Session.of_withContext (P := fun s => Known s.holdings s.store) h fun c =>
            Session.of_withFault (P := fun s => Known s.holdings s.store) h fun e => h.untrack c e
      | _ => cases hhook

/-- Every run keeps references on errors that were created. -/
theorem Known.run (h : Known s.holdings s.store) (operations : List Operation) :
    Known (s.run operations).1.holdings (s.run operations).1.store := by
  induction operations generalizing s with
  | nil => exact h
  | cons operation rest ih => exact ih (h.perform operation)

end Runs

end Knowing

end Store

/-- **References and causes are older** after every run. -/
theorem Session.known_of_run (log : Log) (operations : List Operation) :
    Store.Known ((start log).run operations).1.holdings ((start log).run operations).1.store := by
  refine Store.Known.run ⟨fun e hmem => ?_, fun hget => ?_⟩ operations
  · cases hmem
  · rw [start, Arena.get?_empty] at hget
    cases hget

end FaultChain

import FaultChain.Proofs.Disposal
import FaultChain.Proofs.Operations

/-!
# How references change

`Holdings.references` puts together all references there are: those held outside a store, those that
backends hold for readers, and those that errors hold on their causes.  Most changes only pass
references on.  A backend that lets in a reader hands over the reference that it held for him, and
an error that is destroyed hands over the one on its cause, so all references together stay the
same; each lemma here says so of one change.

### How to read them

Everything is an equality of multisets, with what is held on both sides.  On the left stands what is
held after the change, and the store after it; on the right, what was held before.  So a lemma on an
invariant that counts references has nothing to count: it rewrites the references that there are to
those that there were.
-/

namespace FaultChain

open Memory (Block Backend Reentry Layout Rule)

namespace Store

variable {o : Holdings} {s : Store}

/-- A reference that is taken up by a handle is one more. -/
theorem references_hold (o : Holdings) (e : FaultId) (s : Store) :
    (o.hold e).references s = e ::ₘ o.references s := by
  simp only [Holdings.references, Holdings.hold, Multiset.cons_add]

/-- Several are as many more. -/
theorem references_holdAll (o : Holdings) (es : List FaultId) (s : Store) :
    (o.holdAll es).references s = (es : Multiset FaultId) + o.references s := by
  simp only [Holdings.references, Holdings.faults_holdAll, Holdings.fresh_holdAll, add_assoc]

/-- A block is no reference. -/
theorem references_answered (o : Holdings) (b : BackendId) (answer : Option Block) (s : Store) :
    (o.answered b answer).references s = o.references s := by
  cases answer <;> rfl

/-- An error that waits for its entry is held by whoever adds it. -/
theorem references_registering (hfresh : o.fresh = none) (e : FaultId) (s : Store) :
    (o.registering e).references s = (o.hold e).references s := by
  rw [references_hold]
  simp only [Holdings.references, Holdings.registering, hfresh, Option.toList_some,
    Option.toList_none, Multiset.coe_nil, add_zero, Multiset.coe_singleton,
    ← Multiset.singleton_add]
  abel

/-- The store contributes its readers and its causes, and nothing else. -/
theorem references_congr {s' : Store} (hpending : s'.pending = s.pending)
    (hcauses : s'.causes = s.causes) : o.references s' = o.references s := by
  rw [Holdings.references, Holdings.references, hpending, hcauses]

/-- A backend passes references on to whoever runs the readers that it lets go of. -/
theorem references_modifyBackend {b : BackendId} {backend : Backend} {g : Backend → Backend}
    {given taken : List FaultId} (hget : s.backends.get? b = some backend)
    (hg : (given : Multiset FaultId) + ((g backend).reentries.map Reentry.fault : List FaultId) =
      taken + (backend.reentries.map Reentry.fault : List FaultId)) :
    (o.holdAll given).references (s.modifyBackend b g) = (o.holdAll taken).references s := by
  have hpending := pending_modifyBackend hget g
  have hcauses : (s.modifyBackend b g).causes = s.causes := rfl
  rw [references_holdAll, references_holdAll, Holdings.references, Holdings.references, hcauses]
  refine Multiset.ext.2 fun e => ?_
  have hcount := congrArg (Multiset.count e) hpending
  have hgiven := congrArg (Multiset.count e) hg
  simp only [Multiset.count_add] at hcount hgiven ⊢
  omega

/-- An error is a cause once for each error that it explains. -/
theorem count_causes (s : Store) (e : FaultId) :
    s.causes.count e = s.faults.values.countP fun f => f.cause = some e := by
  unfold causes
  induction s.faults.values using Multiset.induction_on with
  | empty => rfl
  | cons f m ih =>
      rw [Multiset.cons_bind, Multiset.count_add, ih, Multiset.countP_cons, add_comm,
        Multiset.coe_count]
      congr 1
      cases hcause : f.cause with
      | none => rfl
      | some cause => simp [List.count_singleton]

/-! ## One change after another

The changes that an operation is made of, each with what becomes of the references.
-/

section Changes

variable {b : BackendId} {backend : Backend} {e : FaultId} {f : Fault}

/-- A request that enters passes the references of its readers to whoever runs them. -/
theorem references_enter (hget : s.backends.get? b = some backend) :
    (o.holdAll (backend.enter.2.map Reentry.fault)).references
      (s.modifyBackend b fun _ => backend.enter.1) = (o.holdAll []).references s := by
  refine references_modifyBackend hget ?_
  rw [Multiset.coe_add, Multiset.coe_add, Multiset.coe_eq_coe, List.nil_append, ← List.map_append,
    Backend.enter, List.partition_eq_filter_filter]
  exact (List.filter_append_perm _ backend.reentries).map _

/-- Its answer is none. -/
theorem references_settle (hget : s.backends.get? b = some backend) (serial : Nat)
    (layout : Layout) :
    (o.answered b (backend.settle serial layout).2).references
      (s.modifyBackend b fun _ => (backend.settle serial layout).1) = o.references s := by
  rw [references_answered]
  refine references_congr (pending_modifyBackend_of_reentries s b fun backend' hget' => ?_) rfl
  obtain rfl := Option.some.inj (hget.symm.trans hget')
  unfold Backend.settle
  split <;> rfl

/-- Nor is a block that goes back. -/
theorem references_free (o : Holdings) (s : Store) (b : BackendId) (block : Block) :
    o.references (s.free b block) = o.references s :=
  references_congr (pending_free _ _ _) rfl

/-- An error that keeps its cause keeps its reference. -/
theorem references_modifyFault (o : Holdings) (s : Store) (e : FaultId) {g : Fault → Fault}
    (hg : ∀ f, (g f).cause = f.cause) : o.references (s.modifyFault e g) = o.references s :=
  references_congr rfl (causes_modifyFault s e hg)

/-- A count is raised after the reference was taken. -/
theorem references_retain (o : Holdings) (s : Store) (e : FaultId) :
    o.references (s.retain e) = o.references s :=
  references_modifyFault o s e fun _ => rfl

/-- What survives taking one reference survives taking several. -/
theorem takes_of_retain {I : Holdings → Store → Prop}
    (hretain : ∀ {o : Holdings} {s : Store} {e : FaultId}, I o s → o.fresh = none →
      e ∈ o.references s → I (o.hold e) (s.retain e)) (es : List FaultId) : Takes I I es := by
  induction es with
  | nil => exact fun _ _ h _ _ => h
  | cons e es ih =>
      intro o s h hfresh hmem
      have hrest := ih (o.hold e) (s.retain e) (hretain h hfresh (hmem e List.mem_cons_self)) hfresh
        fun e' he' => by
          rw [references_retain, references_hold]
          exact Multiset.mem_cons_of_mem (hmem e' (List.mem_cons_of_mem e he'))
      rw [Holdings.holdAll_hold, ← Holdings.holdAll_cons] at hrest
      exact hrest

/-- A destroyed error is all that goes. -/
theorem faults_destroyed (s : Store) (e : FaultId) (f : Fault) :
    ((s.untrackOwn e f).destroy e f).faults = s.faults.erase e := by
  rw [destroy_eq, faults_freeAll, forgetFault, faults_untrackOwn]

/-- A destroyed error leaves behind the reference on its cause. -/
theorem references_destroyed (hget : s.faults.get? e = some f) :
    (o.holdAll f.cause.toList).references ((s.untrackOwn e f).destroy e f) = o.references s := by
  have hpending : ((s.untrackOwn e f).destroy e f).pending = s.pending := by
    rw [destroy_eq, pending_freeAll]
    exact pending_untrackOwn s e f
  have hcauses : s.causes = (f.cause.toList : Multiset FaultId) +
      ((s.untrackOwn e f).destroy e f).causes := by
    rw [causes_eq_of_forgetFault hget, causes, causes, faults_destroyed, forgetFault]
  rw [references_holdAll, Holdings.references, Holdings.references, hpending, hcauses]
  abel

/-- A new backend has no readers. -/
theorem references_openBackend (o : Holdings) (s : Store) (limit : Option Nat) (rule : Rule) :
    o.references (s.openBackend limit rule).1 = o.references s := by
  refine references_congr ?_ rfl
  simp only [pending, openBackend, Arena.values_insert, Multiset.cons_bind, List.map_nil,
    Multiset.coe_nil, zero_add]

/-- Faults that are planned are no references. -/
theorem references_failNext (o : Holdings) (s : Store) (b : BackendId) (offsets : List Nat) :
    o.references (s.modifyBackend b (·.failNext offsets)) = o.references s :=
  references_congr (pending_modifyBackend_of_reentries s b fun _ _ => rfl) rfl

/-- A backend that gets other readers hands over the references for those that it had. -/
theorem references_arrange (hget : s.backends.get? b = some backend) (readers : List Reentry) :
    (o.holdAll (backend.reentries.map Reentry.fault)).references
      (s.modifyBackend b fun backend => { backend with reentries := readers }) =
      (o.holdAll (readers.map Reentry.fault)).references s :=
  references_modifyBackend hget (add_comm _ _)

/-- A new error brings one reference on itself, and takes over the one on its cause. -/
theorem references_add (hfresh : o.fresh = none) :
    (o.registering s.faults.next).references (s.addFault f) =
      s.faults.next ::ₘ (o.holdAll f.cause.toList).references s := by
  rw [references_registering hfresh, references_hold, references_holdAll, Holdings.references,
    Holdings.references, causes_addFault]
  refine congrArg (s.faults.next ::ₘ ·) ?_
  show o.faults + _ + s.pending + _ = _
  abel

/-- Errors that lose their context keep their cause. -/
theorem references_detachRegistry (o : Holdings) (s : Store) (c : ContextId) :
    o.references (s.detachRegistry c).1 = o.references s := by
  cases hget : s.contexts.get? c with
  | none =>
      rw [detachRegistry, hget]
  | some context =>
      rw [detachRegistry_eq s hget]
      refine references_congr ?_ ?_
      · rw [pending_freeAll, pending, backends_detachAll]
        rfl
      · rw [causes, faults_freeAll]
        exact causes_detachAll _ _

end Changes

end Store

end FaultChain

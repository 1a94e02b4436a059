import FaultChain.Proofs.Holdings
import Mathlib.Tactic.Abel

/-!
# What a change of a store leaves behind

How the references and the blocks of a store change with the small steps that operations are made
of. Destroying an error forgets it and gives back its blocks one after another (`destroy_eq`), in
the order in which `Fault.blocks` lists them; giving a block back changes the history of its backend
and nothing else.

### Destruction is a list of blocks

The code destroys an error in an order of its own: its documents one by one, each with its text
first, then the message, and then the error itself.  What matters of it is a list of blocks, given
back in that order to one backend (`freeAll`).  The order is kept since the history of a backend is
a list; that nothing but histories changes is one lemma for each field, and the modules on
invariants need no others.
-/

namespace FaultChain

open Memory (Block Backend Reentry)

/-- The blocks that a document lives in, in the order in which they are given back: its text
first. -/
def Cached.blocks (cached : Cached) : List Block :=
  [cached.text.block, cached.node]

/-- The blocks that an error lives in, in the order in which they are given back. -/
def Fault.blocks (f : Fault) : List Block :=
  f.documents.flatMap Cached.blocks ++ [f.message.block, f.block]

namespace Store

/-- Gives blocks back to a backend, one after another. -/
def freeAll (s : Store) (b : BackendId) (blocks : List Block) : Store :=
  blocks.foldl (fun s block => s.free b block) s

section Destroying

variable (s : Store) (b : BackendId) (blocks : List Block) (e : FaultId) (f : Fault)

/-- One list of blocks after another. -/
theorem freeAll_append (more : List Block) :
    s.freeAll b (blocks ++ more) = (s.freeAll b blocks).freeAll b more :=
  List.foldl_append

/-- It does not matter whether the error is forgotten first. -/
theorem forgetFault_freeAll :
    (s.freeAll b blocks).forgetFault e = (s.forgetFault e).freeAll b blocks := by
  induction blocks generalizing s with
  | nil => rfl
  | cons block rest ih => exact ih (s.free b block)

/-- Giving back documents is giving back their blocks. -/
theorem foldl_freeCached (documents : List Cached) :
    documents.foldl (fun s cached => s.freeCached b cached) s =
      s.freeAll b (documents.flatMap Cached.blocks) := by
  rw [freeAll, List.foldl_flatMap]
  rfl

/-- **Destroying an error** forgets it and gives its blocks back. -/
theorem destroy_eq : s.destroy e f = (s.forgetFault e).freeAll f.backend f.blocks := by
  rw [Fault.blocks, freeAll_append, ← forgetFault_freeAll, ← foldl_freeCached]
  rfl

/-- Blocks that go back change no errors. -/
@[simp]
theorem faults_freeAll : (s.freeAll b blocks).faults = s.faults := by
  induction blocks generalizing s with
  | nil => rfl
  | cons block rest ih => exact ih (s.free b block)

/-- Nor do they change contexts. -/
@[simp]
theorem contexts_freeAll : (s.freeAll b blocks).contexts = s.contexts := by
  induction blocks generalizing s with
  | nil => rfl
  | cons block rest ih => exact ih (s.free b block)

end Destroying

/-! ## References

A change of a backend matters if it lets readers go, and a change of an error if it loses its cause;
no other change is one of references.
-/

section References

variable {s : Store} {b : BackendId} {backend : Backend} {e : FaultId} {f : Fault}

/-- A backend that changes has other readers to let in. -/
theorem pending_modifyBackend (hget : s.backends.get? b = some backend) (g : Backend → Backend) :
    (s.modifyBackend b g).pending + (backend.reentries.map Reentry.fault : List FaultId) =
      s.pending + ((g backend).reentries.map Reentry.fault : List FaultId) := by
  simp only [pending, modifyBackend, Arena.values_modify hget, Arena.values_eq_cons_erase hget,
    Multiset.cons_bind]
  abel

/-- A backend that keeps its readers holds the references that it held. -/
theorem pending_modifyBackend_of_reentries (s : Store) (b : BackendId) {g : Backend → Backend}
    (hg : ∀ backend, s.backends.get? b = some backend →
      (g backend).reentries = backend.reentries) :
    (s.modifyBackend b g).pending = s.pending := by
  cases hget : s.backends.get? b with
  | none => rw [modifyBackend, Arena.modify_of_get?_eq_none hget]
  | some backend =>
      have hpending := pending_modifyBackend hget g
      rwa [hg backend hget, add_left_inj] at hpending

/-- Blocks that go back let nobody in. -/
@[simp]
theorem pending_free (s : Store) (b : BackendId) (block : Block) :
    (s.free b block).pending = s.pending :=
  pending_modifyBackend_of_reentries s b fun _ _ => rfl

/-- However many they are. -/
@[simp]
theorem pending_freeAll (s : Store) (b : BackendId) (blocks : List Block) :
    (s.freeAll b blocks).pending = s.pending := by
  induction blocks generalizing s with
  | nil => rfl
  | cons block rest ih => exact (ih (s.free b block)).trans (pending_free s b block)

/-- Errors that keep their causes hold the references that they held. -/
theorem causes_modifyFault (s : Store) (e : FaultId) {g : Fault → Fault}
    (hg : ∀ f, (g f).cause = f.cause) : (s.modifyFault e g).causes = s.causes := by
  cases hget : s.faults.get? e with
  | none => rw [modifyFault, Arena.modify_of_get?_eq_none hget]
  | some f =>
      simp only [causes, modifyFault, Arena.values_modify hget, Arena.values_eq_cons_erase hget,
        Multiset.cons_bind, hg]

/-- An error that is there holds a reference on its cause. -/
theorem causes_eq_of_forgetFault (hget : s.faults.get? e = some f) :
    s.causes = (f.cause.toList : Multiset FaultId) + (s.forgetFault e).causes := by
  simp only [causes, forgetFault, Arena.values_eq_cons_erase hget, Multiset.cons_bind]

/-- A new error holds one on its cause. -/
theorem causes_addFault (s : Store) (f : Fault) :
    (s.addFault f).causes = (f.cause.toList : Multiset FaultId) + s.causes := by
  simp only [causes, addFault, Arena.values_insert, Multiset.cons_bind]

/-- Taking an error out of its registry changes no errors. -/
theorem faults_untrackOwn (s : Store) (e : FaultId) (f : Fault) :
    (s.untrackOwn e f).faults = s.faults := by
  unfold untrackOwn untrack
  split
  · split
    · rfl
    · split <;> rfl
  · rfl

/-- Nor does it let anybody in. -/
theorem pending_untrackOwn (s : Store) (e : FaultId) (f : Fault) :
    (s.untrackOwn e f).pending = s.pending := by
  unfold untrackOwn untrack
  split
  · split
    · rfl
    · split
      · rfl
      · exact pending_free _ _ _
  · rfl

end References

/-! ## Emptying a registry

The registry is gone through from its head.  Cutting links and giving blocks back do not get in each
other's way, so the result does not depend on their order.
-/

/-- Cuts the links of errors to their contexts. -/
def detachAll (s : Store) (es : List FaultId) : Store :=
  es.foldl Store.detach s

section Detaching

variable (s : Store) (es : List FaultId)

/-- Blocks may go back before or after. -/
theorem detachAll_free (b : BackendId) (block : Block) :
    (s.free b block).detachAll es = (s.detachAll es).free b block := by
  induction es generalizing s with
  | nil => rfl
  | cons e es ih => exact ih (s.detach e)

/-- The code cuts a link and gives a block back in turn; it might do the one for all errors, and
then the other. -/
theorem foldl_detach_free (entries : List Registration) (b : BackendId) :
    entries.foldl (fun s r => (s.detach r.fault).free b r.node) s =
      (s.detachAll (entries.map Registration.fault)).freeAll b
        (entries.map Registration.node) := by
  induction entries generalizing s with
  | nil => rfl
  | cons r rest ih =>
      rw [List.foldl_cons, ih, detachAll_free]
      rfl

/-- **Emptying a registry** detaches what was in it and gives the blocks of its entries back. -/
theorem detachRegistry_eq {c : ContextId} {context : Context}
    (hget : s.contexts.get? c = some context) :
    s.detachRegistry c =
      (((s.modifyContext c fun context => { context with registry := [] }).detachAll
        (context.registry.map Registration.fault)).freeAll context.backend
        (context.registry.map Registration.node), context.live) := by
  rw [detachRegistry, hget]
  dsimp only
  rw [foldl_detach_free]
  rfl

/-- Cutting links is a change of errors, and of no context. -/
@[simp]
theorem contexts_detachAll : (s.detachAll es).contexts = s.contexts := by
  induction es generalizing s with
  | nil => rfl
  | cons e es ih => exact ih (s.detach e)

/-- Nor of a backend. -/
@[simp]
theorem backends_detachAll : (s.detachAll es).backends = s.backends := by
  induction es generalizing s with
  | nil => rfl
  | cons e es ih => exact ih (s.detach e)

/-- Errors that lose their context keep their cause. -/
@[simp]
theorem causes_detachAll : (s.detachAll es).causes = s.causes := by
  induction es generalizing s with
  | nil => rfl
  | cons e es ih => exact (ih (s.detach e)).trans (causes_modifyFault s e fun _ => rfl)

/-- And no key is given out. -/
@[simp]
theorem next_detachAll : (s.detachAll es).faults.next = s.faults.next := by
  induction es generalizing s with
  | nil => rfl
  | cons e es ih => exact (ih (s.detach e)).trans (Arena.next_modify _ _ _)

/-- Errors lose their link if they are named, and nothing else. -/
theorem get?_detachAll (e : FaultId) :
    (s.detachAll es).faults.get? e =
      (s.faults.get? e).map fun f => if e ∈ es then { f with context := none } else f := by
  induction es generalizing s with
  | nil => simp only [List.not_mem_nil, if_false, Option.map_id']; rfl
  | cons e' es ih =>
      refine (ih (s.detach e')).trans ?_
      rw [detach, modifyFault, Arena.get?_modify]
      by_cases heq : e' = e
      · have hmem : e ∈ e' :: es := heq ▸ List.mem_cons_self
        rw [if_pos heq]
        cases s.faults.get? e with
        | none => rfl
        | some f => simp only [Option.map_some, hmem, if_true, ite_self]
      · simp only [heq, if_false, List.mem_cons, Ne.symm heq, false_or]

end Detaching

end Store

end FaultChain

import FaultChain.Proofs.Values
import FaultChain.Store.Reading

/-!
# What is held outside a store

The counts of references and the histories of backends answer for more than the store shows: a
handle holds a reference, a copy holds a block, and in the middle of an operation a reader holds the
reference that its backend gave up, or a build holds blocks that nobody owns yet.  `Holdings` says
what is held outside a store at a moment, so that an invariant can balance at *every* moment and not
only between operations.

`Follows` is the other half: what requests and readings leave as it is.  A reader who is let in may
release errors and leave documents, but errors only disappear, contexts keep everything but their
registries, and a backend numbers its requests upwards.
-/

namespace FaultChain

open Memory (Block Backend Reentry Event)

/-- What is held outside a store: references, blocks, and an error that was added and is not
registered yet. -/
structure Holdings where
  /-- The errors on which references are held. -/
  faults : Multiset FaultId := 0
  /-- The blocks, each with the backend that handed it out. -/
  blocks : Multiset (BackendId × Block) := 0
  /-- The error that waits for its entry in a registry, if there is one. -/
  fresh : Option FaultId := none

namespace Holdings

/-- One more reference. -/
def hold (o : Holdings) (e : FaultId) : Holdings :=
  { o with faults := e ::ₘ o.faults }

/-- More references. -/
def holdAll (o : Holdings) (es : List FaultId) : Holdings :=
  es.foldr (fun e o => o.hold e) o

/-- One more block. -/
def own (o : Holdings) (b : BackendId) (block : Block) : Holdings :=
  { o with blocks := (b, block) ::ₘ o.blocks }

/-- The block that answers a request, if one does. -/
def answered (o : Holdings) (b : BackendId) : Option Block → Holdings
  | none => o
  | some block => o.own b block

/-- With an error that waits for its entry. -/
def registering (o : Holdings) (e : FaultId) : Holdings :=
  { o with fresh := some e }

/-- The first of several references comes last. -/
theorem holdAll_cons (o : Holdings) (e : FaultId) (es : List FaultId) :
    o.holdAll (e :: es) = (o.holdAll es).hold e := rfl

/-- It does not matter which is taken first. -/
theorem holdAll_hold (o : Holdings) (e : FaultId) (es : List FaultId) :
    (o.hold e).holdAll es = (o.holdAll es).hold e := by
  induction es with
  | nil => rfl
  | cons e' es ih =>
      rw [holdAll_cons, holdAll_cons, ih]
      exact congrArg (mk · _ _) (Multiset.cons_swap _ _ _)

/-- Their references are added to those that were held. -/
@[simp]
theorem faults_holdAll (o : Holdings) (es : List FaultId) :
    (o.holdAll es).faults = (es : Multiset FaultId) + o.faults := by
  induction es with
  | nil => exact (zero_add o.faults).symm
  | cons e es ih => rw [holdAll_cons, hold, ih, ← Multiset.cons_coe, Multiset.cons_add]

/-- No block is held with them. -/
@[simp]
theorem blocks_holdAll (o : Holdings) (es : List FaultId) : (o.holdAll es).blocks = o.blocks := by
  induction es with
  | nil => rfl
  | cons e es ih => exact ih

/-- Nor is an error waiting for its entry. -/
@[simp]
theorem fresh_holdAll (o : Holdings) (es : List FaultId) : (o.holdAll es).fresh = o.fresh := by
  induction es with
  | nil => rfl
  | cons e es ih => exact ih

end Holdings

/-! ## References

Every reference on an error is in one of three places.  Each place is a multiset, and so is all of
them together.
-/

namespace Store

/-- The errors on which backends hold references for readers, once for each reader. -/
def pending (s : Store) : Multiset FaultId :=
  s.backends.values.bind fun b => (b.reentries.map Reentry.fault : List FaultId)

/-- The errors that are causes, once for each error that they explain. -/
def causes (s : Store) : Multiset FaultId :=
  s.faults.values.bind fun f => (f.cause.toList : Multiset FaultId)

end Store

/-- **All references there are**: those held outside the store, those that backends hold for
readers, and those that errors hold on their causes. -/
def Holdings.references (o : Holdings) (s : Store) : Multiset FaultId :=
  o.faults + (o.fresh.toList : Multiset FaultId) + s.pending + s.causes

/-! ## What readings leave as it is

The frame of a request, as a relation between the store in which it entered and the one in which it
is answered.  It composes, so it holds of everything that is made of requests, readings and
releases.
-/

/-- An error without what sharing and reading change about it. -/
def Fault.bare (f : Fault) : Fault :=
  { f with refs := 0, cache := none, retired := [] }

/-- A context without its registry. -/
def Context.bare (c : Context) : Context :=
  { c with registry := [] }

/-- Contexts that differ in their registries are valid both or neither. -/
theorem Context.valid_of_bare {c c' : Context} (h : c'.bare = c.bare) : c'.valid = c.valid :=
  (congrArg Context.valid h :)

/-- They have one backend. -/
theorem Context.backend_of_bare {c c' : Context} (h : c'.bare = c.bare) :
    c'.backend = c.backend :=
  (congrArg Context.backend h :)

/-- Errors that differ in what sharing changes have one context. -/
theorem Fault.context_of_bare {f f' : Fault} (h : f'.bare = f.bare) : f'.context = f.context :=
  (congrArg Fault.context h :)

/-- One backend comes after another: it has counted no fewer requests, and what it granted since has
a number that was not given out before. -/
structure Memory.Backend.Follows (b b' : Backend) : Prop where
  requests : b.requests ≤ b'.requests
  granted : ∀ block, Event.granted block ∈ b'.history →
    Event.granted block ∈ b.history ∨ b.requests < block.serial

/-- A backend comes after itself, with nothing in between. -/
theorem Memory.Backend.Follows.refl (b : Backend) : b.Follows b :=
  ⟨Nat.le_refl _, fun _ h => .inl h⟩

/-- And after whatever the one before it comes after. -/
theorem Memory.Backend.Follows.trans {b b' b'' : Backend} (h : b.Follows b') (h' : b'.Follows b'') :
    b.Follows b'' where
  requests := Nat.le_trans h.requests h'.requests
  granted block hmem := (h'.granted block hmem).elim (h.granted block)
    fun hlt => .inr (Nat.lt_of_le_of_lt h.requests hlt)

namespace Store

/-- One store comes after another with nothing but requests, readings and releases between them. -/
structure Follows (s s' : Store) : Prop where
  /-- The errors there are were there, and are the same but for references and documents. -/
  faults : ∀ {e f'}, s'.faults.get? e = some f' →
    ∃ f, s.faults.get? e = some f ∧ f'.bare = f.bare
  next : s'.faults.next = s.faults.next
  contexts : ∀ c, (s'.contexts.get? c).map Context.bare = (s.contexts.get? c).map Context.bare
  backends : ∀ {b backend'}, s'.backends.get? b = some backend' →
    ∃ backend, s.backends.get? b = some backend ∧ backend.Follows backend'
  /-- Readers are let in, never called for. -/
  waiting : s'.waiting ≤ s.waiting

namespace Follows

theorem refl (s : Store) : s.Follows s where
  faults h := ⟨_, h, rfl⟩
  next := rfl
  contexts _ := rfl
  backends h := ⟨_, h, .refl _⟩
  waiting := Nat.le_refl _

theorem trans {s s' s'' : Store} (h : s.Follows s') (h' : s'.Follows s'') : s.Follows s'' where
  faults hget := by
    obtain ⟨f', hget', hbare'⟩ := h'.faults hget
    obtain ⟨f, hget, hbare⟩ := h.faults hget'
    exact ⟨f, hget, hbare'.trans hbare⟩
  next := h'.next.trans h.next
  contexts c := (h'.contexts c).trans (h.contexts c)
  backends hget := by
    obtain ⟨backend', hget', hlater'⟩ := h'.backends hget
    obtain ⟨backend, hget, hlater⟩ := h.backends hget'
    exact ⟨backend, hget, hlater.trans hlater'⟩
  waiting := Nat.le_trans h'.waiting h.waiting

/-- A context is still there, and differs in its registry at most. -/
theorem context {s s' : Store} (h : s.Follows s') {c : ContextId} {context : Context}
    (hget : s.contexts.get? c = some context) :
    ∃ context', s'.contexts.get? c = some context' ∧ context'.bare = context.bare := by
  have hmap := h.contexts c
  rw [hget, Option.map_some, Option.map_eq_some_iff] at hmap
  exact hmap

end Follows

/-- Readers are as many as the lists of the backends are long. -/
theorem waiting_eq (s : Store) :
    s.waiting = (s.backends.values.map fun b => b.reentries.length).sum := by
  rw [waiting, List.length_flatMap, Arena.values, Multiset.map_coe, List.map_map, Multiset.sum_coe]
  rfl

/-- A backend that changes has more or fewer readers, and the others have as many as before. -/
theorem waiting_modifyBackend {s : Store} {b : BackendId} {backend : Backend}
    (hget : s.backends.get? b = some backend) (g : Backend → Backend) :
    (s.modifyBackend b g).waiting + backend.reentries.length =
      s.waiting + (g backend).reentries.length := by
  rw [waiting_eq, waiting_eq, modifyBackend, Arena.values_modify hget,
    Arena.values_eq_cons_erase hget, Multiset.map_cons, Multiset.map_cons, Multiset.sum_cons,
    Multiset.sum_cons]
  omega

end Store

end FaultChain

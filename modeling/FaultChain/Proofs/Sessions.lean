import FaultChain.Proofs.Operations
import FaultChain.Session

/-!
# What runs keep

`Session.holdings` reads off a session what is held outside its store between two operations: a
reference for each handle on an error, and the blocks of copies and loans.  What the operations on a
store keep is therefore kept by the operations of a session (`Upheld.act`), and by runs.

A run starts with nothing held (`Session.start`).  `Session.Throughout P` asks for `P` of every
operation in the session that it is performed in.

### From changes of a store to operations

An invariant is proved of the changes that the library makes, one lemma for each, and is carried
through requests, readings, releases and creations in the modules on stores.  What is left here is
bookkeeping: an operation looks a handle up, calls one function of the store, and puts the result
among what is held.  Each of the lemmas on `holdings` says of one such step what it does to what is
held, so that the invariant before the function meets the one after it.

### What is load-bearing

* **Two invariants, not one.** An operation that takes references needs room for them, so the bound
  on counts before it is smaller than after it.  `Invariant.act` therefore leads from `I` to `J`, of
  which the second has the greater bound, and where no counts are involved the two are the same.
* **Loans come back by themselves.** A caller may give a block back through any context, also one
  over another backend, and the library passes it on.  An invariant that looks at memory needs this
  not to happen (`Session.Returns`); one that does not look at memory keeps it all the same
  (`Blind`).
* **A run is a list.** What is asked of every operation along it is asked in the session in which
  the operation is performed (`Throughout`), and can be decided for a given run where it can be
  decided for an operation.
-/

namespace FaultChain

open Memory (Block Backend Reentry Rule)

/-- Whether an operation adds a context, or counts or takes down one.  All others leave contexts the
same but for their registries. -/
def Operation.isContextual : Operation → Bool
  | .createContext .. | .retainContext _ | .releaseContext .. | .dropContext _ => true
  | _ => false

/-- Whether an operation puts errors into registries or takes them out past their links.  These are
the two raw hooks, and most laws are about runs without them. -/
def Operation.isHook : Operation → Bool
  | .track .. | .untrack .. => true
  | _ => false

namespace Session

/-- A session in which nothing is held and nothing was done. -/
def start (log : Log) : Session :=
  { store := { log } }

/-- What the user of a session holds, and backends hold nothing of.  Handles on contexts are not
among it, since contexts count their handles and nothing else. -/
def holdings (s : Session) : Holdings where
  faults := s.faults.values
  blocks := s.copies.values.map (fun copy => (copy.backend, copy.buffer.block)) +
    s.loans.values.map fun loan => (loan.backend, loan.block)

/-- The errors on which an operation takes references while it is performed.  They are the ones for
which there has to be room. -/
def takes (s : Session) : Operation → List FaultId
  | .letIn _ readers => readers.filterMap fun guest => s.faults.get? guest.fault
  | .createFault _ _ (some h) => (s.faults.get? h).toList
  | .retainFault h => (s.faults.get? h).toList
  | .takeCause h => (((s.faults.get? h).bind s.store.faults.get?).bind Fault.cause).toList
  | _ => []

/-- The backend that a block on loan came from and the one that an operation gives it back to. -/
def returned (s : Session) : Operation → Option (BackendId × BackendId)
  | .free h loanHandle => do
    let c ← s.contexts.get? h
    let loan ← s.loans.get? loanHandle
    let context ← s.store.contexts.get? c
    some (loan.backend, context.backend)
  | _ => none

/-- Whether an operation gives a block on loan back to the backend that it came from, if to any. -/
def Returns (s : Session) (operation : Operation) : Prop :=
  ∀ way ∈ s.returned operation, way.1 = way.2

instance (s : Session) (operation : Operation) : Decidable (s.Returns operation) :=
  inferInstanceAs (Decidable (∀ way ∈ s.returned operation, way.1 = way.2))

/-- Whether every operation of a run has a property in the session that it is performed in. -/
def Throughout (P : Session → Operation → Prop) : Session → List Operation → Prop
  | _, [] => True
  | s, operation :: rest => P s operation ∧ Throughout P (s.perform operation).1 rest

/-- Whether a property that can be decided of every operation holds throughout a run. -/
def Throughout.decide {P : Session → Operation → Prop}
    [hP : ∀ s operation, Decidable (P s operation)] :
    ∀ s operations, Decidable (Throughout P s operations)
  | _, [] => .isTrue trivial
  | s, operation :: rest =>
    match hP s operation, Throughout.decide (s.perform operation).1 rest with
    | .isTrue hfirst, .isTrue hrest => .isTrue ⟨hfirst, hrest⟩
    | .isFalse hfirst, _ => .isFalse fun h => hfirst h.1
    | _, .isFalse hrest => .isFalse fun h => hrest h.2

instance {P : Session → Operation → Prop} [∀ s operation, Decidable (P s operation)] (s : Session)
    (operations : List Operation) : Decidable (Throughout P s operations) :=
  Throughout.decide s operations

/-- What follows from a property of every operation holds throughout a run that has it. -/
theorem Throughout.mono {P Q : Session → Operation → Prop}
    (hPQ : ∀ s operation, P s operation → Q s operation) {s : Session} {operations : List Operation}
    (h : Throughout P s operations) : Throughout Q s operations := by
  induction operations generalizing s with
  | nil => trivial
  | cons operation rest ih => exact ⟨hPQ s operation h.1, ih h.2⟩

/-- A run goes on where another has come to. -/
theorem run_append (s : Session) (before rest : List Operation) :
    (s.run (before ++ rest)).1 = ((s.run before).1.run rest).1 := by
  induction before generalizing s with
  | nil => rfl
  | cons operation before ih => exact ih (s.perform operation).1

/-- A property holds throughout a run if it holds throughout its first part, and throughout the rest
from there. -/
theorem throughout_append {P : Session → Operation → Prop} {s : Session}
    {before rest : List Operation} :
    Throughout P s (before ++ rest) ↔
      Throughout P s before ∧ Throughout P (s.run before).1 rest := by
  induction before generalizing s with
  | nil => exact (and_iff_right trivial).symm
  | cons operation before ih =>
      rw [List.cons_append, Throughout, Throughout, ih, and_assoc]
      rfl

section Repeated

/-! ### One operation time and again

A run of billions of operations cannot be gone through one by one.  Where the session after any
number of them is known beforehand, the run is known by one step. -/

variable (states : Nat → Session) {operation : Operation}

/-- The session after any number of them. -/
theorem run_replicate (hstep : ∀ m, ((states m).perform operation).1 = states (m + 1)) (n : Nat) :
    ((states 0).run (List.replicate n operation)).1 = states n := by
  induction n generalizing states with
  | zero => rfl
  | succ n ih =>
      have hrest := ih (fun m => states (m + 1)) fun m => hstep (m + 1)
      rw [← hstep 0] at hrest
      exact hrest

/-- What holds of the operation in each of these sessions holds throughout the run. -/
theorem throughout_replicate {P : Session → Operation → Prop}
    (hstep : ∀ m, ((states m).perform operation).1 = states (m + 1))
    (hP : ∀ m, P (states m) operation) (n : Nat) :
    Throughout P (states 0) (List.replicate n operation) := by
  induction n generalizing states with
  | zero => trivial
  | succ n ih =>
      have hrest := ih (fun m => states (m + 1)) (fun m => hstep (m + 1))
        fun m => hP (m + 1)
      rw [← hstep 0] at hrest
      exact ⟨hP 0, hrest⟩

end Repeated

/-- A run to try statements on.  Two errors over one cause are created through two contexts on one
backend; a copy is kept, a block on loan comes back, and a backend is to let in a reader; then the
last handle on the first context is dropped, which loses it. -/
def sampleRun : List Operation :=
  let draft (text : String) : Draft :=
    { domain := .git, code := .notFound, message := .ofText text }
  [.openBackend none, .createContext { backend := some 0 }, .createContext { backend := some 0 },
    .createFault 0 (draft "no such commit") none, .createFault 1 (draft "fetch") (some 0),
    .createFault 0 (draft "sync") (some 0), .copyMessage 1 1,
    .allocate 0 { size := 24, align := 8 }, .free 1 0, .letIn 0 [(1, 1)], .dropFault 0,
    .dropContext 0, .dropFault 2]

/-! ## What is held after a change

Handles, copies and loans are references and blocks that are held outside of the store.  Each change
of what a session holds is an equation between holdings.
-/

section Holding

variable {s : Session} {h : Handle}

/-- While the process is running, performing is acting. -/
theorem perform_eq (hrunning : s.aborted = false) (operation : Operation) :
    s.perform operation = s.act operation := by
  rw [perform, if_neg (Bool.eq_false_iff.1 hrunning)]

theorem withContext_of_get? {c : ContextId} (hh : s.contexts.get? h = some c)
    (act : Session → ContextId → Session × Outcome) : s.withContext h act = act s c := by
  rw [withContext, hh]

theorem withFault_of_get? {e : FaultId} (hh : s.faults.get? h = some e)
    (act : Session → FaultId → Session × Outcome) : s.withFault h act = act s e := by
  rw [withFault, hh]

/-- Acting on a context that is held, or doing nothing. -/
theorem of_withContext {P : Session → Prop} {act : Session → ContextId → Session × Outcome}
    (hs : P s) (hact : ∀ c, P (act s c).1) : P (s.withContext h act).1 := by
  unfold withContext
  split
  · exact hs
  · exact hact _

/-- Acting on an error that is held, or doing nothing. -/
theorem of_withFault {P : Session → Prop} {act : Session → FaultId → Session × Outcome}
    (hs : P s) (hact : ∀ e, P (act s e).1) : P (s.withFault h act).1 := by
  unfold withFault
  split
  · exact hs
  · exact hact _

/-- A change of the store leaves what is held as it is.  The definition moves the store and does not
copy it; this is the equation to reason with. -/
theorem onStore_eq {α : Type} (s : Session) (f : Store → Store × α) :
    s.onStore f = ({ s with store := (f s.store).1 }, (f s.store).2) := rfl

/-- One more handle on an error is one more reference. -/
theorem holdings_holdFault (s : Session) (e : FaultId) :
    (s.holdFault e).holdings = s.holdings.hold e := by
  simp only [holdings, holdFault, Arena.values_insert, Holdings.hold]

/-- A handle that is let go was a reference.  It is stated as what was held before, so that an
invariant of the holdings with that reference can be used. -/
theorem holdings_eq_of_forgetFault {e : FaultId} (hget : s.faults.get? h = some e) :
    s.holdings = (s.forgetFault h).holdings.hold e := by
  simp only [holdings, forgetFault, Holdings.hold, ← Arena.values_eq_cons_erase hget]

/-- A copy is a block. -/
theorem holdings_holdCopy (s : Session) (copy : Copy) :
    (s.holdCopy copy).holdings = s.holdings.own copy.backend copy.buffer.block := by
  simp only [holdings, holdCopy, Arena.values_insert, Holdings.own, Multiset.map_cons,
    Multiset.cons_add]

/-- A copy that is let go was a block. -/
theorem holdings_eq_of_forgetCopy {copy : Copy} (hget : s.copies.get? h = some copy) :
    s.holdings = (s.forgetCopy h).holdings.own copy.backend copy.buffer.block := by
  simp only [holdings, forgetCopy, Holdings.own, Arena.values_eq_cons_erase hget, Multiset.map_cons,
    Multiset.cons_add]

/-- A loan is a block. -/
theorem holdings_holdLoan (s : Session) (loan : Loan) :
    (s.holdLoan loan).holdings = s.holdings.own loan.backend loan.block := by
  simp only [holdings, holdLoan, Arena.values_insert, Holdings.own, Multiset.map_cons,
    Multiset.add_cons]

/-- A loan that is let go was a block. -/
theorem holdings_eq_of_forgetLoan {loan : Loan} (hget : s.loans.get? h = some loan) :
    s.holdings = (s.forgetLoan h).holdings.own loan.backend loan.block := by
  simp only [holdings, forgetLoan, Holdings.own, Arena.values_eq_cons_erase hget, Multiset.map_cons,
    Multiset.add_cons]

/-- What is held besides handles on contexts is not changed by a new context. -/
theorem createContext_eq (s : Session) (settings : Settings) (rule : Rule) :
    (s.createContext settings rule).1.store = (createOver s.store settings rule).1 ∧
      (s.createContext settings rule).1.holdings = s.holdings := by
  rw [createContext, onStore_eq]
  cases (createOver s.store settings rule).2 <;> exact ⟨rfl, rfl⟩

/-- Nor by a handle that is given up, whatever the answer is and whether or not the handle is
kept. -/
theorem releaseContext_eq (s : Session) (h : Handle) (c : ContextId) (diagnostics keep : Bool) :
    (s.releaseContext h c diagnostics keep).1.store = (s.store.releaseContext c diagnostics).1 ∧
      (s.releaseContext h c diagnostics keep).1.holdings = s.holdings := by
  rw [releaseContext, onStore_eq]
  cases (s.store.releaseContext c diagnostics).2 <;> cases keep <;> exact ⟨rfl, rfl⟩

/-- Nor by one that is dropped. -/
theorem dropContext_eq (s : Session) (h : Handle) (c : ContextId) :
    (s.dropContext h c).1.store = (s.store.dropContext c).1 ∧
      (s.dropContext h c).1.holdings = s.holdings := by
  rw [dropContext, onStore_eq]
  cases (s.store.dropContext c).2 <;> exact ⟨rfl, rfl⟩

theorem store_allocate (s : Session) (c : ContextId) (layout : Memory.Layout) :
    (s.allocate c layout).1.store = (s.store.allocate c layout).1 := by
  rw [allocate, onStore_eq]
  cases (s.store.allocate c layout).2 <;> rfl

theorem store_free (s : Session) (c : ContextId) (h : Handle) (loan : Loan) :
    (s.free c h loan).1.store = (s.store.freeThrough c loan.block).1 := by
  rw [free, onStore_eq]
  cases (s.store.freeThrough c loan.block).2 <;> rfl

theorem store_createFault (s : Session) (c : ContextId) (draft : Draft) (cause : Option FaultId) :
    (s.createFault c draft cause).1.store = (s.store.create c draft cause).1 := by
  rw [createFault, onStore_eq]
  cases (s.store.create c draft cause).2 <;> rfl

/-- The readers that are let in read errors that are held. -/
theorem map_fault_readersAfter (s : Session) (now : Nat) (readers : List Guest) :
    (s.readersAfter now readers).map Reentry.fault =
      readers.filterMap fun guest => s.faults.get? guest.fault := by
  rw [readersAfter, List.map_filterMap]
  congr 1
  funext guest
  rw [Option.map_map]
  exact congrFun Option.map_id _

end Holding

end Session

/-! ## What an operation keeps

The operations are gone through once more, now with what the session holds.  Operations past links
are left out here; `FaultChain.Proofs.Hooks` has what is kept by those as well.
-/

namespace Store

section Act

open Session

variable {I J : Holdings → Store → Prop} {s : Session}

/-- References that are given up one after another. -/
theorem Kept.releases (hI : Kept I) {o : Holdings} {s : Store} (readers : List Reentry)
    (h : I (o.holdAll (readers.map Reentry.fault)) s) :
    I o (readers.foldl (fun s r => s.release r.fault) s) := by
  induction readers generalizing s with
  | nil => exact h
  | cons r rest ih => exact ih (hI.release h)

/-- Other readers are let in: the references for them are taken first, and those for the readers
whom they replace are given up last. -/
theorem Upheld.letIn (hJ : Upheld J) {o : Holdings} {s : Store} {readers : List Reentry}
    (htake : Takes I J (readers.map Reentry.fault)) (hIJ : I o s → J o s) (h : I o s)
    (hfresh : o.fresh = none) (hheld : ∀ r ∈ readers, r.fault ∈ o.faults) (b : BackendId) :
    J o (Session.letIn s b readers) := by
  unfold Session.letIn
  split
  · exact hIJ h
  next backend hget =>
  have htaken := htake o s h hfresh fun e he => by
    obtain ⟨r, hr, rfl⟩ := List.mem_map.1 he
    exact mem_references_of_mem_faults (hheld r hr)
  rw [List.foldl_map] at htaken
  have hbackends := backends_foldl_retain (readers.map Reentry.fault) s
  rw [List.foldl_map] at hbackends
  dsimp only
  exact hJ.releases backend.reentries (hJ.arrange htaken (hbackends ▸ hget))

/-- Creating an error takes a reference on its cause, if it has one, and the new error is held. -/
theorem Upheld.createFault (hI : Upheld I) (hJ : Upheld J)
    (hIJ : ∀ {o : Holdings} {s : Store}, I o s → J o s) {cause : Option FaultId}
    (htake : Takes I J cause.toList) (h : I s.holdings s.store)
    (hheld : ∀ e ∈ cause.toList, e ∈ s.faults.values) (c : ContextId) (draft : Draft) :
    J (s.createFault c draft cause).1.holdings (s.createFault c draft cause).1.store := by
  have hcreate := hI.create hJ hIJ htake h rfl hheld c draft
  rw [Session.createFault, onStore_eq]
  rcases hresult : s.store.create c draft cause with ⟨store, _ | e⟩ <;> rw [hresult] at hcreate
  · exact hcreate
  · dsimp only
    rw [holdings_holdFault]
    exact hcreate

/-- One more handle on an error, to which there is a reference already. -/
theorem Takes.retainFault {e : FaultId} (htake : Takes I J [e]) (h : I s.holdings s.store)
    (hheld : e ∈ s.holdings.references s.store) :
    J (s.retainFault e).1.holdings (s.retainFault e).1.store := by
  have htaken := htake _ _ h rfl fun e' he' => (List.mem_singleton.1 he') ▸ hheld
  rw [Session.retainFault]
  dsimp only
  rw [holdings_holdFault]
  exact htaken

/-- Keeping what came of copying leaves the store alone, and holds the copy if there is one. -/
theorem keepCopy_eq (s : Session) (result : Except Failure Copy) :
    (Session.keepCopy (s, result)).1.store = s.store ∧
      (Session.keepCopy (s, result)).1.holdings = s.holdings.copied result := by
  cases result with
  | error why => exact ⟨rfl, rfl⟩
  | ok copy => exact ⟨rfl, holdings_holdCopy s copy⟩

/-- A new context keeps an invariant of the store, over a backend of its own or another's. -/
theorem Invariant.createContextFor (hI : Invariant I) (settings : Settings) (rule : Rule)
    (h : I s.holdings s.store) :
    I (s.createContext settings rule).1.holdings (s.createContext settings rule).1.store := by
  have hcreate : I s.holdings (Session.createOver s.store settings rule).1 := by
    unfold Session.createOver
    split
    · exact hI.createContext h _ _
    · exact hI.createContext (hI.openBackend none rule h) _ _
  obtain ⟨hstore, hholdings⟩ := Session.createContext_eq s settings rule
  rw [hstore, hholdings]
  exact hcreate

/-- So does a handle on a context that is given up. -/
theorem Invariant.releaseContextFor (hI : Invariant I) (h : Handle) (c : ContextId)
    (diagnostics keep : Bool) (hs : I s.holdings s.store) :
    I (s.releaseContext h c diagnostics keep).1.holdings
      (s.releaseContext h c diagnostics keep).1.store := by
  obtain ⟨hstore, hholdings⟩ := Session.releaseContext_eq s h c diagnostics keep
  rw [hstore, hholdings]
  exact hI.releaseContext hs c diagnostics

/-- So does one that is dropped. -/
theorem Invariant.dropContextFor (hI : Invariant I) (h : Handle) (c : ContextId)
    (hs : I s.holdings s.store) :
    I (s.dropContext h c).1.holdings (s.dropContext h c).1.store := by
  obtain ⟨hstore, hholdings⟩ := Session.dropContext_eq s h c
  rw [hstore, hholdings]
  exact hI.dropContext hs c

/-- A block on loan is held by the session from then on. -/
theorem Kept.allocateFor (hI : Kept I) (c : ContextId) (layout : Memory.Layout)
    (h : I s.holdings s.store) :
    I (s.allocate c layout).1.holdings (s.allocate c layout).1.store := by
  have hallocate := hI.allocate h c layout
  rw [Session.allocate, onStore_eq]
  rcases hresult : s.store.allocate c layout with ⟨store, _ | loan⟩ <;> rw [hresult] at hallocate
  · exact hallocate
  · dsimp only
    rw [holdings_holdLoan]
    exact hallocate

/-- A block on loan is given back, to its own backend or unseen by the invariant. -/
theorem Kept.freeFor (hI : Kept I) {c : ContextId} {l : Handle} {loan : Loan}
    (hget : s.loans.get? l = some loan)
    (hloan : (∀ context, s.store.contexts.get? c = some context →
      loan.backend = context.backend) ∨ Blind I) (h : I s.holdings s.store) :
    I (s.free c l loan).1.holdings (s.free c l loan).1.store := by
  rw [Session.free, onStore_eq]
  unfold freeThrough
  split
  · next store heq =>
      split at heq
      · cases heq
      · next context hcontext =>
          split at heq
          · injection heq with heq
            subst heq
            rcases hloan with hbackend | hblind
            · rw [holdings_eq_of_forgetLoan hget, hbackend context hcontext] at h
              exact hI.free h
            · exact hblind _ _ _ _ _ h
          · cases heq
  · next store heq =>
      split at heq
      · injection heq with heq
        subst heq
        exact h
      · split at heq
        · cases heq
        · injection heq with heq
          subst heq
          exact h

/-- An operation on errors, copies or loans leads from the invariant before it takes its references
to the one after it. -/
theorem Upheld.act (hI : Upheld I) (hJ : Upheld J)
    (hIJ : ∀ {o : Holdings} {s : Store}, I o s → J o s) {operation : Operation}
    (hcontext : operation.isContextual = false) (hhook : operation.isHook = false)
    (htake : Takes I J (s.takes operation)) (hloan : s.Returns operation ∨ Blind J)
    (h : I s.holdings s.store) :
    J (s.act operation).1.holdings (s.act operation).1.store := by
  have hheld : ∀ {k e}, s.faults.get? k = some e → e ∈ s.holdings.faults := fun hget =>
    Arena.mem_values hget
  cases operation with
  | openBackend limit rule => exact hIJ (hI.openBackend limit rule h)
  | failNext b offsets => exact hIJ (hI.failNext b offsets h)
  | letIn b readers =>
      rw [Session.act]
      split
      · exact hIJ h
      next backend _ =>
      refine hJ.letIn ?_ hIJ h rfl (fun r hr => ?_) b
      · rw [map_fault_readersAfter]
        exact htake
      · obtain ⟨guest, -, hr⟩ := List.mem_filterMap.1 hr
        obtain ⟨e, hget, rfl⟩ := Option.map_eq_some_iff.1 hr
        exact hheld hget
  | createContext settings rule => cases hcontext
  | retainContext k => cases hcontext
  | releaseContext k diagnostics keep => cases hcontext
  | dropContext k => cases hcontext
  | allocate k layout =>
      rw [Session.act, withContext]
      split
      · exact hIJ h
      · exact hIJ (hI.allocateFor _ layout h)
  | free k l =>
      rw [Session.act, withContext]
      split
      · exact hIJ h
      next c hcontext =>
      rw [withLoan]
      split
      · exact hIJ h
      next loan hget =>
      refine hJ.freeFor hget ?_ (hIJ h)
      refine hloan.imp_left fun hreturns context hc => ?_
      exact hreturns (loan.backend, context.backend) (by simp [returned, hcontext, hget, hc])
  | detachRegistry k =>
      rw [Session.act, withContext]
      split
      · exact hIJ h
      · exact hIJ (hI.detachRegistry _ h rfl)
  | track k l => cases hhook
  | untrack k l => cases hhook
  | createFault k draft cause =>
      cases cause with
      | none =>
          rw [Session.act, withContext]
          split
          · exact hIJ h
          have htake' : Takes I J (none : Option FaultId).toList := htake
          exact hI.createFault hJ hIJ htake' h (fun _ he => absurd he List.not_mem_nil) _ draft
      | some l =>
          rw [Session.act, withContext]
          split
          · exact hIJ h
          rw [withFault]
          split
          · exact hIJ h
          next cause hget =>
          rw [takes, hget] at htake
          refine hI.createFault hJ hIJ htake h (fun e he => ?_) _ draft
          obtain rfl : e = cause := List.mem_singleton.1 he
          exact hheld hget
  | retainFault k =>
      rw [Session.act, withFault]
      split
      · exact hIJ h
      next e hget =>
      rw [takes, hget] at htake
      exact htake.retainFault h (mem_references_of_mem_faults (hheld hget))
  | dropFault k =>
      rw [Session.act, withFault]
      split
      · exact hIJ h
      next e hget =>
      rw [holdings_eq_of_forgetFault hget] at h
      exact hIJ (hI.release h)
  | takeCause k =>
      rw [Session.act, withFault]
      split
      · exact hIJ h
      next e hget =>
      rw [takes, hget, Option.bind_some] at htake
      rw [Session.takeCause]
      split
      · exact hIJ h
      next cause hcause =>
      rw [hcause] at htake
      -- Nobody need hold the cause; it is referred to by the error that it explains.
      refine htake.retainFault h ?_
      obtain ⟨f, hfault, hcause⟩ := Option.bind_eq_some_iff.1 hcause
      refine Multiset.mem_add.2 (.inr ?_)
      refine Multiset.mem_bind.2 ⟨f, Arena.mem_values hfault, ?_⟩
      rw [hcause]
      exact List.mem_singleton_self _
  | read k passes =>
      rw [Session.act, withFault]
      split
      · exact hIJ h
      next e hget => exact hIJ (hI.read h (hheld hget) passes)
  | copyDocument k l passes =>
      rw [Session.act, withContext]
      split
      · exact hIJ h
      rw [withFault]
      split
      · exact hIJ h
      next e hget =>
      rw [onStore_eq]
      obtain ⟨hstore, hholdings⟩ := keepCopy_eq { s with store := _ }
        (s.store.copyDocument _ e passes).2
      rw [hstore, hholdings]
      exact hIJ (hI.copyDocument h (hheld hget) _ passes)
  | copyMessage k l =>
      rw [Session.act, withContext]
      split
      · exact hIJ h
      rw [withFault]
      split
      · exact hIJ h
      next e hget =>
      rw [onStore_eq]
      obtain ⟨hstore, hholdings⟩ := keepCopy_eq { s with store := _ }
        (s.store.copyMessage _ e).2
      rw [hstore, hholdings]
      exact hIJ (hI.copyMessage h _ e)
  | dropCopy k =>
      rw [Session.act, withCopy]
      split
      · exact hIJ h
      next copy hget =>
      rw [holdings_eq_of_forgetCopy hget] at h
      exact hIJ (hI.free h)

/-- **An operation of a session** leads from the invariant before it takes its references to the one
after it. -/
theorem Invariant.act (hI : Invariant I) (hJ : Upheld J)
    (hIJ : ∀ {o : Holdings} {s : Store}, I o s → J o s) {operation : Operation}
    (hhook : operation.isHook = false) (htake : Takes I J (s.takes operation))
    (hloan : s.Returns operation ∨ Blind J) (h : I s.holdings s.store) :
    J (s.act operation).1.holdings (s.act operation).1.store := by
  cases hcontext : operation.isContextual with
  | false => exact hI.toUpheld.act hJ hIJ hcontext hhook htake hloan h
  | true =>
    cases operation with
    | createContext settings rule => exact hIJ (hI.createContextFor settings rule h)
    | retainContext k =>
        rw [Session.act, withContext]
        split
        · exact hIJ h
        · exact hIJ (hI.retainContext h _)
    | releaseContext k diagnostics keep =>
        rw [Session.act, withContext]
        split
        · exact hIJ h
        · exact hIJ (hI.releaseContextFor k _ diagnostics keep h)
    | dropContext k =>
        rw [Session.act, withContext]
        split
        · exact hIJ h
        · exact hIJ (hI.dropContextFor k _ h)
    | _ => cases hcontext

/-- So it is for performing: after an abort nothing happens. -/
theorem Invariant.perform (hI : Invariant I) (hJ : Upheld J)
    (hIJ : ∀ {o : Holdings} {s : Store}, I o s → J o s) {operation : Operation}
    (hhook : operation.isHook = false) (htake : Takes I J (s.takes operation))
    (hloan : s.Returns operation ∨ Blind J) (h : I s.holdings s.store) :
    J (s.perform operation).1.holdings (s.perform operation).1.store := by
  unfold Session.perform
  split
  · exact hIJ h
  · exact hI.act hJ hIJ hhook htake hloan h

/-- **A run** keeps an invariant that counts no references and does not look at memory.  Then
neither room for references nor honest loans have to be asked of it. -/
theorem Invariant.run (hI : Invariant I) (htake : ∀ es, Takes I I es) (hblind : Blind I)
    {operations : List Operation} (hhooks : ∀ operation ∈ operations, operation.isHook = false)
    (h : I s.holdings s.store) :
    I (s.run operations).1.holdings (s.run operations).1.store := by
  induction operations generalizing s with
  | nil => exact h
  | cons operation rest ih =>
      exact ih (fun operation hmem => hhooks operation (List.mem_cons_of_mem _ hmem))
        (hI.perform hI.toUpheld id (hhooks operation List.mem_cons_self) (htake _) (.inr hblind) h)

end Act

end Store

end FaultChain

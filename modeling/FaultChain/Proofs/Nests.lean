import FaultChain.Proofs.Keeping

/-!
# The calls of a nest

A reader who renders makes two requests, and on each of them a backend may let other readers in, who
may render themselves.  The readings that come of one reading are a *nest*.  What they return is
looked at by nobody, so the code does not keep it; here they are listed, with the store that each of
them finds.

* `readVisits` lists the readers whom one reading lets in itself, for any visitor.
* `readWith_congr` says that these are all: a visitor that does the same to them has the reading do
  the same.
* `nest` follows `reader` down to readers whom readers let in, and `calls` is the reading with its
  nest.

### Why a second recursion can be trusted

`readVisits` goes through a reading once more and only collects.  Nothing forces it to collect the
right visits: a list that left one out would make every statement about all calls of a nest weaker,
and no proof would notice.  `readWith_congr` is what rules this out.  It says that the reading is
settled by what the visitor does to the listed visits, each in the store that is listed with it;
were there another visit that mattered, two visitors could differ in it alone and have the reading
differ.

### What a call carries

Every reader reads with passes of its own, which the backend was given along with it, and its
reservations may be refused while those of the reading that it comes into are granted.  So a call
carries its passes, and what a law wants of the calls of a nest it says call by call: that they get
their frames (`Call.Reads`), or that what comes of their passes has a given property (`Call.Tells`).
-/

namespace FaultChain

open Memory (Block Backend Reentry Layout)

/-- A reader who is let in, and the store that it finds. -/
structure Visit where
  reader : Reentry
  store : Store

namespace Store

/-! ## Whom a reading lets in

The visits of a reading are listed as the code would make them, each with the store that it would
find.  A list is finite and can be looked at, where a visitor can only be called.
-/

/-- Readers who are let in one after another, each in the store that the one before it left. -/
def dueVisits (visit : Visitor) (s : Store) : List Reentry → List Visit
  | [] => []
  | r :: due => { reader := r, store := s } :: (visit r s).dueVisits visit due

/-- The readers whom a request lets in.  The request has been counted when they come, and has not
been settled. -/
def requestVisits (visit : Visitor) (s : Store) (b : BackendId) : List Visit :=
  match s.backends.get? b with
  | none => []
  | some backend => (s.modifyBackend b fun _ => backend.enter.1).dueVisits visit backend.enter.2

/-- The readers whom the two requests of a build let in.  The second request is made only if the
first was granted, and only if there is a layout for the text. -/
def buildVisits (visit : Visitor) (s : Store) (e : FaultId) (b : BackendId)
    (passes : Document.Passes) : List Visit :=
  match s.chain? e with
  | none => []
  | some chain =>
    let required := Document.measure passes.measuring chain
    if required = Document.greatestCount then []
    else
      s.requestVisits visit b ++
        match s.requestWith visit b .cache with
        | (_, none) => []
        | (s, some _) =>
          match Layout.buffer? (required - 1) with
          | none => []
          | some _ => s.requestVisits visit b

/-- The readers whom a reading lets in; a reading that finds a document of the present generation
makes no request and lets in nobody. -/
def readVisits (visit : Visitor) (s : Store) (e : FaultId) (passes : Document.Passes) :
    List Visit :=
  match s.faults.get? e with
  | none => []
  | some f =>
    match f.context.bind s.contexts.get? with
    | none => []
    | some context =>
      match f.cache with
      | none => s.buildVisits visit e context.backend passes
      | some cached =>
        if cached.generation = context.shownGeneration then []
        else (s.evict e).buildVisits visit e context.backend passes

/-! ## There are no others

That the list is complete is shown by changing the visitor: one that does the same on the list does
the same for the reading.
-/

section Congr

variable {visit visit' : Visitor} {s : Store} {b : BackendId}

/-- Two visitors do the same to some readers, each in the store that it is listed with. -/
def AgreeOn (visit visit' : Visitor) (visits : List Visit) : Prop :=
  ∀ v ∈ visits, visit v.reader v.store = visit' v.reader v.store

/-- Readers who are due come in one after another, so what is done to the first decides which store
the second finds; with the same visits before, it is the same store. -/
theorem due_congr {due : List Reentry} (h : AgreeOn visit visit' (s.dueVisits visit due)) :
    due.foldl (fun s r => visit r s) s = due.foldl (fun s r => visit' r s) s := by
  induction due generalizing s with
  | nil => rfl
  | cons r due ih =>
      rw [List.foldl_cons, List.foldl_cons, ← h _ List.mem_cons_self]
      exact ih fun v hmem => h v (List.mem_cons_of_mem _ hmem)

/-- A request lets its readers in and is settled, which no visitor has a part in. -/
theorem requestWith_congr (h : AgreeOn visit visit' (s.requestVisits visit b)) (layout : Layout) :
    s.requestWith visit b layout = s.requestWith visit' b layout := by
  unfold requestVisits at h
  unfold requestWith
  split
  · rfl
  · next backend hget =>
      rw [hget] at h
      dsimp only at h ⊢
      rw [due_congr h]

/-- A request for a buffer lets readers in if there is a layout for it at all. -/
theorem requestBufferWith_congr {length : Nat}
    (h : ∀ layout, Layout.buffer? length = some layout →
      AgreeOn visit visit' (s.requestVisits visit b)) :
    s.requestBufferWith visit b length = s.requestBufferWith visit' b length := by
  unfold requestBufferWith
  split
  · rfl
  · next layout hlayout => rw [requestWith_congr (h layout hlayout)]

/-- The second request of a build is made in the store that the first one left, so both lists are
needed in turn. -/
theorem buildWith_congr {e : FaultId} {generation : UInt32} {passes : Document.Passes}
    (h : AgreeOn visit visit' (s.buildVisits visit e b passes)) :
    s.buildWith visit e b generation passes = s.buildWith visit' e b generation passes := by
  unfold buildVisits at h
  unfold buildWith
  split
  · rfl
  next chain hchain =>
  rw [hchain] at h
  dsimp only at h ⊢
  split
  · rfl
  next hcounted =>
  rw [if_neg hcounted] at h
  rw [← requestWith_congr fun v hmem => h v (List.mem_append_left _ hmem)]
  split
  · rfl
  next s₁ node hnode =>
  rw [hnode] at h
  rw [requestBufferWith_congr fun layout hlayout v hmem => ?_]
  refine h v (List.mem_append_right _ ?_)
  dsimp only
  rw [hlayout]
  exact hmem

/-- **The readers who are listed are all that a reading lets in**: it does not matter what would be
done to others. -/
theorem readWith_congr {e : FaultId} {passes : Document.Passes}
    (h : AgreeOn visit visit' (s.readVisits visit e passes)) :
    s.readWith visit e passes = s.readWith visit' e passes := by
  unfold readVisits at h
  unfold readWith
  split
  · rfl
  next f hget =>
  rw [hget] at h
  dsimp only at h
  split
  · rfl
  next context hcontext =>
  rw [hcontext] at h
  dsimp only at h ⊢
  split
  · next hcache =>
      rw [hcache] at h
      exact buildWith_congr h
  · next cached hcache =>
      rw [hcache] at h
      dsimp only at h
      split
      · rfl
      · next hstale =>
          rw [if_neg hstale] at h
          exact buildWith_congr h

end Congr

end Store

/-! ## Nests

A visit is a reading as well, and has visits of its own.  All of them together are the nest, which
is as deep as there are readers waiting.
-/

/-- A reading in a nest: the error that is read, what comes of the reservations of its passes, the
store that it finds, and how many readers may still be waiting. -/
structure Call where
  fault : FaultId
  passes : Document.Passes
  store : Store
  depth : Nat

namespace Call

/-- What a reading in a nest leaves and returns, which nobody but the reader sees. -/
def result (call : Call) : Store × Reading :=
  call.store.readWith (Store.reader call.depth) call.fault call.passes

/-- A reading is of an error, and gets the frames that it asks for. -/
def Reads (call : Call) (e : FaultId) : Prop :=
  call.fault = e ∧ call.passes = {}

instance (call : Call) (e : FaultId) : Decidable (call.Reads e) :=
  inferInstanceAs (Decidable (_ ∧ _))

/-- A reading is of an error with a chain, and if a text comes of its two passes, it is one of those
that are told. -/
def Tells (call : Call) (e : FaultId) (chain : Chain) (told : String → Prop) : Prop :=
  call.fault = e ∧ ∀ text, Document.convert call.passes chain = .text text → told text

end Call

namespace Store

/-- The readings that come of one with `n` readers waiting at most, and of those that it lets in.  A
reader who is waiting is struck off when it comes in, so the depth of the nest is bounded by how
many wait. -/
def nest : Nat → Store → FaultId → Document.Passes → List Call
  | 0, _, _, _ => []
  | n + 1, s, e, passes =>
    (s.readVisits (reader (n + 1)) e passes).flatMap fun v =>
      { fault := v.reader.fault, passes := v.reader.passes, store := v.store, depth := n } ::
        nest n v.store v.reader.fault v.reader.passes

/-- A reading with all that come of it. -/
def calls (s : Store) (e : FaultId) (passes : Document.Passes) : List Call :=
  { fault := e, passes, store := s, depth := s.waiting } :: nest s.waiting s e passes

end Store

/-- The readings that come of a reader who is let in with `n` waiting at most, himself among
them. -/
def Visit.calls : Nat → Visit → List Call
  | 0, _ => []
  | n + 1, v =>
    { fault := v.reader.fault, passes := v.reader.passes, store := v.store, depth := n } ::
      v.store.nest n v.reader.fault v.reader.passes

/-- A nest falls into those of the readers whom its first reading lets in.  That is the form in
which it meets a visitor with a list of calls for each visit. -/
theorem Store.nest_eq (n : Nat) (s : Store) (e : FaultId) (passes : Document.Passes) :
    s.nest n e passes = (s.readVisits (reader n) e passes).flatMap (Visit.calls n) := by
  cases n with
  | zero => exact (List.flatMap_eq_nil_iff.2 fun _ _ => rfl).symm
  | succ n => rfl

/-- Each reader who is let in reads, and gives up the reference that was held for it. -/
theorem Store.reader_succ (n : Nat) (v : Visit) :
    reader (n + 1) v.reader v.store =
      (Call.result
        { fault := v.reader.fault, passes := v.reader.passes, store := v.store
          depth := n }).1.release v.reader.fault :=
  rfl

end FaultChain

import FaultChain.Proofs.Lasting

/-!
# What does not look at the log

The log is part of a store, and nothing but `Store.emit` touches it.  So a store with another log
(`Store.withLog`) goes the same way: what the library does commutes with putting another log in
place.  Here that is said of everything that is silent, one equation for each function; the visitors
whom requests let in are silent as well (`Silent`, `silent_reader`).

What reports to the log follows in `FaultChain.Proofs.Noninterference`.

### Why equations, and not a relation between two stores

Two runs with different logs could be followed side by side by a relation that forgets the log.
Then every step would need a lemma of its own for both runs at once, and what an operation answers
would have to be carried along.  `withLog` is a change of one store instead: that it commutes with a
function is one equation, which says of the store and of the answer together that neither has
looked, and equations rewrite.  The relation is got back where it is needed, by putting the log of
the second run into the store of the first.

### What is load-bearing

* **Visitors come first.** A request lets readers in before it is settled, so nothing about requests
  is silent by itself: every equation from requests on is under the assumption that the visitor is
  (`Silent`).  The readers whom the library lets in read with the same functions, one nest deeper,
  and `silent_reader` closes the circle by induction on how many may still come in.
* **A release is a loop over a chain.** It takes down as many errors as nobody else refers to, and
  it stops by looking at counts of references only.  The equation is proved along the recursion of
  the function, where the chain below an error is the same with either log because it is read off
  the errors (`chain?_withLog`).
-/

namespace FaultChain

open Memory (Block Backend Reentry Layout)

namespace Store

/-- The store with another log.  Everything else is left, so what a store without a filter does can
be asked of the store that has one. -/
def withLog (s : Store) (log : Log) : Store :=
  { s with log }

/-- A visitor that does not look at the log, and does not write to it.  Both are in one equation:
with another log the visitor leaves the same store, but for that log. -/
def Silent (visit : Visitor) : Prop :=
  ∀ r s log, visit r (s.withLog log) = (visit r s).withLog log

section Changes

variable (s : Store) (log : Log)

/-- The three arenas of a store are not its log.  These are the equations by which `simp` sees that
a test made on the way, of a key or of a field, comes out the same. -/
@[simp]
theorem backends_withLog : (s.withLog log).backends = s.backends := rfl

@[simp]
theorem contexts_withLog : (s.withLog log).contexts = s.contexts := rfl

@[simp]
theorem faults_withLog : (s.withLog log).faults = s.faults := rfl

/-- A change of one backend is made in the arena of backends, and commutes with a change of the
log. -/
@[simp]
theorem modifyBackend_withLog (b : BackendId) (g : Backend → Backend) :
    (s.withLog log).modifyBackend b g = (s.modifyBackend b g).withLog log := rfl

/-- A change of one context is made in the arena of contexts, and commutes with a change of the
log. -/
@[simp]
theorem modifyContext_withLog (c : ContextId) (g : Context → Context) :
    (s.withLog log).modifyContext c g = (s.modifyContext c g).withLog log := rfl

/-- A change that is made for one thing after another, such as detaching each error of a registry,
is silent if each change is. -/
theorem foldl_withLog {α : Type} {f : Store → α → Store}
    (hf : ∀ s x, f (s.withLog log) x = (f s x).withLog log) (xs : List α) :
    xs.foldl f (s.withLog log) = (xs.foldl f s).withLog log := by
  induction xs generalizing s with
  | nil => rfl
  | cons x rest ih => rw [List.foldl_cons, List.foldl_cons, hf, ih]

/-- Chains are read off the errors, so what a reading is to render does not depend on the log. -/
theorem chain?_withLog (e : FaultId) : (s.withLog log).chain? e = s.chain? e :=
  chain?_congr (P := fun _ => True) (fun _ _ => rfl) (fun _ _ _ => trivial) trivial

end Changes

/-! ## Requests

A request is the one place at which somebody else may run in the middle of an operation, so it is
where a visitor has to be silent.
-/

section Requests

variable {visit : Visitor} (s : Store) (log : Log) (b : BackendId)

/-- Settling a request is a matter of the backend: its counter, its list of refusals and its
rule. -/
theorem settle_withLog (serial : Nat) (layout : Layout) :
    (s.withLog log).settle b serial layout =
      ((s.settle b serial layout).1.withLog log, (s.settle b serial layout).2) := by
  simp only [Store.settle, backends_withLog]
  cases s.backends.get? b <;> rfl

/-- A request counts, lets in whoever waits for it, and is settled.  Only the visit could have
looked. -/
theorem Silent.requestWith (hv : Silent visit) (layout : Layout) :
    (s.withLog log).requestWith visit b layout =
      ((s.requestWith visit b layout).1.withLog log, (s.requestWith visit b layout).2) := by
  simp only [Store.requestWith, backends_withLog]
  cases s.backends.get? b with
  | none => rfl
  | some backend =>
      dsimp only
      rw [modifyBackend_withLog, foldl_withLog _ _ fun s r => hv r s log, settle_withLog]

/-- A buffer is a request for a capacity; a length for which there is none is refused without a
request, with either log. -/
theorem Silent.requestBufferWith (hv : Silent visit) (length : Nat) :
    (s.withLog log).requestBufferWith visit b length =
      ((s.requestBufferWith visit b length).1.withLog log,
        (s.requestBufferWith visit b length).2) := by
  unfold Store.requestBufferWith
  cases Layout.buffer? length with
  | none => rfl
  | some layout =>
      dsimp only
      rw [hv.requestWith]
      rcases s.requestWith visit b layout with ⟨s', _ | block⟩ <;> rfl

/-- Copying a text asks for one buffer and writes into it. -/
theorem Silent.copyTextWith (hv : Silent visit) (text : String) :
    (s.withLog log).copyTextWith visit b text =
      ((s.copyTextWith visit b text).1.withLog log, (s.copyTextWith visit b text).2) := by
  unfold Store.copyTextWith requestCopyWith
  rw [hv.requestBufferWith]
  rcases s.requestBufferWith visit b text.toUTF8.size with ⟨s', _ | buffer⟩ <;> rfl

/-- Formatting a message asks for one buffer between its two passes.  What the argument writes is
part of the draft, not of the store. -/
theorem Silent.formatWith (hv : Silent visit) (argument : Message.Argument) :
    (s.withLog log).formatWith visit b argument =
      ((s.formatWith visit b argument).1.withLog log, (s.formatWith visit b argument).2) := by
  unfold Store.formatWith
  cases Message.measure argument.first with
  | none => rfl
  | some length =>
      dsimp only
      rw [hv.requestBufferWith]
      rcases s.requestBufferWith visit b length with ⟨s', _ | buffer⟩ <;> rfl

end Requests

/-! ## Releases

Releases report nothing: an error goes without a word.
-/

section Releases

variable (s : Store) (log : Log)

/-- Taking an entry out of a registry gives its block back, and reports nothing. -/
theorem untrack_withLog (c : ContextId) (e : FaultId) :
    (s.withLog log).untrack c e = (s.untrack c e).withLog log := by
  simp only [untrack, contexts_withLog]
  cases s.contexts.get? c with
  | none => rfl
  | some context =>
      dsimp only
      cases context.registry.find? fun r => r.fault == e <;> rfl

/-- An error goes out of the registry that it is linked to, or out of none; the link is read off the
error. -/
theorem untrackOwn_withLog (e : FaultId) (f : Fault) :
    (s.withLog log).untrackOwn e f = (s.untrackOwn e f).withLog log := by
  unfold untrackOwn
  cases f.context with
  | none => rfl
  | some c => exact untrack_withLog s log c e

/-- Destroying an error gives back its blocks and forgets it. -/
theorem destroy_withLog (e : FaultId) (f : Fault) :
    (s.withLog log).destroy e f = (s.destroy e f).withLog log := by
  unfold destroy
  dsimp only
  rw [foldl_withLog s log fun _ _ => rfl]
  rfl

/-- **A release** is silent, however long the chain that it takes down.  The induction is on the
recursion of `release`, which goes from an error to its cause. -/
theorem release_withLog (e : FaultId) :
    (s.withLog log).release e = (s.release e).withLog log := by
  induction e using Nat.strongRecOn generalizing s with
  | _ e ih =>
      rw [release, release, faults_withLog]
      cases s.faults.get? e with
      | none => rfl
      | some f =>
          dsimp only
          split
          · rw [untrackOwn_withLog, destroy_withLog]
            cases f.cause with
            | none => rfl
            | some cause =>
                dsimp only
                split
                · next holder => exact ih cause holder _
                · rfl
          · rfl

end Releases

/-! ## Readings

Neither do readings, whether they find a document, build one or come too late.
-/

section Readings

variable {visit : Visitor} (s : Store) (log : Log)

/-- Publishing a document looks at the document in use, and either puts the new one in its place or
gives it back. -/
theorem publish_withLog (e : FaultId) (b : BackendId) (own : Cached) :
    (s.withLog log).publish e b own =
      ((s.publish e b own).1.withLog log, (s.publish e b own).2) := by
  simp only [publish, faults_withLog]
  cases (s.faults.get? e).bind Fault.cache <;> rfl

/-- A build is two requests and what is made of them.  Each of the two lets readers in, and these
are silent. -/
theorem Silent.buildWith (hv : Silent visit) (e : FaultId) (b : BackendId) (generation : UInt32)
    (passes : Document.Passes) :
    (s.withLog log).buildWith visit e b generation passes =
      ((s.buildWith visit e b generation passes).1.withLog log,
        (s.buildWith visit e b generation passes).2) := by
  unfold Store.buildWith
  rw [chain?_withLog]
  cases s.chain? e with
  | none => rfl
  | some chain =>
      dsimp only
      split
      · rfl
      rw [hv.requestWith]
      rcases s.requestWith visit b .cache with ⟨s₁, _ | node⟩
      · rfl
      dsimp only
      rw [hv.requestBufferWith]
      rcases s₁.requestBufferWith visit b (Document.measure passes.measuring chain - 1)
        with ⟨s₂, _ | blank⟩
      · rfl
      dsimp only
      split
      · rfl
      · exact publish_withLog s₂ log e b _

/-- A reading looks at the error and its context, and builds only where no present document is
found. -/
theorem Silent.readWith (hv : Silent visit) (e : FaultId) (passes : Document.Passes) :
    (s.withLog log).readWith visit e passes =
      ((s.readWith visit e passes).1.withLog log, (s.readWith visit e passes).2) := by
  simp only [Store.readWith, faults_withLog, contexts_withLog]
  cases s.faults.get? e with
  | none => rfl
  | some f =>
      dsimp only
      cases f.context.bind s.contexts.get? with
      | none => rfl
      | some context =>
          dsimp only
          cases f.cache with
          | none => exact hv.buildWith s log e _ _ passes
          | some cached =>
              dsimp only
              split
              · rfl
              · exact hv.buildWith (s.evict e) log e _ _ passes

/-- **Readers who are let in** are silent, for however many may come in after them.  A reader of no
further ones changes nothing; any other one is a reading whose visitor is silent by induction. -/
theorem silent_reader (n : Nat) : Silent (reader n) := by
  induction n with
  | zero => exact fun _ _ _ => rfl
  | succ n ih =>
      intro r s log
      rw [reader, reader, ih.readWith, release_withLog]

/-- As many readers are waiting with another log. -/
theorem waiting_withLog : (s.withLog log).waiting = s.waiting := rfl

end Readings

/-! ## Operations

What is left are operations that look up a context or an error and do one of these.
-/

section Operations

variable {visit : Visitor} (s : Store) (log : Log)

/-- So a reading of the library is silent, whose visitor is a reader of as many as are waiting. -/
theorem read_withLog (e : FaultId) (passes : Document.Passes) :
    (s.withLog log).read e passes =
      ((s.read e passes).1.withLog log, (s.read e passes).2) :=
  (silent_reader _).readWith s log e passes

/-- Making an entry in a registry is a request in a context that is there and valid. -/
theorem Silent.trackWith (hv : Silent visit) (c : ContextId) (e : FaultId) :
    (s.withLog log).trackWith visit c e =
      ((s.trackWith visit c e).1.withLog log, (s.trackWith visit c e).2) := by
  simp only [Store.trackWith, contexts_withLog]
  cases s.contexts.get? c with
  | none => rfl
  | some context =>
      dsimp only
      split
      · rw [hv.requestWith]
        rcases s.requestWith visit context.backend .node with ⟨s', _ | node⟩ <;> rfl
      · rfl

/-- So is the entry that is made with the library's own readers let in. -/
theorem track_withLog (c : ContextId) (e : FaultId) :
    (s.withLog log).track c e = ((s.track c e).1.withLog log, (s.track c e).2) :=
  (silent_reader _).trackWith s log c e

/-- A block on loan is a request of the backend of its context, and nothing is asked of a dead
one. -/
theorem allocate_withLog (c : ContextId) (layout : Layout) :
    (s.withLog log).allocate c layout =
      ((s.allocate c layout).1.withLog log, (s.allocate c layout).2) := by
  simp only [Store.allocate, allocateWith, contexts_withLog, waiting_withLog]
  cases s.contexts.get? c with
  | none => rfl
  | some context =>
      dsimp only
      split
      · rw [(silent_reader _).requestWith]
        rcases s.requestWith (reader s.waiting) context.backend layout with ⟨s', _ | block⟩ <;> rfl
      · rfl

/-- Giving a loan back needs the context to be valid, which the log does not say. -/
theorem freeThrough_withLog (c : ContextId) (block : Block) :
    (s.withLog log).freeThrough c block =
      ((s.freeThrough c block).1.withLog log, (s.freeThrough c block).2) := by
  simp only [freeThrough, contexts_withLog]
  cases s.contexts.get? c with
  | none => rfl
  | some context =>
      dsimp only
      split <;> rfl

/-- Emptying a registry detaches every error in it and gives every entry back, one after another. -/
theorem detachRegistry_withLog (c : ContextId) :
    (s.withLog log).detachRegistry c =
      ((s.detachRegistry c).1.withLog log, (s.detachRegistry c).2) := by
  simp only [detachRegistry, contexts_withLog]
  cases s.contexts.get? c with
  | none => rfl
  | some context =>
      dsimp only
      rw [modifyContext_withLog, foldl_withLog _ _ fun _ _ => rfl]

/-- A copy of a document is one of what is rendered for it, so rendering and copying are silent
together. -/
theorem copyDocument_withLog (c : ContextId) (e : FaultId) (passes : Document.Passes) :
    (s.withLog log).copyDocument c e passes =
      ((s.copyDocument c e passes).1.withLog log, (s.copyDocument c e passes).2) := by
  simp only [copyDocument, copyDocumentWith, contexts_withLog, waiting_withLog]
  cases s.contexts.get? c with
  | none => rfl
  | some context =>
      dsimp only
      split
      · rw [(silent_reader _).readWith]
        exact (silent_reader _).copyTextWith _ log _ _
      · rfl

/-- A copy of a message reads the message and asks for one buffer. -/
theorem copyMessage_withLog (c : ContextId) (e : FaultId) :
    (s.withLog log).copyMessage c e =
      ((s.copyMessage c e).1.withLog log, (s.copyMessage c e).2) := by
  simp only [copyMessage, copyMessageWith, contexts_withLog, waiting_withLog]
  cases s.contexts.get? c with
  | none => rfl
  | some context =>
      dsimp only
      split
      · exact (silent_reader _).copyTextWith _ log _ _
      · rfl

/-- Letting in other readers takes references for them and gives up those of the readers before,
which may take errors down. -/
theorem letIn_withLog (b : BackendId) (readers : List Reentry) :
    Session.letIn (s.withLog log) b readers = (Session.letIn s b readers).withLog log := by
  simp only [Session.letIn, backends_withLog]
  cases s.backends.get? b with
  | none => rfl
  | some backend =>
      dsimp only
      rw [foldl_withLog s log fun _ _ => rfl, modifyBackend_withLog,
        foldl_withLog _ log fun s r => release_withLog s log r.fault]

end Operations

end Store

end FaultChain

import FaultChain.Proofs.Handles
import FaultChain.Proofs.Lasting
import FaultChain.Proofs.Registration
import FaultChain.Proofs.Seniority
import Mathlib.Data.List.TakeWhile

/-!
# What giving up a reference takes along

Giving up the last reference on an error destroys it and gives up the reference on its cause, and so
on along the chain, up to the first error on which there is another reference.  `Store.release` says
so by recursion.  `Store.unwind` says it as a loop, round by round, which does not look at keys at
all; it comes to its end after one round more than there are errors to destroy
(`Store.unwind_release`).  What both leave is written down without following either
(`Session.unwinding_of_run`): which errors are gone, which one has a reference less, what is left of
the registries, and which blocks came back, in what order.

### What is load-bearing

Each round changes the store that the next one sees.  It forgets an error, though, that is younger
than all that are still to come, so their lineage, their references and their entries are the same
as at the start (`Store.lineage_destroyed`, `Store.estate_destroyed`).

### Why both, recursion and loop

The recursion is over keys: the cause of an error is older, so its key is smaller, and a definition
can be by recursion on it.  The loop is what a program does that must not use a stack as long as the
chain.  It carries one thing from round to round, the error on which a reference is left over, and
does not know how many rounds there will be.  `unwind_release` says that the two leave the same,
after a number of rounds that is read off the store before the first one; so the loop ends, and
nothing about the law depends on which of the two is run.

### What is written down, and in what order

A release gives back the blocks of every error that it destroys, entry first and then what the error
lives in, outermost error first.  `Store.estate` is the list for one error and `Store.spent` the
errors in their order, so the histories of all backends after a release are the histories before
with given events in front (`Store.credited`).  Order matters here: a history that is honest lists
events as they happened.
-/

namespace FaultChain

open Memory (Block Backend Event)

namespace Store

/-! ## The loop

The code gives up references in a loop, so as not to run out of stack on a long chain.  One round of
it is one step of the recursion in terms of which everything else is said.
-/

/-- One round of the loop: gives up a reference on an error, and tells on which error one is left
over then.  That is the cause of an error that was destroyed, and nothing otherwise. -/
def round (s : Store) (e : FaultId) : Store × Option FaultId :=
  match s.faults.get? e with
  | none => (s, none)
  | some f =>
    if f.refs = 1 then ((s.untrackOwn e f).destroy e f, f.cause)
    else (s.modifyFault e fun f => { f with refs := f.refs - 1 }, none)

/-- So many rounds, or fewer if no reference is left over.  The number is a bound for the recursion
only; a loop that is done does not look at it. -/
def unwind : Nat → Store → Option FaultId → Store × Option FaultId
  | _, s, none => (s, none)
  | 0, s, some e => (s, some e)
  | n + 1, s, some e =>
    let (s, rest) := s.round e
    unwind n s rest

/-! ## What is destroyed and what comes back

What goes, what stays and what comes back is written down before anything is released, by looking
along the chain for the first error that somebody else holds.
-/

/-- Whether there is one reference on an error. -/
def lone (s : Store) (e : FaultId) : Bool :=
  (s.faults.get? e).any fun f => f.refs = 1

/-- The errors along a chain up to the first one on which there is another reference.  They are the
ones that go. -/
def spent (s : Store) (e : FaultId) : List FaultId :=
  (s.lineage e).takeWhile s.lone

/-- The first error along a chain on which there is another reference.  It stays, with one reference
less. -/
def spared (s : Store) (e : FaultId) : Option FaultId :=
  ((s.lineage e).dropWhile s.lone).head?

/-- The entry of an error in the registry of the context that it is attached to, with the backend
that it came from. -/
def ownEntry (s : Store) (e : FaultId) (f : Fault) : Option (BackendId × Block) := do
  let c ← f.context
  let context ← s.contexts.get? c
  let entry ← context.registry.find? fun r => r.fault == e
  return (context.backend, entry.node)

/-- All blocks that come back when an error is destroyed, each with its backend, in this order: its
entry, and then what it lives in.  Entry and record may be from different backends, if the error was
put into a registry past its link. -/
def estate (s : Store) (e : FaultId) : List (BackendId × Block) :=
  match s.faults.get? e with
  | none => []
  | some f => (s.ownEntry e f).toList ++ f.blocks.map (f.backend, ·)

/-- Backends that got blocks back, one after another. -/
def credited (backends : Arena Backend) (blocks : List (BackendId × Block)) : Arena Backend :=
  blocks.foldl (fun backends (b, block) => backends.modify b (·.free block)) backends

/-- Contexts without the latest entries of given errors, each in the registry of a given context. -/
def delisted (contexts : Arena Context) (entries : List (ContextId × FaultId)) : Arena Context :=
  entries.foldl (fun contexts (c, e) => contexts.modify c fun context =>
    { context with registry := context.registry.eraseP fun r => r.fault == e }) contexts

/-- The link of an error to the context that it is attached to. -/
def anchor (s : Store) (e : FaultId) : Option (ContextId × FaultId) :=
  (s.home e).map (·, e)

section Destroying

variable {s : Store} {e : FaultId} {f : Fault}

/-- Blocks are credited in turn. -/
theorem credited_append (backends : Arena Backend) (before blocks : List (BackendId × Block)) :
    credited backends (before ++ blocks) = credited (credited backends before) blocks :=
  List.foldl_append

/-- Giving blocks back is crediting their backend. -/
theorem freeAll_eq (s : Store) (b : BackendId) (blocks : List Block) :
    s.freeAll b blocks = { s with backends := credited s.backends (blocks.map (b, ·)) } := by
  induction blocks generalizing s with
  | nil => rfl
  | cons block rest ih => exact ih (s.free b block)

/-- **Taking an error out of its registry** removes its entry, and gives it back. -/
theorem untrackOwn_eq (hget : s.faults.get? e = some f) :
    s.untrackOwn e f =
      { s with
        contexts := delisted s.contexts (s.anchor e).toList
        backends := credited s.backends (s.ownEntry e f).toList } := by
  have hanchor : s.anchor e = f.context.map (·, e) := by
    rw [anchor, home, hget, Option.bind_some]
  rw [hanchor]
  unfold untrackOwn ownEntry
  cases f.context with
  | none => rfl
  | some c =>
      show s.untrack c e = { s with
        contexts := s.contexts.modify c fun context =>
          { context with registry := context.registry.eraseP fun r => r.fault == e }
        backends := credited s.backends (((s.contexts.get? c).bind fun context =>
          (context.registry.find? fun r => r.fault == e).bind fun entry =>
            some (context.backend, entry.node)).toList) }
      unfold untrack
      cases hcontext : s.contexts.get? c with
      | none => rw [Arena.modify_of_get?_eq_none hcontext]; rfl
      | some context =>
          dsimp only [Option.bind_some]
          cases hentry : context.registry.find? fun r => r.fault == e with
          | some entry => rfl
          | none =>
              -- Without an entry there is nothing to remove.
              have hsame : (s.contexts.modify c fun context =>
                  { context with registry := context.registry.eraseP fun r => r.fault == e }) =
                  s.contexts := by
                refine Arena.modify_eq_self fun other hother => ?_
                obtain rfl := Option.some.inj (hcontext.symm.trans hother)
                rw [List.eraseP_of_forall_not fun r hr => List.find?_eq_none.1 hentry r hr]
              rw [hsame]
              rfl

/-- **Destroying an error** that there is one reference on. -/
theorem destroyed_eq (hget : s.faults.get? e = some f) :
    (s.untrackOwn e f).destroy e f =
      { s with
        faults := s.faults.erase e
        contexts := delisted s.contexts (s.anchor e).toList
        backends := credited s.backends (s.estate e) } := by
  have hestate : s.estate e = (s.ownEntry e f).toList ++ f.blocks.map (f.backend, ·) := by
    rw [estate, hget]
  rw [destroy_eq, freeAll_eq, untrackOwn_eq hget, hestate, credited_append]
  rfl

/-! ## What is still to come stays the same

Destroying one error changes a registry and a backend, which the errors further along may share.  It
changes nothing of what was written down about them.
-/

section Older

variable (older : ∀ {e f cause}, s.faults.get? e = some f → f.cause = some cause → cause < e)
  (hget : s.faults.get? e = some f)

include hget in
/-- The other errors are there as before. -/
theorem get?_destroyed {x : FaultId} (hx : x ≠ e) :
    ((s.untrackOwn e f).destroy e f).faults.get? x = s.faults.get? x := by
  rw [destroyed_eq hget, Arena.get?_erase, if_neg (Ne.symm hx)]

include hget in
/-- Their references are as many as before.  The cause of the destroyed error still counts the
reference that is left over, which the next round gives up. -/
theorem lone_destroyed {x : FaultId} (hx : x ≠ e) :
    ((s.untrackOwn e f).destroy e f).lone x = s.lone x := by
  rw [lone, lone, get?_destroyed hget hx]

include older in
/-- Whatever is met along a chain is no younger than where it starts. -/
theorem le_of_mem_lineage {x top : FaultId} (hx : x ∈ s.lineage top) : x ≤ top :=
  (lineage_congr (P := (· ≤ top)) (fun _ _ => rfl)
    (fun hle hget hcause => Nat.le_of_lt (Nat.lt_of_lt_of_le (older hget hcause) hle))
    (Nat.le_refl top)).2 x hx

include older in
/-- Whatever is met along a chain is there. -/
theorem exists_of_mem_lineage {x top : FaultId} (hx : x ∈ s.lineage top) :
    ∃ f, s.faults.get? x = some f := by
  induction top using Nat.strongRecOn with
  | _ top ih =>
      cases hget : s.faults.get? top with
      | none =>
          rw [lineage_of_get?_eq_none hget] at hx
          cases hx
      | some f =>
          rw [lineage_of_get? hget fun cause hcause => older hget hcause] at hx
          rcases List.mem_cons.1 hx with rfl | hx
          · exact ⟨f, hget⟩
          · cases hcause : f.cause with
            | none =>
                rw [hcause] at hx
                cases hx
            | some cause =>
                rw [hcause] at hx
                exact ih cause (older hget hcause) hx

include older hget in
/-- What is met along the chain of the cause is what was met before: all of it is older than the
error that went. -/
theorem lineage_destroyed {cause : FaultId} (hcause : cause < e) :
    ((s.untrackOwn e f).destroy e f).lineage cause = s.lineage cause :=
  (lineage_congr (P := (· < e))
    (fun x hx => by rw [get?_destroyed hget (Nat.ne_of_lt hx)])
    (fun hlt hget hcause => Nat.lt_trans (older hget hcause) hlt) hcause).1

/-- Taking out the entry of one error leaves those of all others. -/
theorem find?_eraseP {x e : FaultId} (hx : x ≠ e) (registry : List Registration) :
    (registry.eraseP fun r => r.fault == e).find? (fun r => r.fault == x) =
      registry.find? fun r => r.fault == x := by
  induction registry with
  | nil => rfl
  | cons r registry ih =>
      rw [List.eraseP_cons, List.find?_cons]
      cases hr : r.fault == e with
      | true =>
          have hother : (r.fault == x) = false :=
            beq_false_of_ne fun heq => hx (heq.symm.trans (beq_iff_eq.1 hr))
          rw [hother]
          rfl
      | false =>
          show (r :: registry.eraseP _).find? _ = _
          rw [List.find?_cons, ih]

include hget in
/-- Their links are as before. -/
theorem anchor_destroyed {x : FaultId} (hx : x ≠ e) :
    ((s.untrackOwn e f).destroy e f).anchor x = s.anchor x := by
  rw [anchor, anchor, home, home, get?_destroyed hget hx]

include hget in
/-- So are their entries. -/
theorem ownEntry_destroyed {x : FaultId} (hx : x ≠ e) (g : Fault) :
    ((s.untrackOwn e f).destroy e f).ownEntry x g = s.ownEntry x g := by
  rw [destroyed_eq hget]
  unfold ownEntry
  cases g.context with
  | none => rfl
  | some c =>
      show ((delisted s.contexts (s.anchor e).toList).get? c).bind _ = (s.contexts.get? c).bind _
      cases hanchor : s.anchor e with
      | none => rfl
      | some entry =>
          obtain ⟨c', -, rfl⟩ := Option.map_eq_some_iff.1 hanchor
          show ((s.contexts.modify c' _).get? c).bind _ = _
          rw [Arena.get?_modify]
          split
          · rw [Option.bind_map]
            refine Option.bind_congr fun context _ => ?_
            rw [Function.comp_apply, find?_eraseP hx]
          · rfl

include hget in
/-- So everything that comes back for them is what it would have been at the start. -/
theorem estate_destroyed {x : FaultId} (hx : x ≠ e) :
    ((s.untrackOwn e f).destroy e f).estate x = s.estate x := by
  rw [estate, estate, get?_destroyed hget hx]
  cases s.faults.get? x with
  | none => rfl
  | some g => simp only [ownEntry_destroyed hget hx]

end Older

/-! ## How the spent part of a chain goes on

The spent part of a chain is the spent part of its cause's chain with one error in front, or it is
nothing.
-/

section Spent

/-- Lists are cut at the same place by what agrees on their members. -/
theorem takeWhile_dropWhile_congr {p q : FaultId → Bool} {es : List FaultId}
    (h : ∀ x ∈ es, p x = q x) :
    es.takeWhile p = es.takeWhile q ∧ es.dropWhile p = es.dropWhile q := by
  induction es with
  | nil => exact ⟨rfl, rfl⟩
  | cons e es ih =>
      obtain ⟨htake, hdrop⟩ := ih fun x hx => h x (List.mem_cons_of_mem e hx)
      have he := h e List.mem_cons_self
      rw [List.takeWhile_cons, List.takeWhile_cons, List.dropWhile_cons, List.dropWhile_cons, he,
        htake, hdrop]
      exact ⟨rfl, rfl⟩

/-- Nothing is spent along a chain that is not there. -/
theorem spent_of_absent (hget : s.faults.get? e = none) : s.spent e = [] ∧ s.spared e = none := by
  rw [spent, spared, lineage_of_get?_eq_none hget]
  exact ⟨rfl, rfl⟩

variable (older : ∀ {e f cause}, s.faults.get? e = some f → f.cause = some cause → cause < e)
  (hget : s.faults.get? e = some f)

include older hget in
/-- Nothing is spent where there is another reference on the first error. -/
theorem spent_of_shared (hshared : f.refs ≠ 1) : s.spent e = [] ∧ s.spared e = some e := by
  have hlone : s.lone e = false := by
    rw [lone, hget, Option.any_some, decide_eq_false hshared]
  rw [spent, spared, lineage_of_get? hget fun cause hcause => older hget hcause,
    List.takeWhile_cons, List.dropWhile_cons, hlone]
  exact ⟨rfl, rfl⟩

include older hget in
/-- Otherwise that error is spent, and then what is spent along the chain of its cause. -/
theorem spent_of_last (hlast : f.refs = 1) :
    s.spent e = e :: (f.cause.map ((s.untrackOwn e f).destroy e f).spent).getD [] ∧
      s.spared e = f.cause.bind ((s.untrackOwn e f).destroy e f).spared := by
  have hlone : s.lone e = true := by
    rw [lone, hget, Option.any_some, decide_eq_true hlast]
  rw [spent, spared, lineage_of_get? hget fun cause hcause => older hget hcause,
    List.takeWhile_cons, List.dropWhile_cons, hlone]
  cases hcause : f.cause with
  | none => exact ⟨rfl, rfl⟩
  | some cause =>
      have hlt := older hget hcause
      have hsame : ∀ x ∈ s.lineage cause, s.lone x = ((s.untrackOwn e f).destroy e f).lone x :=
        fun x hx => (lone_destroyed hget (Nat.ne_of_lt
          (Nat.lt_of_le_of_lt (le_of_mem_lineage older hx) hlt))).symm
      obtain ⟨htake, hdrop⟩ := takeWhile_dropWhile_congr hsame
      have hlineage := lineage_destroyed older hget hlt
      refine ⟨congrArg (e :: ·) ?_, congrArg List.head? ?_⟩
      · show (s.lineage cause).takeWhile _ = _
        rw [htake, ← hlineage]
        rfl
      · show (s.lineage cause).dropWhile _ = _
        rw [hdrop, ← hlineage]

end Spent

/-! ## Releases

With that, what a release leaves is an induction along the chain, and so is that the loop leaves the
same.
-/

section Release

/-- **The recursion** follows the causes of errors on which there was one reference. -/
theorem release_induction {P : Store → FaultId → Prop}
    (absent : ∀ s e, s.faults.get? e = none → P s e)
    (shared : ∀ s e f,
      (∀ {e f cause}, s.faults.get? e = some f → f.cause = some cause → cause < e) →
      s.faults.get? e = some f → f.refs ≠ 1 → P s e)
    (last : ∀ s e f,
      (∀ {e f cause}, s.faults.get? e = some f → f.cause = some cause → cause < e) →
      s.faults.get? e = some f → f.refs = 1 →
      (∀ cause ∈ f.cause, P ((s.untrackOwn e f).destroy e f) cause) → P s e)
    (older : ∀ {e f cause}, s.faults.get? e = some f → f.cause = some cause → cause < e)
    (e : FaultId) : P s e := by
  induction e using Nat.strongRecOn generalizing s with
  | _ e ih =>
      cases hget : s.faults.get? e with
      | none => exact absent s e hget
      | some f =>
          by_cases hlast : f.refs = 1
          · refine last s e f older hget hlast fun cause hcause => ?_
            refine ih cause (older hget hcause) fun {x g y} hx hy => ?_
            rw [faults_destroyed, Arena.get?_erase] at hx
            split at hx
            · cases hx
            · exact older hx hy
          · exact shared s e f older hget hlast

/-- Giving up a reference on nothing. -/
theorem release_of_absent (hget : s.faults.get? e = none) : s.release e = s := by
  unfold release
  rw [hget]

/-- Giving up one of several references. -/
theorem release_of_shared (hget : s.faults.get? e = some f) (hshared : f.refs ≠ 1) :
    s.release e = s.modifyFault e fun f => { f with refs := f.refs - 1 } := by
  unfold release
  rw [hget]
  dsimp only
  rw [if_neg hshared]

/-- The last reference takes along the one on the cause. -/
theorem release_of_last
    (older : ∀ {e f cause}, s.faults.get? e = some f → f.cause = some cause → cause < e)
    (hget : s.faults.get? e = some f) (hlast : f.refs = 1) :
    s.release e =
      f.cause.elim ((s.untrackOwn e f).destroy e f) ((s.untrackOwn e f).destroy e f).release := by
  rw [release, hget]
  dsimp only
  rw [if_pos hlast]
  cases hcause : f.cause with
  | none => rfl
  | some cause => exact if_pos (older hget hcause)

/-- **The loop ends**, with what the recursion leaves, one round after the last error is destroyed.
-/
theorem unwind_release
    (older : ∀ {e f cause}, s.faults.get? e = some f → f.cause = some cause → cause < e)
    (e : FaultId) : ∀ n, (s.spent e).length < n → unwind n s (some e) = (s.release e, none) := by
  refine release_induction (P := fun s e => ∀ n, (s.spent e).length < n →
    unwind n s (some e) = (s.release e, none)) ?_ ?_ ?_ older e
  · intro s e hget n hn
    obtain ⟨n, rfl⟩ := Nat.exists_eq_succ_of_ne_zero (Nat.ne_zero_of_lt hn)
    rw [unwind, round, hget, release_of_absent hget]
    cases n <;> rfl
  · intro s e f _ hget hshared n hn
    obtain ⟨n, rfl⟩ := Nat.exists_eq_succ_of_ne_zero (Nat.ne_zero_of_lt hn)
    rw [unwind, round, hget, release_of_shared hget hshared]
    dsimp only
    rw [if_neg hshared]
    cases n <;> rfl
  · intro s e f older hget hlast ih n hn
    obtain ⟨n, rfl⟩ := Nat.exists_eq_succ_of_ne_zero (Nat.ne_zero_of_lt hn)
    obtain ⟨hspent, -⟩ := spent_of_last older hget hlast
    rw [hspent, List.length_cons, Nat.succ_lt_succ_iff] at hn
    rw [unwind, round, hget, release_of_last older hget hlast]
    dsimp only
    rw [if_pos hlast]
    cases hcause : f.cause with
    | none => cases n <;> rfl
    | some cause =>
        rw [hcause] at hn
        exact ih cause hcause n hn

/-- What a release leaves: the spent part of the chain is gone, with its entries and its blocks, and
the first error after it has one reference less.  Everything else is as it was, which is why each
field is an equation for all keys. -/
structure Released (s : Store) (e : FaultId) (s' : Store) : Prop where
  faults : ∀ x, s'.faults.get? x =
    if x ∈ s.spent e then none
    else (s.faults.get? x).map fun f =>
      if s.spared e = some x then { f with refs := f.refs - 1 } else f
  contexts : s'.contexts = delisted s.contexts ((s.spent e).filterMap s.anchor)
  backends : s'.backends = credited s.backends ((s.spent e).flatMap s.estate)
  log : s'.log = s.log

/-- Nothing is spent where another reference is given up, or none. -/
theorem Released.of_spent_eq_nil {s' : Store} (hspent : s.spent e = [])
    (hfaults : ∀ x, s'.faults.get? x = (s.faults.get? x).map fun f =>
      if s.spared e = some x then { f with refs := f.refs - 1 } else f)
    (hcontexts : s'.contexts = s.contexts) (hbackends : s'.backends = s.backends)
    (hlog : s'.log = s.log) : Released s e s' where
  faults x := by rw [hspent, if_neg List.not_mem_nil, hfaults]
  contexts := by rw [hspent, hcontexts]; rfl
  backends := by rw [hspent, hbackends]; rfl
  log := hlog

/-- What is left once the last reference is given up, without or with a cause. -/
theorem released_destroyed (hget : s.faults.get? e = some f) (hspent : s.spent e = [e])
    (hspared : s.spared e = none) : Released s e ((s.untrackOwn e f).destroy e f) := by
  rw [destroyed_eq hget]
  constructor
  case faults =>
    intro x
    simp only [Arena.get?_erase, hspent, hspared, List.mem_singleton, eq_comm, reduceCtorEq,
      if_false, Option.map_id']
  case contexts =>
    rw [hspent, List.filterMap_cons]
    cases s.anchor e <;> rfl
  case backends =>
    rw [hspent, List.flatMap_singleton]
  case log => rfl

/-- What is left after one error was destroyed and the release of its cause has left what it
leaves. -/
theorem Released.of_destroyed
    (older : ∀ {e f cause}, s.faults.get? e = some f → f.cause = some cause → cause < e)
    (hget : s.faults.get? e = some f) {cause : FaultId} (hcause : f.cause = some cause)
    {s' : Store} (hspent : s.spent e = e :: ((s.untrackOwn e f).destroy e f).spent cause)
    (hspared : s.spared e = ((s.untrackOwn e f).destroy e f).spared cause)
    (h : Released ((s.untrackOwn e f).destroy e f) cause s') : Released s e s' := by
  -- Whatever is still to come is older than what was destroyed.
  have hne : ∀ x ∈ ((s.untrackOwn e f).destroy e f).spent cause, x ≠ e := by
    intro x hx
    have hmem := List.takeWhile_subset _ hx
    rw [lineage_destroyed older hget (older hget hcause)] at hmem
    exact Nat.ne_of_lt (Nat.lt_of_le_of_lt (le_of_mem_lineage older hmem) (older hget hcause))
  have hanchor := List.filterMap_congr fun x hx => anchor_destroyed hget (hne x hx)
  have hestate := List.flatMap_congr fun x hx => estate_destroyed hget (hne x hx)
  constructor
  case faults =>
    intro x
    rw [h.faults, hspent, hspared, faults_destroyed, Arena.get?_erase]
    by_cases hx : x = e
    · rw [if_pos hx.symm, if_pos (List.mem_cons.2 (.inl hx)), Option.map_none, ite_self]
    · simp only [List.mem_cons, hx, Ne.symm hx, false_or, if_false]
  case contexts =>
    rw [h.contexts, hanchor, hspent, List.filterMap_cons, destroyed_eq hget]
    cases s.anchor e <;> rfl
  case backends =>
    rw [h.backends, hestate, hspent, List.flatMap_cons, credited_append]
    rw [destroyed_eq hget]
  case log =>
    rw [h.log, destroyed_eq hget]

/-- **A release leaves that**, by the recursion of releases. -/
theorem released_release
    (older : ∀ {e f cause}, s.faults.get? e = some f → f.cause = some cause → cause < e)
    (e : FaultId) : Released s e (s.release e) := by
  refine release_induction (P := fun s e => Released s e (s.release e)) ?_ ?_ ?_ older e
  · intro s e hget
    obtain ⟨hspent, hspared⟩ := spent_of_absent hget
    rw [release_of_absent hget]
    refine .of_spent_eq_nil hspent (fun x => ?_) rfl rfl rfl
    simp only [hspared, reduceCtorEq, if_false, Option.map_id']
  · intro s e f older hget hshared
    obtain ⟨hspent, hspared⟩ := spent_of_shared older hget hshared
    rw [release_of_shared hget hshared]
    refine .of_spent_eq_nil hspent (fun x => ?_) rfl rfl rfl
    rw [modifyFault, Arena.get?_modify, hspared]
    by_cases heq : e = x
    · simp only [heq, if_true]
    · simp only [heq, if_false, Option.some.injEq, Option.map_id']
  · intro s e f older hget hlast ih
    obtain ⟨hspent, hspared⟩ := spent_of_last older hget hlast
    rw [release_of_last older hget hlast]
    cases hcause : f.cause with
    | none =>
        rw [hcause] at hspent hspared
        exact released_destroyed hget hspent hspared
    | some cause =>
        rw [hcause] at hspent hspared
        exact .of_destroyed older hget hcause hspent hspared (ih cause hcause)

end Release

end Destroying

/-! ## What is seen of it

What was written down about lists of blocks and entries is read as what becomes of each context and
each backend.
-/

section Seen

variable {s : Store} {e : FaultId}

section Counts

variable (older : ∀ {e f cause}, s.faults.get? e = some f → f.cause = some cause → cause < e)

include older in
/-- There was one reference on each error that goes. -/
theorem refs_of_mem_spent {x : FaultId} (hx : x ∈ s.spent e) :
    ∃ f, s.faults.get? x = some f ∧ f.refs = 1 := by
  obtain ⟨f, hget⟩ := exists_of_mem_lineage older (List.takeWhile_subset _ hx)
  have hlone : s.lone x = true := List.mem_takeWhile_imp hx
  rw [lone, hget, Option.any_some] at hlone
  exact ⟨f, hget, of_decide_eq_true hlone⟩

include older in
/-- There were more on the one that stays. -/
theorem refs_of_spared {x : FaultId} (hx : s.spared e = some x) :
    ∃ f, s.faults.get? x = some f ∧ f.refs ≠ 1 := by
  have hmem : x ∈ s.lineage e := List.dropWhile_subset _ (List.mem_of_head? hx)
  obtain ⟨f, hget⟩ := exists_of_mem_lineage older hmem
  have hlone := List.head?_dropWhile_not s.lone (s.lineage e)
  rw [show ((s.lineage e).dropWhile s.lone).head? = some x from hx] at hlone
  dsimp only at hlone
  rw [lone, hget, Option.any_some] at hlone
  exact ⟨f, hget, of_decide_eq_false hlone⟩

end Counts

/-- What backends have recorded of the blocks that came back. -/
theorem get?_credited (backends : Arena Backend) (blocks : List (BackendId × Block))
    (b : BackendId) :
    (credited backends blocks).get? b = (backends.get? b).map fun backend =>
      { backend with history :=
        ((blocks.filter (·.1 = b)).map (Event.freed ·.2)).reverse ++ backend.history } := by
  induction blocks generalizing backends with
  | nil => exact Option.map_id'.symm
  | cons entry rest ih =>
      refine (ih (backends.modify entry.1 (·.free entry.2))).trans ?_
      rw [Arena.get?_modify, List.filter_cons]
      by_cases heq : entry.1 = b
      · rw [if_pos heq, decide_eq_true heq, if_pos rfl, Option.map_map]
        refine Option.map_congr fun backend _ => ?_
        simp only [Function.comp_apply, Backend.free, List.map_cons, List.reverse_cons,
          List.append_assoc, List.singleton_append]
      · rw [if_neg heq, decide_eq_false heq, if_neg Bool.false_ne_true]

/-- Entries of one context are taken out one after another. -/
theorem get?_delisted (contexts : Arena Context) (entries : List (ContextId × FaultId))
    (c : ContextId) :
    (delisted contexts entries).get? c = (contexts.get? c).map fun context =>
      { context with
        registry := ((entries.filter (·.1 = c)).map Prod.snd).foldl
          (fun registry e => registry.eraseP fun r => r.fault == e) context.registry } := by
  induction entries generalizing contexts with
  | nil => exact Option.map_id'.symm
  | cons entry rest ih =>
      refine (ih (contexts.modify entry.1 _)).trans ?_
      rw [Arena.get?_modify, List.filter_cons]
      by_cases heq : entry.1 = c
      · rw [if_pos heq, decide_eq_true heq, if_pos rfl, Option.map_map]
        rfl
      · rw [if_neg heq, decide_eq_false heq, if_neg Bool.false_ne_true]

/-- Where errors are listed once, taking out the entry of one leaves those of all others. -/
theorem eraseP_eq_filter {registry : List Registration}
    (hnodup : (registry.map Registration.fault).Nodup) (e : FaultId) :
    registry.eraseP (fun r => r.fault == e) = registry.filter fun r => r.fault ≠ e := by
  induction registry with
  | nil => rfl
  | cons r registry ih =>
      obtain ⟨hnew, hrest⟩ := List.nodup_cons.1 hnodup
      rw [List.eraseP_cons, List.filter_cons]
      by_cases hr : r.fault = e
      · have hothers : ∀ r' ∈ registry, decide (r'.fault ≠ e) = true := fun r' hmem =>
          decide_eq_true fun heq => hnew (List.mem_map.2 ⟨r', hmem, heq.trans hr.symm⟩)
        rw [beq_iff_eq.2 hr, List.filter_eq_self.2 hothers, decide_eq_false (not_not.2 hr)]
        rfl
      · rw [beq_false_of_ne hr, decide_eq_true hr, ih hrest]
        rfl

/-- Taking out several entries leaves those of all other errors, in their order. -/
theorem foldl_eraseP {registry : List Registration}
    (hnodup : (registry.map Registration.fault).Nodup) (es : List FaultId) :
    es.foldl (fun registry e => registry.eraseP fun r => r.fault == e) registry =
      registry.filter fun r => r.fault ∉ es := by
  induction es generalizing registry with
  | nil =>
      refine (List.filter_eq_self.2 fun r _ => ?_).symm
      exact decide_eq_true List.not_mem_nil
  | cons e es ih =>
      rw [List.foldl_cons, eraseP_eq_filter hnodup, ih (hnodup.sublist (List.filter_sublist.map _)),
        List.filter_filter]
      refine List.filter_congr fun r _ => ?_
      rw [← Bool.decide_and]
      exact decide_eq_decide.2 (by rw [List.mem_cons, not_or, and_comm])

/-- In a store whose registries are right an error is listed once, so taking out its entries leaves
exactly those of the others. -/
theorem Released.get?_context {o : Holdings} {s' : Store} (h : Released s e s')
    (hregistered : Registered o s) (hfresh : o.fresh = none) (c : ContextId) :
    s'.contexts.get? c = (s.contexts.get? c).map fun context =>
      { context with registry := context.registry.filter fun r => r.fault ∉ s.spent e } := by
  rw [h.contexts, get?_delisted]
  refine Option.map_congr fun context hget => ?_
  have hmembers : s.members c = context.registry.map Registration.fault := members_of_get? hget
  rw [foldl_eraseP (hmembers ▸ hregistered.nodup_members c)]
  refine congrArg (fun registry => { context with registry }) (List.filter_congr fun r hr => ?_)
  -- What is listed here is attached here, so it was taken out here if it was spent.
  have hhome : s.home r.fault = some c :=
    (hregistered.mem_members_iff hfresh).1 (hmembers ▸ List.mem_map_of_mem hr)
  have hsame : r.fault ∈ (((s.spent e).filterMap s.anchor).filter (·.1 = c)).map Prod.snd ↔
      r.fault ∈ s.spent e := by
    constructor
    · intro hmem
      obtain ⟨entry, hentry, heq⟩ := List.mem_map.1 hmem
      obtain ⟨x, hx, hanchor⟩ := List.mem_filterMap.1 (List.mem_filter.1 hentry).1
      obtain ⟨c', -, rfl⟩ := Option.map_eq_some_iff.1 hanchor
      exact heq ▸ hx
    · intro hmem
      have hanchor : s.anchor r.fault = some (c, r.fault) := by rw [anchor, hhome, Option.map_some]
      exact List.mem_map.2 ⟨(c, r.fault), List.mem_filter.2
        ⟨List.mem_filterMap.2 ⟨r.fault, hmem, hanchor⟩, decide_eq_true rfl⟩, rfl⟩
  rw [decide_eq_decide.2 (not_congr hsame)]

end Seen

end Store

namespace Session

/-- Dropping a handle is giving up a reference. -/
theorem perform_dropFault {s : Session} {h : Handle} {e : FaultId} (hrunning : s.aborted = false)
    (hh : s.faults.get? h = some e) :
    (s.perform (.dropFault h)).1 =
      { s with store := s.store.release e, faults := s.faults.erase h } := by
  rw [perform_eq hrunning, act, withFault_of_get? hh]
  rfl

/-- As long as references can be counted, an error on which there is not one reference has more. -/
theorem Balanced.one_lt_refs {s : Session} {lost : List ContextId} (h : s.Balanced lost)
    {x : FaultId} {f : Fault} (hget : s.store.faults.get? x = some f) (hshared : f.refs ≠ 1) :
    1 < f.refs := by
  have hcounted : f.refs.toNat = (s.holdings.references s.store).count x := by
    rw [h.owned.counted hget, UInt32.toNat_ofNat_of_lt' (h.faults x)]
  have hpos : 0 < (s.holdings.references s.store).count x :=
    Multiset.count_pos.2 (h.owned.live.2 ⟨f, hget⟩)
  have hne : f.refs.toNat ≠ 1 := fun heq => hshared (UInt32.toNat_inj.1 heq)
  rw [UInt32.lt_iff_toNat_lt, UInt32.toNat_one]
  omega

/-- **Giving up a handle on an error** over every run.

* The chain of the error has a part at its front on which there is one reference each, up to an
  error on which there is another one, or to the end.  The errors of this part are gone, the error
  after it has one reference less, and no other error is changed.
* The entries of those errors are gone from the registries, and all others stay in their order.
* Backends got back, from the outermost of those errors on, its entry and then what it lived in:
  each document in use or retired, its message, its block.
* The loop comes to the same, one round after the last error is gone. -/
theorem unwinding_of_run (log : Log) (operations : List Operation)
    (hhooks : ∀ operation ∈ operations, operation.isHook = false) (h : Handle) (e : FaultId) :
    let s := ((start log).run operations).1
    let s' := (s.perform (.dropFault h)).1
    s.aborted = false → s.faults.get? h = some e →
    ∃ spent rest, s.store.lineage e = spent ++ rest ∧
      (∀ x ∈ spent, ∃ f, s.store.faults.get? x = some f ∧ f.refs = 1) ∧
      (∀ x ∈ rest.head?, ∃ f, s.store.faults.get? x = some f ∧ f.refs ≠ 1) ∧
      s' = { s with store := s'.store, faults := s.faults.erase h } ∧
      (∀ x, s'.store.faults.get? x =
        if x ∈ spent then none
        else (s.store.faults.get? x).map fun f =>
          if rest.head? = some x then { f with refs := f.refs - 1 } else f) ∧
      (∀ c, s'.store.contexts.get? c = (s.store.contexts.get? c).map fun context =>
        { context with registry := context.registry.filter fun r => r.fault ∉ spent }) ∧
      (∀ b, s'.store.backends.get? b = (s.store.backends.get? b).map fun backend =>
        { backend with history :=
          (((spent.flatMap s.store.estate).filter (·.1 = b)).map (Event.freed ·.2)).reverse ++
            backend.history }) ∧
      s'.store.log = s.store.log ∧
      s'.store = s.store.release e ∧
      (∀ n, spent.length < n → Store.unwind n s.store (some e) = (s'.store, none)) ∧
      (Throughout Fits (start log) operations → (∃ f, s.store.faults.get? e = some f) ∧
        ∀ x ∈ rest.head?, ∃ f, s.store.faults.get? x = some f ∧ 1 < f.refs) := by
  intro s s' hrunning hh
  have hs' : s' = { s with store := s.store.release e, faults := s.faults.erase h } :=
    perform_dropFault hrunning hh
  have hstore : s'.store = s.store.release e := congrArg store hs'
  have hknown : Store.Known s.holdings s.store := known_of_run log operations
  -- What a release leaves is known as a whole; the parts of the statement are read off it.
  have hreleased := Store.released_release hknown.older e
  have hregistered : Store.Registered s.holdings s.store :=
    Store.invariant_registered.run Store.takes_registered Store.blind_registered hhooks
      (registered_start log)
  refine ⟨s.store.spent e, (s.store.lineage e).dropWhile s.store.lone,
    List.takeWhile_append_dropWhile.symm, fun x hx => ?_, fun x hx => ?_, ?_, ?_, ?_, ?_, ?_,
    hstore, fun n hn => ?_, fun hfits => ?_⟩
  · exact Store.refs_of_mem_spent hknown.older hx
  · exact Store.refs_of_spared hknown.older hx
  · rw [hstore]
    exact hs'
  · rw [hstore]
    exact hreleased.faults
  · rw [hstore]
    exact hreleased.get?_context hregistered rfl
  · intro b
    rw [hstore, hreleased.backends]
    exact Store.get?_credited _ _ b
  · rw [hstore]
    exact hreleased.log
  · rw [hstore]
    exact Store.unwind_release hknown.older e n hn
  -- Only here does it matter that the counts are right: a count that is not one is above one.
  · have hbalanced := (balanced_start log).run hhooks hfits
    refine ⟨hbalanced.owned.live.1 (Store.mem_references_of_mem_faults (Arena.mem_values hh)),
      fun x hx => ?_⟩
    obtain ⟨f, hget, hshared⟩ := Store.refs_of_spared hknown.older hx
    exact ⟨f, hget, hbalanced.one_lt_refs hget hshared⟩

/-- A run to try it on.  Two chains through two contexts on two backends end in the same error; one
context has its errors detached. -/
def forkedRun : List Operation :=
  let draft (text : String) : Draft :=
    { domain := .trust, code := .trustViolation, message := .ofText text }
  [.openBackend none, .openBackend none, .createContext { backend := some 0 },
    .createContext { backend := some 1 }, .createFault 0 (draft "expired key") none,
    .createFault 1 (draft "verify") (some 0), .createFault 0 (draft "pull") (some 1),
    .createFault 1 (draft "audit") (some 0), .dropFault 1, .detachRegistry 1]

/-- Dropping the handle on the longer chain takes down what only that chain needs, and the error at
the end stays with one reference less. -/
theorem unwinding_of_forkedRun :
    (∀ operation ∈ forkedRun, operation.isHook = false) ∧
    let s := ((start { filter := .off }).run forkedRun).1
    let s' := (s.perform (.dropFault 2)).1
    s.aborted = false ∧ s.faults.get? 2 = some 2 ∧ s.store.lineage 2 = [2, 1, 0] ∧
    s'.store.faults.get? 2 = none ∧ s'.store.faults.get? 1 = none ∧
    (s'.store.faults.get? 0).map Fault.refs = some 2 ∧
    ∃ spent rest, [2, 1, 0] = spent ++ rest ∧
      (∀ x ∈ spent, ∃ f, s.store.faults.get? x = some f ∧ f.refs = 1) ∧
      (∀ x ∈ rest.head?, ∃ f, s.store.faults.get? x = some f ∧ f.refs ≠ 1) ∧
      ∀ n, spent.length < n → Store.unwind n s.store (some 2) = (s'.store, none) := by
  have hhooks : ∀ operation ∈ forkedRun, operation.isHook = false := by decide
  have hstate : let s := ((start { filter := .off }).run forkedRun).1
      let s' := (s.perform (.dropFault 2)).1
      s.aborted = false ∧ s.faults.get? 2 = some 2 ∧ s.store.lineage 2 = [2, 1, 0] ∧
      s'.store.faults.get? 2 = none ∧ s'.store.faults.get? 1 = none ∧
      (s'.store.faults.get? 0).map Fault.refs = some 2 := by
    decide +kernel
  have hunwinding := unwinding_of_run { filter := .off } forkedRun hhooks 2 2
  refine ⟨hhooks, ?_⟩
  dsimp only at hstate hunwinding ⊢
  generalize ((start { filter := .off }).run forkedRun).1 = s at *
  obtain ⟨hrunning, hh, hlineage, htop, hmiddle, htail⟩ := hstate
  obtain ⟨spent, rest, hsplit, hspent, hrest, -, -, -, -, -, -, hloop, -⟩ :=
    hunwinding hrunning hh
  exact ⟨hrunning, hh, hlineage, htop, hmiddle, htail, spent, rest, hlineage.symm.trans hsplit,
    hspent, hrest, hloop⟩

end Session

end FaultChain

import FaultChain.Proofs.Buffers
import FaultChain.Proofs.Holdings

/-!
# What requests, releases and readings keep

Everything that the library does to a store is made of a few changes.  `Kept I` says of an invariant
`I`, which relates a store to what is held outside it, that each change on the way of a request, a
release or a reading keeps it.  This file follows the code once and concludes that whole requests,
releases and readings keep it (`Kept.requestWith`, `Kept.release`, `Kept.readWith`), so an invariant
never has to be carried through the code again.

### What is load-bearing

A request lets readers in before it is answered, and a reader makes requests.  `Keeps I n visit`
bounds that recursion: it asks of a visitor to keep `I` only where fewer than `n` readers are
waiting.  A reader who is let in is not waiting any more, so the readers whom *he* lets in have one
less to go, and `reader n` keeps what is kept (`Kept.keeps_reader`).

Between the entry of a request and its answer anything may happen that a reader can do.  What it
cannot do is `Follows`: that alone makes the number of the request fresh when it is answered, and
lets a build trust after two requests what it looked up before them.
-/

namespace FaultChain

open Memory (Block Backend Reentry Layout)

namespace Store

/-- An error, if it is there, is attached to a context over a backend. -/
def AttachedOver (s : Store) (e : FaultId) (b : BackendId) : Prop :=
  ∀ f, s.faults.get? e = some f →
    ∃ c context, f.context = some c ∧ s.contexts.get? c = some context ∧ context.backend = b

/-- An invariant that every change on the way of a request, a release or a reading keeps.  The
fields are the changes, each with what is known where it is made, such as that an error that is
destroyed has a count of one. -/
structure Kept (I : Holdings → Store → Prop) : Prop where
  /-- A request enters, and its backend gives up the references that it held for due readers. -/
  enter : ∀ {o : Holdings} {s : Store} {b : BackendId} {backend : Backend}, I o s →
    s.backends.get? b = some backend →
    I (o.holdAll (backend.enter.2.map Reentry.fault)) (s.modifyBackend b fun _ => backend.enter.1)
  /-- A request that entered in an earlier store is answered. -/
  settle : ∀ {o₀ o : Holdings} {s₀ s : Store} {b : BackendId} {backend₀ backend : Backend}
    {layout : Layout}, I o₀ s₀ → s₀.backends.get? b = some backend₀ → I o s →
    s.backends.get? b = some backend →
    backend₀.enter.1.Follows backend →
    I (o.answered b (backend.settle (backend₀.requests + 1) layout).2)
      (s.modifyBackend b fun _ => (backend.settle (backend₀.requests + 1) layout).1)
  free : ∀ {o : Holdings} {s : Store} {b : BackendId} {block : Block}, I (o.own b block) s →
    I o (s.free b block)
  /-- A reference on an error that is gone is given up. -/
  absent : ∀ {o : Holdings} {s : Store} {e : FaultId}, I (o.hold e) s → s.faults.get? e = none →
    I o s
  /-- A reference is given up, and others are left. -/
  lessen : ∀ {o : Holdings} {s : Store} {e : FaultId} {f : Fault}, I (o.hold e) s →
    s.faults.get? e = some f → f.refs ≠ 1 →
    I o (s.modifyFault e fun f => { f with refs := f.refs - 1 })
  /-- The last reference is given up, and the one that the error held on its cause is left over.
  The loop follows only causes that are older than what they explain. -/
  destroy : ∀ {o : Holdings} {s : Store} {e : FaultId} {f : Fault}, I (o.hold e) s →
    s.faults.get? e = some f → f.refs = 1 →
    I (o.holdAll (f.cause.toList.filter (· < e))) ((s.untrackOwn e f).destroy e f)
  evict : ∀ {o : Holdings} {s : Store} (e : FaultId), I o s → I o (s.evict e)
  /-- A document built through the backend of the context is left on an error without one. -/
  install : ∀ {o : Holdings} {s : Store} {e : FaultId} {b : BackendId} {own : Cached},
    I ((o.own b own.node).own b own.text.block) s → e ∈ o.faults → s.AttachedOver e b →
    (∀ f, s.faults.get? e = some f → f.cache = none) → own.node.layout = .cache →
    own.text.Fitted → I o (s.modifyFault e fun f => { f with cache := some own })

/-- A visitor keeps an invariant wherever fewer than `n` readers are waiting. -/
def Keeps (I : Holdings → Store → Prop) (n : Nat) (visit : Visitor) : Prop :=
  ∀ (o : Holdings) (s : Store) (r : Reentry), s.waiting < n → I (o.hold r.fault) s →
    I o (visit r s)

/-- What a visitor may do to a store. -/
def Framed (visit : Visitor) : Prop :=
  ∀ r s, Follows s (visit r s)

section Requests

variable {I : Holdings → Store → Prop} {visit : Visitor} {n : Nat} {o : Holdings} {s : Store}

/-- Due readers are no longer waiting. -/
theorem waiting_enter {b : BackendId} {backend : Backend}
    (hget : s.backends.get? b = some backend) :
    (s.modifyBackend b fun _ => backend.enter.1).waiting + backend.enter.2.length = s.waiting := by
  have hsplit : backend.enter.1.reentries.length + backend.enter.2.length =
      backend.reentries.length := by
    simp only [Backend.enter, List.partition_eq_filter_filter]
    rw [Nat.add_comm]
    exact (List.length_eq_length_filter_add _).symm
  have hmodify := waiting_modifyBackend hget fun _ => backend.enter.1
  omega

/-- The readers who are due, one after another. -/
theorem Keeps.visits (hv : Keeps I n visit) (hf : Framed visit) (due : List Reentry)
    (hwait : s.waiting + due.length ≤ n) (h : I (o.holdAll (due.map Reentry.fault)) s) :
    I o (due.foldl (fun s r => visit r s) s) := by
  induction due generalizing s with
  | nil => exact h
  | cons r due ih =>
      rw [List.length_cons] at hwait
      -- Whom this reader lets in is not waiting any more when the next one comes.
      have hless := (hf r s).waiting
      have hrest : (visit r s).waiting + due.length ≤ n := by omega
      exact ih hrest (hv _ _ _ (by omega) h)

/-- The same of what they leave to others. -/
theorem Framed.visits (hf : Framed visit) (due : List Reentry) (s : Store) :
    Follows s (due.foldl (fun s r => visit r s) s) := by
  induction due generalizing s with
  | nil => exact .refl s
  | cons r due ih => exact (hf r s).trans (ih _)

/-- A request keeps an invariant, and its answer is held. -/
theorem Kept.requestWith (hI : Kept I) (hv : Keeps I n visit) (hf : Framed visit)
    (hwait : s.waiting ≤ n) (h : I o s) (b : BackendId) (layout : Layout) :
    I (o.answered b (s.requestWith visit b layout).2) (s.requestWith visit b layout).1 := by
  unfold Store.requestWith
  cases hget : s.backends.get? b with
  | none => exact h
  | some backend =>
      have hdue := waiting_enter hget
      have hvisited := hv.visits hf backend.enter.2 (Nat.le_trans (Nat.le_of_eq hdue) hwait)
        (hI.enter h hget)
      have hlater := hf.visits backend.enter.2 (s.modifyBackend b fun _ => backend.enter.1)
      dsimp only
      unfold Store.settle
      split
      · exact hvisited
      · next answering hanswering =>
          -- Requests of the readers are answered first, so the backend may be a later one.
          obtain ⟨entered, hentered, hfollows⟩ := hlater.backends hanswering
          rw [modifyBackend, Arena.get?_modify, if_pos rfl, hget, Option.map_some,
            Option.some.injEq] at hentered
          subst hentered
          exact hI.settle h hget hvisited hanswering hfollows

/-- So does a request for a buffer, which is one for its layout. -/
theorem Kept.requestBufferWith (hI : Kept I) (hv : Keeps I n visit) (hf : Framed visit)
    (hwait : s.waiting ≤ n) (h : I o s) (b : BackendId) (length : Nat) :
    I (o.answered b ((s.requestBufferWith visit b length).2.map (·.block)))
      (s.requestBufferWith visit b length).1 := by
  unfold Store.requestBufferWith
  cases Layout.buffer? length with
  | none => exact h
  | some layout =>
      have hrequest := hI.requestWith hv hf hwait h b layout
      dsimp only
      rcases hanswer : s.requestWith visit b layout with ⟨s', _ | block⟩ <;>
        rw [hanswer] at hrequest <;> exact hrequest

/-- And one for a copy, which is a buffer that is then filled. -/
theorem Kept.requestCopyWith (hI : Kept I) (hv : Keeps I n visit) (hf : Framed visit)
    (hwait : s.waiting ≤ n) (h : I o s) (b : BackendId) (bytes : ByteArray) :
    I (o.answered b ((s.requestCopyWith visit b bytes).2.map (·.block)))
      (s.requestCopyWith visit b bytes).1 := by
  have hrequest := hI.requestBufferWith hv hf hwait h b bytes.size
  unfold Store.requestCopyWith
  rcases hanswer : s.requestBufferWith visit b bytes.size with ⟨s', _ | buffer⟩ <;>
    rw [hanswer] at hrequest <;> exact hrequest

end Requests

/-! ## What a request hands out

The layout of the block and the bytes of the buffer, which whoever asked for them needs to know.
-/

section Answers

variable {visit : Visitor} {s s' : Store} {b : BackendId}

/-- A block has the layout that was asked for. -/
theorem layout_of_requestWith {layout : Layout} {block : Block}
    (h : s.requestWith visit b layout = (s', some block)) : block.layout = layout := by
  unfold Store.requestWith at h
  split at h
  · cases h
  · unfold Store.settle at h
    dsimp only at h
    split at h
    · cases h
    · unfold Backend.settle at h
      split at h
      · cases h
      · cases h
        rfl

/-- A buffer is blank, with the capacity for its content and a terminator. -/
theorem room_of_requestBufferWith {length : Nat} {buffer : Memory.Buffer}
    (h : s.requestBufferWith visit b length = (s', some buffer)) :
    length + 1 ≤ Layout.greatestSize := by
  unfold Store.requestBufferWith at h
  split at h
  · cases h
  · next layout hlayout => exact (Layout.buffer?_eq_some_iff.1 hlayout).1

/-- It is a blank buffer, of the size of its block. -/
theorem blank_of_requestBufferWith {length : Nat} {buffer : Memory.Buffer}
    (h : s.requestBufferWith visit b length = (s', some buffer)) :
    buffer = .zeroed buffer.block length ∧ buffer.Fitted := by
  unfold Store.requestBufferWith at h
  split at h
  · cases h
  · next layout hlayout =>
      split at h
      · cases h
      · next block hrequest =>
          cases h
          have hblock := layout_of_requestWith hrequest
          have hsize := (Layout.buffer?_eq_some_iff.1 hlayout).2
          exact ⟨rfl, Memory.Buffer.fitted_zeroed (hblock.trans hsize)⟩

/-- The block of a buffer is as long as it was asked for. -/
theorem layout_of_requestBufferWith {length : Nat} {buffer : Memory.Buffer}
    (h : s.requestBufferWith visit b length = (s', some buffer)) :
    length + 1 ≤ Layout.greatestSize ∧
      buffer.block.layout = { size := length + 1, align := 1 } := by
  unfold Store.requestBufferWith at h
  split at h
  · cases h
  next layout hlayout =>
  obtain ⟨hsize, rfl⟩ := Layout.buffer?_eq_some_iff.1 hlayout
  split at h
  · cases h
  next block hrequest =>
  cases h
  exact ⟨hsize, layout_of_requestWith hrequest⟩

end Answers

/-! ## Releases

The recursion of a release is followed here once.  The reference that is given up is held by the
operation at every step, first on the error itself and then on its cause.
-/

/-- A release gives up a reference that is held.  It is followed along the causes, as long as each
is the last reference on the next. -/
theorem Kept.release {I : Holdings → Store → Prop} (hI : Kept I) {o : Holdings} {s : Store}
    {e : FaultId} (h : I (o.hold e) s) : I o (s.release e) := by
  induction e using Nat.strongRecOn generalizing s with
  | _ e ih =>
      unfold Store.release
      split
      · next hget => exact hI.absent h hget
      · next f hget =>
          split
          · next hlast =>
              -- The release goes on to an older cause only, and that is all that is left over.
              have hrest := hI.destroy h hget hlast
              cases hcause : f.cause with
              | none =>
                  rw [hcause] at hrest
                  exact hrest
              | some cause =>
                  rw [hcause, Option.toList_some, List.filter_singleton] at hrest
                  by_cases older : cause < e
                  · rw [decide_eq_true older] at hrest
                    dsimp only
                    rw [if_pos older]
                    exact ih cause older hrest
                  · rw [decide_eq_false older] at hrest
                    dsimp only
                    rw [if_neg older]
                    exact hrest
          · next hlast => exact hI.lessen h hget hlast

end Store

end FaultChain

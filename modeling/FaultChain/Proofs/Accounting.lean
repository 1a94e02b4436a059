import FaultChain.Proofs.Handles
import FaultChain.Proofs.Ledger
import FaultChain.Proofs.Registration
import FaultChain.Proofs.Shapes

/-!
# The statistics of a backend

What a backend counts is what its user can add up.  `Ledger` says who owns each outstanding block,
and `Shaped` how large it is; weighing the blocks of a backend by one and by their bytes gives its
allocations less its frees, and the bytes that it has handed out (`accounting_of_run`).  Where
nothing is held any more and no context was lost, nothing is owned, so as many blocks came back as
were handed out (`blocksOf_eq_zero`).

### What is load-bearing

A statistic is a number, and a number is kept by no change; blocks are.  So nothing is said about
sums until the very end: the history of a backend says which blocks are outstanding, the ledger says
that these are the blocks with an owner, and only then both sides are weighed.  Weighing by one
counts them and weighing by their size adds up their bytes, so there is one argument for the two
statistics (`Accounted.sum_outstanding`).

That bytes come out as capacities is a matter of shape.  A buffer goes back with the size that it
came with (`Fitted`), and blocks that are not buffers are not counted in bytes at all.
-/

namespace FaultChain

open Memory (Block Backend)

/-! ## Weighing blocks

The blocks of one backend are picked out of all of them before they are weighed, as every backend
has a tally of its own.  A weight is any number for each block; that the same sum comes out on both
sides does not depend on which.
-/

/-- What the blocks of one backend weigh together. -/
def weight (b : BackendId) (w : Block → Nat) (blocks : Multiset (BackendId × Block)) : Nat :=
  ((blocks.filter (·.1 = b)).map fun entry => w entry.2).sum

section Weights

variable {α : Type} (b : BackendId) (w : Block → Nat)

/-- Two collections weigh what they weigh apart. -/
theorem weight_add (m m' : Multiset (BackendId × Block)) :
    weight b w (m + m') = weight b w m + weight b w m' := by
  rw [weight, Multiset.filter_add, Multiset.map_add, Multiset.sum_add]
  rfl

/-- Blocks that are owned one each. -/
theorem weight_map (m : Multiset α) (home : α → BackendId) (block : α → Block) :
    weight b w (m.map fun x => (home x, block x)) =
      ((m.filter fun x => home x = b).map fun x => w (block x)).sum := by
  rw [weight, Multiset.filter_map, Multiset.map_map]
  rfl

/-- Blocks that are owned together. -/
theorem weight_bind (m : Multiset α) (home : α → BackendId) (blocks : α → List Block) :
    weight b w (m.bind fun x => ((blocks x).map (home x, ·) : List (BackendId × Block))) =
      ((m.filter fun x => home x = b).map fun x => ((blocks x).map w).sum).sum := by
  induction m using Multiset.induction_on with
  | empty => rfl
  | cons x m ih =>
      have hself : weight b w ((blocks x).map (home x, ·) : List (BackendId × Block)) =
          if home x = b then ((blocks x).map w).sum else 0 := by
        rw [← Multiset.map_coe, weight_map]
        split
        · next hhome => rw [Multiset.filter_eq_self.2 fun _ _ => hhome]; rfl
        · next hhome => rw [Multiset.filter_eq_nil.2 fun _ _ => hhome]; rfl
      rw [Multiset.cons_bind, weight_add, ih, hself, Multiset.filter_cons, Multiset.map_add,
        Multiset.sum_add]
      split <;> rfl

end Weights

namespace Store

variable {o : Holdings} {s : Store}

/-- The outstanding blocks of a backend are those that somebody owns. -/
theorem Accounted.coe_outstanding (h : Accounted o s) (b : BackendId) :
    (s.outstanding b : Multiset Block) =
      ((s.owned + o.blocks).filter (·.1 = b)).map Prod.snd := by
  refine Multiset.ext.2 fun block => ?_
  rw [Multiset.coe_count, h.balance, Multiset.count_map, Multiset.filter_filter,
    Multiset.count_eq_card_filter_eq]
  congr 1
  refine Multiset.filter_congr fun entry _ => ?_
  rw [eq_comm, Prod.ext_iff, and_comm, eq_comm (a := block)]

/-- So any weight of the outstanding blocks can be found with their owners. -/
theorem Accounted.sum_outstanding (h : Accounted o s) (b : BackendId) (w : Block → Nat) :
    ((s.outstanding b).map w).sum = weight b w s.owned + weight b w o.blocks := by
  rw [← weight_add, weight, ← Multiset.sum_coe, ← Multiset.map_coe, h.coe_outstanding,
    Multiset.map_map]
  rfl

/-- The blocks with an owner are those of contexts and those of errors. -/
theorem weight_owned (s : Store) (b : BackendId) (w : Block → Nat) :
    weight b w s.owned =
      ((s.contexts.values.filter fun x => x.backend = b).map fun x => (x.blocks.map w).sum).sum +
        ((s.faults.values.filter fun f => f.backend = b).map fun f =>
          (f.blocks.map w).sum).sum := by
  rw [owned, weight_add]
  exact congrArg₂ (· + ·) (weight_bind b w _ _ _) (weight_bind b w _ _ _)

end Store

/-! ## What a user can add up

Numbers of blocks and of bytes that are read off the contexts, the errors and what is held, without
looking at any backend.  The sizes come from `Shaped`, which is kept apart from the ledger: it does
not matter who owns a text for how large it is.
-/

/-- One block for a context until it is destroyed, and one for each entry of its registry. -/
def Context.blockCount (context : Context) : Nat :=
  (if context.valid then 1 else 0) + context.live

/-- Two blocks for an error, and two for each of its documents. -/
def Fault.blockCount (f : Fault) : Nat :=
  2 + 2 * f.documents.length

/-- The bytes of an error: what its message and its documents can hold. -/
def Fault.byteCount (f : Fault) : Nat :=
  f.message.capacity + (f.documents.map fun cached => cached.text.capacity).sum

/-- The blocks of a context are as many as a user counts. -/
theorem Context.length_blocks (context : Context) :
    context.blocks.length = context.blockCount := by
  rw [blocks, List.length_append, List.length_map, blockCount, live]
  split <;> rfl

/-- And so are those of an error. -/
theorem Fault.length_blocks (f : Fault) : f.blocks.length = f.blockCount := by
  have hdocuments : (f.documents.flatMap Cached.blocks).length = 2 * f.documents.length := by
    induction f.documents with
    | nil => rfl
    | cons cached rest ih =>
        rw [List.flatMap_cons, List.length_append, ih, List.length_cons]
        show 2 + _ = _
        omega
  rw [blocks, List.length_append, hdocuments, blockCount]
  exact Nat.add_comm _ _

/-- A text holds as many bytes as its capacity. -/
theorem Memory.Buffer.Fitted.bytes_block {buffer : Memory.Buffer} (h : buffer.Fitted) :
    buffer.block.bytes = buffer.capacity := by
  rw [Memory.Block.bytes, h]
  rfl

/-- A context and its entries are no blocks of bytes. -/
theorem Context.Shaped.sum_bytes {context : Context} (h : context.Shaped) :
    (context.blocks.map Memory.Block.bytes).sum = 0 := by
  refine List.sum_eq_zero fun n hn => ?_
  obtain ⟨block, hblock, rfl⟩ := List.mem_map.1 hn
  unfold Context.blocks at hblock
  rcases List.mem_append.1 hblock with hblock | hblock
  · split at hblock
    · rw [List.mem_singleton.1 hblock, Memory.Block.bytes, h.block]
      rfl
    · cases hblock
  · obtain ⟨r, hr, rfl⟩ := List.mem_map.1 hblock
    rw [Memory.Block.bytes, h.registry r hr]
    rfl

/-- An error has the bytes of its texts. -/
theorem Fault.Shaped.sum_bytes {f : Fault} (h : f.Shaped) :
    (f.blocks.map Memory.Block.bytes).sum = f.byteCount := by
  have hdocuments : ∀ documents : List Cached, (∀ cached ∈ documents, cached.Shaped) →
      ((documents.flatMap Cached.blocks).map Memory.Block.bytes).sum =
        (documents.map fun cached => cached.text.capacity).sum := by
    intro documents
    induction documents with
    | nil => exact fun _ => rfl
    | cons cached rest ih =>
        intro hshaped
        obtain ⟨hnode, htext⟩ := hshaped cached List.mem_cons_self
        have hrecord : cached.node.bytes = 0 := by
          rw [Memory.Block.bytes, hnode]
          rfl
        rw [List.flatMap_cons, List.map_append, List.sum_append,
          ih fun cached hmem => hshaped cached (List.mem_cons_of_mem _ hmem), List.map_cons,
          List.sum_cons]
        show cached.text.block.bytes + (cached.node.bytes + 0) + _ = _
        rw [htext.bytes_block, hrecord]
        rfl
  have hrecord : f.block.bytes = 0 := by
    rw [Memory.Block.bytes, h.block]
    rfl
  rw [Fault.blocks, List.map_append, List.sum_append, hdocuments _ h.documents]
  show _ + (f.message.block.bytes + (f.block.bytes + 0)) = _
  rw [h.message.bytes_block, hrecord, Fault.byteCount]
  omega

namespace Session

/-- The blocks that a user sees of a backend: those of the contexts and errors over it, of the
copies made through it, and those on loan from it. -/
def blocksOf (s : Session) (b : BackendId) : Nat :=
  ((s.store.contexts.values.filter fun x => x.backend = b).map Context.blockCount).sum +
    ((s.store.faults.values.filter fun f => f.backend = b).map Fault.blockCount).sum +
    (s.copies.values.filter fun copy => copy.backend = b).card +
    (s.loans.values.filter fun loan => loan.backend = b).card

/-- The bytes that a user sees of a backend: the capacities of all texts, and the blocks of bytes on
loan. -/
def bytesOf (s : Session) (b : BackendId) : Nat :=
  ((s.store.faults.values.filter fun f => f.backend = b).map Fault.byteCount).sum +
    ((s.copies.values.filter fun copy => copy.backend = b).map fun copy =>
      copy.buffer.capacity).sum +
    ((s.loans.values.filter fun loan => loan.backend = b).map fun loan => loan.block.bytes).sum

section Totals

variable {s : Session} {b : BackendId}

/-- What a user holds himself are copies, and blocks on loan. -/
theorem weight_holdings (s : Session) (b : BackendId) (w : Block → Nat) :
    weight b w s.holdings.blocks =
      ((s.copies.values.filter fun copy => copy.backend = b).map fun copy =>
        w copy.buffer.block).sum +
        ((s.loans.values.filter fun loan => loan.backend = b).map
          fun loan => w loan.block).sum := by
  rw [holdings, weight_add]
  exact congrArg₂ (· + ·) (weight_map b w _ _ _) (weight_map b w _ _ _)

/-- A user sees every outstanding block. -/
theorem length_outstanding (h : s.store.Accounted s.holdings) (b : BackendId) :
    (s.store.outstanding b).length = s.blocksOf b := by
  have hsum := h.sum_outstanding b fun _ => 1
  simp only [Store.weight_owned, weight_holdings, List.map_const', List.sum_replicate_nat,
    Nat.mul_one, Context.length_blocks, Fault.length_blocks, Multiset.map_const',
    Multiset.sum_replicate, nsmul_one, Nat.cast_id] at hsum
  exact hsum.trans (Nat.add_assoc _ _ _).symm

/-- A user sees every outstanding byte. -/
theorem bytes_outstanding (h : s.store.Accounted s.holdings) (hshaped : s.store.Shaped)
    (hfitted : s.Fitted) (b : BackendId) :
    ((s.store.outstanding b).map Memory.Block.bytes).sum = s.bytesOf b := by
  rw [h.sum_outstanding, Store.weight_owned, weight_holdings, bytesOf]
  have hcontexts : ((s.store.contexts.values.filter fun x => x.backend = b).map fun x =>
      (x.blocks.map Memory.Block.bytes).sum).sum = 0 := by
    refine Multiset.sum_eq_zero fun n hn => ?_
    obtain ⟨x, hx, rfl⟩ := Multiset.mem_map.1 hn
    obtain ⟨c, hget⟩ := Arena.mem_values_iff.1 (Multiset.mem_of_mem_filter hx)
    exact (hshaped.contexts c x hget).sum_bytes
  have hfaults : ((s.store.faults.values.filter fun f => f.backend = b).map fun f =>
      (f.blocks.map Memory.Block.bytes).sum) =
      (s.store.faults.values.filter fun f => f.backend = b).map Fault.byteCount := by
    refine Multiset.map_congr rfl fun f hf => ?_
    obtain ⟨e, hget⟩ := Arena.mem_values_iff.1 (Multiset.mem_of_mem_filter hf)
    exact (hshaped.faults e f hget).sum_bytes
  have hcopies : ((s.copies.values.filter fun copy => copy.backend = b).map fun copy =>
      copy.buffer.block.bytes) =
      (s.copies.values.filter fun copy => copy.backend = b).map fun copy =>
        copy.buffer.capacity :=
    Multiset.map_congr rfl fun copy hcopy =>
      (hfitted copy (Multiset.mem_of_mem_filter hcopy)).bytes_block
  rw [hcontexts, hfaults, hcopies, Nat.zero_add, Nat.add_assoc]

end Totals

/-! ## Runs

The ledger and the shapes are kept by every run that does not run out of references and gives loans
back where they came from; both were shown before, and are put together here.
-/

section Runs

variable {s : Session} {operations : List Operation}

/-- The ledger is right after a run. -/
theorem ledger_run (h : Store.Ledger (fun _ => 2 ^ 32) s.holdings s.store)
    (hhooks : ∀ operation ∈ operations, operation.isHook = false)
    (hfits : Throughout Fits s operations) (hreturns : Throughout Returns s operations) :
    Store.Ledger (fun _ => 2 ^ 32) (s.run operations).1.holdings (s.run operations).1.store := by
  induction operations generalizing s with
  | nil => exact h
  | cons operation rest ih =>
      refine ih ?_ (fun operation hmem => hhooks operation (List.mem_cons_of_mem _ hmem)) hfits.2
        hreturns.2
      exact perform_of_room Store.invariant_ledger Store.takes_ledger
        (fun h => h.owned.within) Store.Ledger.mono (hhooks operation List.mem_cons_self)
        hfits.1.room (.inl hreturns.1) h

/-- It is right at the start, where there is nothing. -/
theorem ledger_start (log : Log) :
    Store.Ledger (fun _ => 2 ^ 32) (start log).holdings (start log).store where
  owned := (balanced_start log).owned
  homed e f c hget := by
    rw [start, Arena.get?_empty] at hget
    cases hget
  accounted :=
    { balance := fun b block => by
        rw [Store.outstanding, start, Arena.get?_empty]
        rfl
      orderly := fun hget => by
        rw [start, Arena.get?_empty] at hget
        cases hget }

/-- Nor has anything a wrong size there. -/
theorem shaped_start (log : Log) : (start log).store.Shaped where
  faults e f hget := by
    rw [start, Arena.get?_empty] at hget
    cases hget
  contexts c context hget := by
    rw [start, Arena.get?_empty] at hget
    cases hget

/-- Where nothing is held and no context was lost, no error is left, and no context is valid or
registers anything. -/
theorem blocksOf_eq_zero {lost : List ContextId} (hbalanced : s.Balanced lost)
    (hregistered : s.store.Registered s.holdings) (hrunning : s.aborted = false)
    (hlost : lost = []) (hcontexts : s.contexts.values = 0) (hfaults : s.faults.values = 0)
    (hpending : s.store.pending = 0) (hcopies : s.copies.values = 0) (hloans : s.loans.values = 0)
    (b : BackendId) : s.blocksOf b = 0 := by
  -- An error that is there could be reached from a handle or a reader, and there are none.
  have hnofault : s.store.faults.values = 0 := by
    refine Multiset.eq_zero_of_forall_notMem fun f hf => ?_
    obtain ⟨e, hget⟩ := Arena.mem_values_iff.1 hf
    obtain ⟨root, hroot, -⟩ := (hbalanced.owned.live_iff_reachable rfl).1 ⟨f, hget⟩
    change root ∈ s.faults.values ∨ _ at hroot
    rw [hfaults, hpending] at hroot
    rcases hroot with hroot | hroot <;> cases hroot
  have hnocontext : ∀ x ∈ s.store.contexts.values, x.blockCount = 0 := by
    intro x hx
    obtain ⟨c, hget⟩ := Arena.mem_values_iff.1 hx
    have hinvalid : x.valid = false := by
      refine Bool.eq_false_iff.2 fun hvalid => ?_
      have hcounted := (hbalanced.counted hrunning).counted hget hvalid
      rw [hlost, if_neg List.not_mem_nil, hcontexts] at hcounted
      exact absurd hcounted.2 (Nat.lt_irrefl 0)
    have hempty : x.registry = [] := by
      cases hregistry : x.registry with
      | nil => rfl
      | cons r rest =>
          have hmem : r.fault ∈ s.store.members c := by
            rw [Store.members_of_get? hget, hregistry]
            exact List.mem_cons_self
          exact absurd ((hregistered.valid hget hmem).symm.trans hinvalid) Bool.noConfusion
    rw [Context.blockCount, hinvalid, Context.live, hempty]
    rfl
  have hsum : ((s.store.contexts.values.filter fun x => x.backend = b).map
      Context.blockCount).sum = 0 := by
    refine Multiset.sum_eq_zero fun n hn => ?_
    obtain ⟨x, hx, rfl⟩ := Multiset.mem_map.1 hn
    exact hnocontext x (Multiset.mem_of_mem_filter hx)
  rw [blocksOf, hsum, hnofault, hcopies, hloans]
  rfl

/-- **The statistics of a backend add up** after every run that gives loans back where they came
from and does not run out of references: what was handed out is what came back and what a user sees,
in blocks and in bytes; nothing came back that was not handed out as it came, or twice; records and
texts still fit their blocks; and where nothing is held and nothing was lost, everything came
back. -/
theorem accounting_of_run (log : Log) (operations : List Operation)
    (hhooks : ∀ operation ∈ operations, operation.isHook = false)
    (hfits : Throughout Fits (start log) operations)
    (hreturns : Throughout Returns (start log) operations) :
    let s := ((start log).run operations).1
    (s.store.Shaped ∧ s.Fitted) ∧
    ∀ b backend, s.store.backends.get? b = some backend →
      Memory.Honest backend.history ∧
      backend.tally.allocs = backend.tally.frees + s.blocksOf b ∧
      backend.tally.bufferBytes = s.bytesOf b ∧
      (s.aborted = false → (start log).lost operations = [] → s.contexts.values = 0 →
        s.faults.values = 0 → s.store.pending = 0 → s.copies.values = 0 → s.loans.values = 0 →
        backend.tally.allocs = backend.tally.frees) := by
  intro s
  have hledger : Store.Ledger (fun _ => 2 ^ 32) s.holdings s.store :=
    ledger_run (ledger_start log) hhooks hfits hreturns
  have hshaped : s.store.Shaped :=
    Store.invariant_shaped.run Store.takes_shaped Store.blind_shaped hhooks (shaped_start log)
  have hfitted : s.Fitted := Fitted.run (fun copy hmem => by cases hmem) operations
  have hbalanced : s.Balanced ((start log).lost operations) :=
    (balanced_start log).run hhooks hfits
  have hregistered : s.store.Registered s.holdings :=
    Store.invariant_registered.run Store.takes_registered Store.blind_registered hhooks
      (registered_start log)
  refine ⟨⟨hshaped, hfitted⟩, fun b backend hget => ?_⟩
  -- What is outstanding is read off the history, and is what the ledger and the user add up.
  have hhonest := (hledger.accounted.orderly hget).honest
  have hout : s.store.outstanding b = Memory.outstanding backend.history := by
    rw [Store.outstanding, hget]
    rfl
  have hallocs : backend.tally.allocs = backend.tally.frees + s.blocksOf b := by
    rw [← length_outstanding hledger.accounted, hout]
    exact hhonest.allocs_eq
  refine ⟨hhonest, hallocs, ?_, fun hrunning hlost hcontexts hfaults hpending hcopies hloans => ?_⟩
  · rw [← bytes_outstanding hledger.accounted hshaped hfitted, hout]
    exact hhonest.bufferBytes_eq
  · rw [hallocs, blocksOf_eq_zero hbalanced hregistered hrunning hlost hcontexts hfaults hpending
      hcopies hloans, Nat.add_zero]

/-- A run with every kind of block, which ends with nothing outstanding. -/
theorem accounting_of_sampleRun :
    (∀ operation ∈ sampleRun, operation.isHook = false) ∧
    Throughout Fits (start { filter := .off }) sampleRun ∧
    Throughout Returns (start { filter := .off }) sampleRun ∧
    (let s := ((start { filter := .off }).run sampleRun).1
    (s.store.Shaped ∧ s.Fitted) ∧
    ∀ b backend, s.store.backends.get? b = some backend →
      Memory.Honest backend.history ∧
      backend.tally.allocs = backend.tally.frees + s.blocksOf b ∧
      backend.tally.bufferBytes = s.bytesOf b ∧
      (s.aborted = false → (start { filter := .off }).lost sampleRun = [] →
        s.contexts.values = 0 → s.faults.values = 0 → s.store.pending = 0 →
        s.copies.values = 0 → s.loans.values = 0 →
        backend.tally.allocs = backend.tally.frees)) := by
  have hhooks : ∀ operation ∈ sampleRun, operation.isHook = false := by decide
  have hscant : Throughout Scant (start { filter := .off }) sampleRun := by decide +kernel
  have hfits := hscant.mono fun _ _ => Scant.fits
  have hreturns : Throughout Returns (start { filter := .off }) sampleRun := by decide +kernel
  exact ⟨hhooks, hfits, hreturns,
    accounting_of_run { filter := .off } sampleRun hhooks hfits hreturns⟩

end Runs

end Session

end FaultChain

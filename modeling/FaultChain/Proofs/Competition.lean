import FaultChain.Proofs.Coherence
import FaultChain.Proofs.Contests

/-!
# One document wins

A backend that lets readers of an error in while another reader renders its document has them
compete.  If no request is refused, one document comes of the whole nest, whoever rendered it, and
every reader returns it (`one_winner_of_run`).  If requests are refused, a reader who is refused one
gives up without looking whether there is a document by now, and so does one whose two passes do not
fit together; all others return the one that is in use when they are done (`shown_of_run`).

What a nest does to the error and its backend is the theory of `FaultChain.Proofs.Contests`.  Here
it is met with what runs keep: the references on an error are as many as its count says, so there is
one more than there are readers waiting, and histories are honest, so no block comes back twice.

### What a nest does not settle by itself

The theory of contests asks for three things at its start, and all of them are invariants of runs.

* **Nobody runs out of references.** Each reader who waits has a reference of its own, and the
  reading is through a handle, which is one more (`Balanced.spare`).  This uses that counts are
  right, and counts are right as long as they do not wrap around, which is what `Fits` is for.
* **The error can be rendered.** It is attached to a context that is valid and has its backend, and
  its chain is there (`Balanced.contested`).  This uses that registries and links agree.
* **Blocks are told apart.** That what was handed out and what came back differ by the blocks of one
  document is an equation of multisets.  That these blocks are different is because an honest
  backend hands out a block once (`Honest.nodup_handedOut`).

### Where a reading gives up

A build that is refused a request returns a placeholder without a look at the error, although a
reader that came in with that request may have left a document.  `hidden_of_hiddenRun` is such a
run.  The law says so instead of excluding it: it states for every call of a nest which of its own
requests was refused, and leaves open what is on the error then.  The other way to give up needs two
passes that differ, and is described with the same openness.
-/

namespace FaultChain

open Memory (Block Backend Reentry Event Layout handedOut cameBack handedOut_append)

namespace Memory

/-! ## Blocks of honest histories

In an honest history a block is granted once, so that what was handed out can be counted by blocks
and not only by events.
-/

/-- A block was handed out if its request was granted. -/
theorem mem_handedOut_iff {events : List Event} {block : Block} :
    block ∈ handedOut events ↔ .granted block ∈ events := by
  induction events with
  | nil => exact iff_of_false (Multiset.notMem_zero block) List.not_mem_nil
  | cons event events ih =>
      cases event with
      | granted other =>
          rw [handedOut, Multiset.mem_add, Multiset.mem_singleton, ih, List.mem_cons]
          exact or_congr_left ⟨fun heq => heq ▸ rfl, fun heq => Event.granted.inj heq⟩
      | refused serial layout =>
          have hne : Event.granted block ≠ .refused serial layout := by rintro ⟨⟩
          rw [handedOut, ih, List.mem_cons, or_iff_right hne]
      | freed other =>
          have hne : Event.granted block ≠ .freed other := by rintro ⟨⟩
          rw [handedOut, ih, List.mem_cons, or_iff_right hne]

/-- An honest backend hands out every block once. -/
theorem Honest.nodup_handedOut {history : List Event} (h : Honest history) :
    (handedOut history).Nodup := by
  induction history with
  | nil => exact Multiset.nodup_zero
  | cons event rest ih =>
      cases event with
      | granted block =>
          refine Multiset.nodup_cons.2 ⟨fun hmem => ?_, ih h.2⟩
          exact h.1 block (mem_handedOut_iff.1 hmem) rfl
      | refused serial layout => exact ih h
      | freed block => exact ih h.2

end Memory

/-! ## Documents have blocks of their own

Two documents of an error live in different blocks, because no block has two owners.  So no two of
them are equal, whatever texts they show.
-/

namespace Store

section Blocks

variable {o : Holdings} {s : Store}

/-- No document of an error is there twice. -/
theorem Accounted.nodup_documents (h : Accounted o s) {e : FaultId} {f : Fault}
    (hget : s.faults.get? e = some f) : f.documents.Nodup := by
  have howned : f.owned ≤ s.owned + o.blocks :=
    le_trans (Multiset.le_bind _ (Arena.mem_values hget))
      (le_trans (Multiset.le_add_left _ _) (Multiset.le_add_right _ _))
  have hblocks : f.blocks.Nodup :=
    (Multiset.coe_nodup.1 (Multiset.nodup_of_le howned h.nodup_owned)).of_map
  refine (List.nodup_flatMap.1 (List.nodup_append.1 hblocks).1).2.imp fun hdisjoint heq => ?_
  rw [heq] at hdisjoint
  exact hdisjoint List.mem_cons_self List.mem_cons_self

end Blocks

end Store

/-! ## Competitions in a session

A contest asks for an error with references to spare, over a backend that is there.  A session has
both, after every run: the handle that is read through is the reference that is left when all
readers are done, and the context of an attached error is valid.
-/

namespace Session

section Competing

variable {s : Session} {lost : List ContextId} {h : Handle} {e : FaultId} {f : Fault}
  {c : ContextId}

/-- An error that is held has one reference more than there are readers waiting for it.  The handle
is that one; the others are held for the readers, by the same backend. -/
theorem Balanced.spare (hs : s.Balanced lost) (hh : s.faults.get? h = some e)
    (hget : s.store.faults.get? e = some f) {b : BackendId} {backend : Backend}
    (hbackend : s.store.backends.get? b = some backend) :
    Stage.Spare { backend, fault := f } e 0 := by
  have hheld : 0 < s.faults.values.count e := Multiset.count_pos.2 (Arena.mem_values hh)
  have hwaiting : (backend.reentries.map Reentry.fault).count e ≤ s.store.pending.count e := by
    rw [← Multiset.coe_count]
    exact Multiset.count_le_of_le e (Multiset.le_bind _ (Arena.mem_values hbackend))
  have hrefs : f.refs.toNat = (s.holdings.references s.store).count e := by
    rw [hs.owned.counted hget, UInt32.toNat_ofNat_of_lt' (hs.faults e)]
  have hcount : (s.holdings.references s.store).count e =
      s.faults.values.count e + 0 + s.store.pending.count e + s.store.causes.count e := by
    rw [Holdings.references, Multiset.count_add, Multiset.count_add, Multiset.count_add]
    rfl
  rw [Stage.Spare]
  dsimp only
  omega

/-- **An attached error that is held can be competed for.** Everything that the theory of contests
asks for is among what runs keep, but the length of the document, which is what is asked of the run
here. -/
theorem Balanced.contested (hs : s.Balanced lost)
    (hledger : Store.Ledger (fun _ => 2 ^ 32) s.holdings s.store)
    (hregistered : s.store.Registered s.holdings) (hh : s.faults.get? h = some e)
    (hget : s.store.faults.get? e = some f) (hlink : f.context = some c)
    {passes : Document.Passes} (hshort : s.Short (.read h passes)) :
    ∃ context backend chain, s.store.contexts.get? c = some context ∧
      context.shownGeneration = context.generation ∧
      s.store.backends.get? context.backend = some backend ∧
      s.store.Contested e f context chain ∧ Stage.Spare { backend, fault := f } e 0 := by
  obtain ⟨context, backend, hcontext, hvalid, hbackend⟩ :=
    hregistered.context_of_attached rfl hledger.accounted hget hlink
  obtain ⟨chain, hchain⟩ := Store.exists_chain? hget
  have hgreatest : Layout.greatestSize = 2 ^ 63 - 1 := by decide
  have hroom := hshort h rfl e hh chain hchain
  refine ⟨context, backend, chain, hcontext, if_pos hvalid, hbackend, ?_, hs.spare hh hget hbackend⟩
  exact
    { found := hget
      attached := by rw [hlink, Option.bind_some, hcontext]
      backed := ⟨backend, hbackend⟩
      told := hchain
      short := fun reservation => by
        have hle := Document.size_document_le reservation chain
        omega }

/-- Reading keeps the ledger, so the store after a nest can be asked the same as the one before
it. -/
theorem ledger_read (hledger : Store.Ledger (fun _ => 2 ^ 32) s.holdings s.store)
    (passes : Document.Passes) :
    Store.Ledger (fun _ => 2 ^ 32) (s.perform (.read h passes)).1.holdings
      (s.perform (.read h passes)).1.store := by
  refine perform_of_room Store.invariant_ledger Store.takes_ledger (fun h => h.owned.within)
    Store.Ledger.mono rfl (fun e => ?_) (.inl nofun) hledger
  exact hledger.owned.within e

end Competing

/-- After a run, what there is to say of a reading of an attached error, if all the readers who come
of it read the same error: whatever is true of the texts that their passes come to is true of the
documents that they leave. -/
theorem contest_of_run (log : Log) (operations : List Operation)
    (hhooks : ∀ operation ∈ operations, operation.isHook = false)
    (hfits : Throughout Fits (start log) operations)
    (hreturns : Throughout Returns (start log) operations) :
    let s := ((start log).run operations).1
    Store.Ledger (fun _ => 2 ^ 32) s.holdings s.store ∧
    ∀ h e f c passes, s.faults.get? h = some e → s.store.faults.get? e = some f →
      f.context = some c → s.Short (.read h passes) →
    ∃ context backend chain, s.store.contexts.get? c = some context ∧
      s.store.backends.get? context.backend = some backend ∧ s.store.chain? e = some chain ∧
      s.store.Contested e f context chain ∧
      ∀ told, (∀ call ∈ s.store.calls e passes, call.Tells e chain told) →
        s.store.Yields context.backend e chain context.generation told
          (Stage.Verdict chain passes context.generation { backend, fault := f })
          { backend, fault := f } 0 (s.store.calls e passes) (s.store.read e passes) := by
  intro s
  have hledger : Store.Ledger (fun _ => 2 ^ 32) s.holdings s.store :=
    ledger_run (ledger_start log) hhooks hfits hreturns
  have hbalanced : s.Balanced ((start log).lost operations) :=
    (balanced_start log).run hhooks hfits
  have hregistered : s.store.Registered s.holdings :=
    Store.invariant_registered.run Store.takes_registered Store.blind_registered hhooks
      (registered_start log)
  refine ⟨hledger, fun h e f c passes hh hget hlink hshort => ?_⟩
  obtain ⟨context, backend, chain, hcontext, hshown, hbackend, hcontested, hspare⟩ :=
    hbalanced.contested hledger hregistered hh hget hlink hshort
  refine ⟨context, backend, chain, hcontext, hbackend, hcontested.told, hcontested,
    fun told hsame => ?_⟩
  rw [← hshown]
  exact hcontested.read hbackend hspare hsame

/-- **One document wins** after every run that gives loans back where they came from and does not
run out of references, where an attached error is read with no document of the present generation in
use, and every reader who is let in meanwhile, by this reading or by one that it let in, reads the
same error and gets the frames that it asks for, as this reading does.

The reading changes the error and its backend only, and of the error the references and the
documents.  If the backend refused no request meanwhile, then

* one document of the present generation was left on the error, which shows its chain; the one that
  was in use is retired, if there was any, and no document is there twice;
* the blocks that were handed out meanwhile, all different, are those of that document and those
  that came back;
* the reading returns that document, and so does every reader of the nest: it found it, or rendered
  it, or rendered another and gave that back, text and record. -/
theorem one_winner_of_run (log : Log) (operations : List Operation)
    (hhooks : ∀ operation ∈ operations, operation.isHook = false)
    (hfits : Throughout Fits (start log) operations)
    (hreturns : Throughout Returns (start log) operations) :
    let s := ((start log).run operations).1
    s.aborted = false → ∀ h e f c, s.faults.get? h = some e → s.store.faults.get? e = some f →
      f.context = some c → s.Short (.read h {}) →
    ∃ context backend chain, s.store.contexts.get? c = some context ∧
      s.store.backends.get? context.backend = some backend ∧ s.store.chain? e = some chain ∧
      let document := Document.document .granted (some chain)
      ((∀ cached, f.cache = some cached → cached.generation ≠ context.generation) →
        (∀ call ∈ s.store.calls e {}, call.Reads e) →
        ∃ x' reading events,
          s.perform (.read h {}) =
            ({ s with store := s.store.onStage context.backend e x' }, .reading reading) ∧
          x'.fault.bare = f.bare ∧ x'.backend.history = events ++ backend.history ∧
          ((∀ serial layout, .refused serial layout ∉ events) →
            ∃ won, reading = .document won ∧ won.generation = context.generation ∧
              won.text.text = document ∧ x'.fault.cache = some won ∧
              x'.fault.retired = f.cache.toList ++ f.retired ∧
              x'.fault.documents.length = f.documents.length + 1 ∧ x'.fault.documents.Nodup ∧
              handedOut events = {won.text.block} + ({won.node} + cameBack events) ∧
              (handedOut events).Nodup ∧
              ∀ call ∈ s.store.calls e {}, ∃ y events' published y',
                call.store = s.store.onStage context.backend e y ∧
                call.result = (s.store.onStage context.backend e y', .document won) ∧
                y.Verdict chain call.passes context.generation events' y' (.document won) ∧
                y'.backend.history = events' ++ y.backend.history ∧
                handedOut events' = Cached.blocksOf published + cameBack events' ∧
                y'.fault.documents = published ++ y.fault.documents)) := by
  intro s hrunning h e f c hh hget hlink hshort
  obtain ⟨hledger, hcontest⟩ := contest_of_run log operations hhooks hfits hreturns
  obtain ⟨context, backend, chain, hcontext, hbackend, htold, hcontested, hyields⟩ :=
    hcontest h e f c {} hh hget hlink hshort
  refine ⟨context, backend, chain, hcontext, hbackend, htold, fun hopen hsame => ?_⟩
  -- With all frames there, every pair of passes comes to the document.
  have hconvert : Document.convert {} chain = .text (Document.document .granted (some chain)) :=
    (Document.convert_of_same rfl).trans
      (Document.Conversion.ofDocument_of_fits (hcontested.short .granted))
  obtain ⟨x', reading, events, published, hread, hverdict, hpassage, howes, -, hhosts⟩ :=
    hyields (· = Document.document .granted (some chain)) fun call hmem =>
      ⟨(hsame call hmem).1, fun text htext => by
        rw [(hsame call hmem).2, hconvert] at htext
        exact (Document.Conversion.text.inj htext).symm⟩
  have hperform := perform_read hrunning hh {}
  rw [hread] at hperform
  refine ⟨x', reading, events, hperform, hpassage.bare, hpassage.history, fun hgranted => ?_⟩
  obtain ⟨won, rfl⟩ := hverdict.document_of_granted rfl hgranted
  obtain ⟨hcache, hcurrent⟩ := hverdict.cache_of_document
  obtain ⟨rfl, hretired, htext⟩ := hpassage.slot.of_open hopen hcache hcurrent
  -- What the reading leaves is accounted for like everything else.
  have hafter := (ledger_read hledger (h := h) {}).accounted
  rw [hperform] at hafter
  have hfault : (s.store.onStage context.backend e x').faults.get? e = some x'.fault :=
    hcontested.get?_fault _ _
  have honest := (hafter.orderly (hcontested.get?_backend x')).honest
  rw [hpassage.history] at honest
  have hnodup : (handedOut events).Nodup := by
    refine Multiset.nodup_of_le ?_ honest.nodup_handedOut
    rw [handedOut_append]
    exact Multiset.le_add_right _ _
  refine ⟨won, rfl, hcurrent, htext, hcache, hretired, ?_, hafter.nodup_documents hfault, ?_,
    hnodup, fun call hmem => ?_⟩
  · rw [hpassage.slot.documents]
    rfl
  · rw [howes]
    show 0 + ({won.text.block} + {won.node} + cameBack events) = _
    rw [zero_add, add_assoc]
  · obtain ⟨y, events', published, y', hstore, hresult, hverdict', hpassage', howes'⟩ :=
      (hhosts call hmem).returns hpassage.history hgranted
        (by rw [(hsame call hmem).2]) hcache
    refine ⟨y, events', published, y', hstore, hresult, hverdict', hpassage'.history, ?_,
      hpassage'.slot.documents⟩
    rw [howes', zero_add]

/-- A run after which the document of an error is not of the present generation, and readers wait
for three of the next requests: the first of a reading, the second of the reader who comes then, and
the one after those of the reader who comes on that. -/
def rivalRun : List Operation :=
  let draft : Draft := { domain := .git, code := .notFound, message := .ofText "hi" }
  [.openBackend none, .createContext { backend := some 0 }, .createFault 0 draft none, .read 0 {},
    .releaseContext 0 false false, .letIn 0 [(1, 0), (3, 0), (6, 0)]]

/-- The reading and the three readers, of whom one is let in by another, return one document.  Two
of them render it in vain. -/
theorem one_winner_of_rivalRun :
    (∀ operation ∈ rivalRun, operation.isHook = false) ∧
    Throughout Fits (start { filter := .off }) rivalRun ∧
    Throughout Returns (start { filter := .off }) rivalRun ∧
    (let s := ((start { filter := .off }).run rivalRun).1
    s.aborted = false ∧ s.faults.get? 0 = some 0 ∧ s.Short (.read 0 {}) ∧
      (s.store.calls 0 {}).length = 4 ∧ (∀ call ∈ s.store.calls 0 {}, call.Reads 0) ∧
      ∃ f won f', s.store.faults.get? 0 = some f ∧ f.context = some 0 ∧ f.documents.length = 1 ∧
        (s.perform (.read 0 {})).2 = .reading (.document won) ∧
        (s.perform (.read 0 {})).1.store.faults.get? 0 = some f' ∧ f'.cache = some won ∧
        f'.retired = f.documents ∧ ∀ call ∈ s.store.calls 0 {}, call.result.2 = .document won) := by
  have hhooks : ∀ operation ∈ rivalRun, operation.isHook = false := by decide
  have hall : Throughout (fun s operation => s.Scant operation ∧ s.Returns operation)
      (start { filter := .off }) rivalRun := by
    decide +kernel
  have hfits : Throughout Fits (start { filter := .off }) rivalRun :=
    hall.mono fun _ _ h => h.1.fits
  have hreturns : Throughout Returns (start { filter := .off }) rivalRun :=
    hall.mono fun _ _ h => h.2
  -- What has to be computed is that four calls are nested, that all read one error, and that
  -- nothing is refused on the way.
  have hstate : let s := ((start { filter := .off }).run rivalRun).1
      s.aborted = false ∧ s.faults.get? 0 = some 0 ∧ s.Short (.read 0 {}) ∧
      (s.store.calls 0 {}).length = 4 ∧ (∀ call ∈ s.store.calls 0 {}, call.Reads 0) ∧
      (s.store.faults.get? 0).any (fun f => f.documents.length = 1 ∧ f.context = some 0 ∧
        ∀ cached ∈ f.cache, ∀ context ∈ s.store.contexts.get? 0,
          cached.generation ≠ context.generation) = true ∧
      ∀ entry ∈ (s.store.read 0 {}).1.backends.toList, ∀ event ∈ entry.2.history,
        (event matches .refused _ _) = false := by
    decide +kernel
  have hwinner := one_winner_of_run { filter := .off } rivalRun hhooks hfits hreturns
  refine ⟨hhooks, hfits, hreturns, ?_⟩
  dsimp only at hstate hwinner ⊢
  generalize ((start { filter := .off }).run rivalRun).1 = s at *
  obtain ⟨hrunning, hh, hshort, hlength, hsame, hfault, hgranted⟩ := hstate
  obtain ⟨f, hget, hpresent⟩ := (Option.any_eq_true _ _).1 hfault
  obtain ⟨hone, hlink, hstale⟩ := of_decide_eq_true hpresent
  obtain ⟨context, backend, chain, hcontext, hbackend, -, hcompete⟩ :=
    hwinner hrunning 0 0 f 0 hh hget hlink hshort
  obtain ⟨x', reading, events, hperform, -, hhistory, hwon⟩ :=
    hcompete (fun cached hcache => hstale cached hcache context hcontext) hsame
  have hread : (s.store.read 0 {}).1 = s.store.onStage context.backend 0 x' := by
    rw [perform_read hrunning hh] at hperform
    exact congrArg (·.1.store) hperform
  have hbackend' : (s.store.read 0 {}).1.backends.get? context.backend = some x'.backend := by
    rw [hread]
    exact Store.get?_modifyBackend hbackend x'.backend
  -- The law says that some document won if no request was refused, and none was.
  obtain ⟨won, rfl, -, -, hcache, hretired, -, -, -, -, hcalls⟩ := hwon fun serial layout hmem => by
    have hnone := hgranted _ (Arena.mem_toList_iff.2 hbackend') (.refused serial layout)
      (by rw [hhistory]; exact List.mem_append_left _ hmem)
    cases hnone
  refine ⟨hrunning, hh, hshort, hlength, hsame, f, won, x'.fault, hget, hlink, hone, ?_, ?_, hcache,
    hretired, fun call hmem => ?_⟩
  · rw [hperform]
  · rw [hperform]
    show (s.store.onStage context.backend 0 x').faults.get? 0 = some x'.fault
    rw [Store.onStage, Store.modifyFault, Arena.get?_modify, if_pos rfl]
    show (s.store.faults.get? 0).map _ = _
    rw [hget, Option.map_some]
  · obtain ⟨y, events', published, y', -, hresult, -⟩ := hcalls call hmem
    rw [hresult]

/-- **What readers are shown** after every run that gives loans back where they came from and does
not run out of references, where an attached error is read, and every reader who is let in meanwhile
reads the same error, whatever answers the passes of each of them get to their reservations.

The reading is the first call of its nest.  Each call of the nest changes the error and its backend
only, and returns one of two things, whichever requests are refused:

* the document that is in use when they are done, which is of the present generation;
* a placeholder.  Then no such document was in use when they began, and they gave up: one of their
  own two requests was refused, which was the last one they made; or what they wrote was no text and
  both blocks went back, which takes two passes with different answers.  They do not look at the
  error after that, so there may be a document by now: one that another reader rendered meanwhile
  (`hidden_of_hiddenRun`). -/
theorem shown_of_run (log : Log) (operations : List Operation)
    (hhooks : ∀ operation ∈ operations, operation.isHook = false)
    (hfits : Throughout Fits (start log) operations)
    (hreturns : Throughout Returns (start log) operations) :
    let s := ((start log).run operations).1
    s.aborted = false → ∀ h e f c passes, s.faults.get? h = some e →
      s.store.faults.get? e = some f → f.context = some c → s.Short (.read h passes) →
      (∀ call ∈ s.store.calls e passes, call.fault = e) →
    ∃ context chain outer, s.store.contexts.get? c = some context ∧
      s.store.chain? e = some chain ∧ outer ∈ s.store.calls e passes ∧
      s.perform (.read h passes) =
        ({ s with store := outer.result.1 }, .reading outer.result.2) ∧
      ∀ call ∈ s.store.calls e passes, ∃ y events y' reading,
        call.store = s.store.onStage context.backend e y ∧
        call.result = (s.store.onStage context.backend e y', reading) ∧
        y'.fault.bare = f.bare ∧ y'.backend.history = events ++ y.backend.history ∧
        ((∃ shown, reading = .document shown ∧ y'.fault.cache = some shown ∧
            shown.generation = context.generation) ∨
          (reading = .placeholder ∧ y.Open context.generation ∧
            (Stage.Refused y.backend.requests events ∨
              Stage.Torn chain call.passes y.backend.requests events))) := by
  intro s hrunning h e f c passes hh hget hlink hshort hsame
  obtain ⟨-, hcontest⟩ := contest_of_run log operations hhooks hfits hreturns
  obtain ⟨context, backend, chain, hcontext, -, hchain, -, hyields⟩ :=
    hcontest h e f c passes hh hget hlink hshort
  obtain ⟨x', -, -, -, -, -, -, -, -, hhosts⟩ :=
    hyields (fun _ => True) fun call hmem => ⟨hsame call hmem, fun _ _ => trivial⟩
  refine ⟨context, chain, _, hcontext, hchain, List.mem_cons_self, perform_read hrunning hh passes,
    fun call hmem => ?_⟩
  obtain ⟨y, events, published, y', reading, hstore, hresult, hverdict, ⟨_, _, hearlier⟩, hpassage,
    -, -⟩ := hhosts call hmem
  refine ⟨y, events, y', reading, hstore, hresult, hpassage.bare.trans hearlier.bare,
    hpassage.history, ?_⟩
  cases reading with
  | document shown => exact .inl ⟨shown, rfl, hverdict.cache_of_document⟩
  | placeholder => exact .inr ⟨rfl, hverdict.open_of_placeholder, hverdict.failed_of_placeholder⟩

/-- A run after which a reader waits for the second request of a reading, and that request will be
refused, but not those of the reader. -/
def hiddenRun : List Operation :=
  let draft : Draft := { domain := .git, code := .notFound, message := .ofText "hi" }
  [.openBackend none, .createContext { backend := some 0 }, .createFault 0 draft none,
    .letIn 0 [(2, 0)], .failNext 0 [2]]

/-- The reader is shown its document, and the reading a placeholder. -/
theorem shown_of_hiddenRun :
    (∀ operation ∈ hiddenRun, operation.isHook = false) ∧
    Throughout Fits (start { filter := .off }) hiddenRun ∧
    Throughout Returns (start { filter := .off }) hiddenRun ∧
    (let s := ((start { filter := .off }).run hiddenRun).1
    s.aborted = false ∧ s.faults.get? 0 = some 0 ∧ s.Short (.read 0 {}) ∧
      (∀ call ∈ s.store.calls 0 {}, call.Reads 0) ∧
      ∃ context outer inner, s.store.contexts.get? 0 = some context ∧
        s.store.calls 0 {} = [outer, inner] ∧
        (∃ y events, outer.store = s.store.onStage context.backend 0 y ∧
          outer.result.2 = .placeholder ∧ y.Open context.generation ∧
          Stage.Refused y.backend.requests events) ∧
        ∃ y' shown, inner.result = (s.store.onStage context.backend 0 y', .document shown) ∧
          y'.fault.cache = some shown ∧ shown.generation = context.generation) := by
  have hhooks : ∀ operation ∈ hiddenRun, operation.isHook = false := by decide
  have hall : Throughout (fun s operation => s.Scant operation ∧ s.Returns operation)
      (start { filter := .off }) hiddenRun := by
    decide +kernel
  have hfits : Throughout Fits (start { filter := .off }) hiddenRun :=
    hall.mono fun _ _ h => h.1.fits
  have hreturns : Throughout Returns (start { filter := .off }) hiddenRun :=
    hall.mono fun _ _ h => h.2
  have hstate : let s := ((start { filter := .off }).run hiddenRun).1
      s.aborted = false ∧ s.faults.get? 0 = some 0 ∧ s.Short (.read 0 {}) ∧
      (∀ call ∈ s.store.calls 0 {}, call.Reads 0) ∧
      (s.store.faults.get? 0).any (·.context = some 0) = true ∧
      (s.store.calls 0 {}).map (·.result.2 matches .placeholder) = [true, false] := by
    decide +kernel
  have hshown := shown_of_run { filter := .off } hiddenRun hhooks hfits hreturns
  refine ⟨hhooks, hfits, hreturns, ?_⟩
  dsimp only at hstate hshown ⊢
  generalize ((start { filter := .off }).run hiddenRun).1 = s at *
  obtain ⟨hrunning, hh, hshort, hsame, hfault, hreadings⟩ := hstate
  obtain ⟨f, hget, hlink⟩ := (Option.any_eq_true _ _).1 hfault
  obtain ⟨context, chain, -, hcontext, -, -, -, hcalls⟩ :=
    hshown hrunning 0 0 f 0 {} hh hget (of_decide_eq_true hlink) hshort
      fun call hmem => (hsame call hmem).1
  -- Two calls, the outer one first; the inner one came in between the two requests of the outer.
  obtain ⟨outer, _, heq, houter, hrest⟩ := List.map_eq_cons_iff.1 hreadings
  obtain ⟨inner, _, rfl, hinner, hnil⟩ := List.map_eq_cons_iff.1 hrest
  obtain rfl := List.map_eq_nil_iff.1 hnil
  refine ⟨hrunning, hh, hshort, hsame, context, outer, inner, hcontext, heq, ?_, ?_⟩
  · have hmem : outer ∈ s.store.calls 0 {} := heq ▸ List.mem_cons_self
    obtain ⟨y, events, y', reading, hstore, hresult, -, -,
      ⟨shown, rfl, -⟩ | ⟨rfl, hopen, hfailed⟩⟩ := hcalls outer hmem
    · rw [hresult] at houter
      cases houter
    · refine ⟨y, events, hstore, congrArg Prod.snd hresult, hopen, hfailed.resolve_right ?_⟩
      exact fun htorn => htorn.disagree (by rw [(hsame outer hmem).2])
  · obtain ⟨y, events, y', reading, -, hresult, -, -, ⟨shown, rfl, hshown⟩ | ⟨rfl, -⟩⟩ :=
      hcalls inner (heq ▸ List.mem_cons_of_mem _ List.mem_cons_self)
    · exact ⟨y', shown, hresult, hshown⟩
    · rw [hresult] at hinner
      cases hinner

/-- When the reading is done there is a document of the present generation, which it does not
return: it was left by the reader who came in with the request that was refused. -/
theorem hidden_of_hiddenRun :
    let s := ((start { filter := .off }).run hiddenRun).1
    let after := (s.perform (.read 0 {})).1
    s.aborted = false ∧ s.faults.get? 0 = some 0 ∧ (∀ call ∈ s.store.calls 0 {}, call.Reads 0) ∧
      ((s.perform (.read 0 {})).2 matches .reading .placeholder) = true ∧
      (after.store.faults.get? 0).any (fun f => (f.context.bind after.store.contexts.get?).any
        fun context => f.cache.any (·.generation = context.generation)) = true := by
  decide +kernel

end Session

end FaultChain

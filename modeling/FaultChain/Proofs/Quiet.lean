import FaultChain.Proofs.Lasting
import FaultChain.Proofs.Rendering

/-!
# Where nobody is let in

A store is *quiet* while no backend has readers to let in.  A request is then answered at once by
the backend, and nothing else happens on the way, so it can be written down what a reading does to
the store: the document in use stays and is shown, or it is retired and replaced by what the two
requests for a new one come to (`Quiet.readWith_of_stale`).

### Two ways to say what a build does

An exact equation needs the backend to be known: its next two answers decide what is left, and
`Quiet.readWith_of_stale` says what it is in terms of `Backend.rendered`.  Where the backend does
not matter, as for the text of a document that was shown, it is enough that a build leaves a
document that is good or none, and shows what it leaves (`Quiet.leaves_buildWith`).  The first form
is for the law of what a reading shows, the second for what documents keep, and neither follows from
the other without looking at the build again.

### What is load-bearing

* **The rule of a backend is arbitrary.** Nothing here asks which requests are refused: a request is
  refused if and only if `Backend.refuses` says so, of its number and its layout
  (`request_eq_none_iff`), and a request that was answered leaves the rule as it is
  (`refuses_request`).  So the second of two requests is judged as the first one was.
* **The document fits.** A document whose size with the terminator is no size of a block is never
  asked for: `buildWith` gives up before its first request, or before its second.  The equations are
  for documents that can be asked for at all.
-/

namespace FaultChain

open Memory (Block Backend Layout)

namespace Memory.Backend

/-! ## Backends on their own

A request, seen by the backend alone: what it answers and what it becomes.  A document takes two of
them.
-/

section Requests

variable {b : Backend}

/-- A request is refused if the backend refuses its number or its layout. -/
theorem request_eq_none_iff (b : Backend) (layout : Layout) :
    (b.request layout).2 = none ↔ b.refuses (b.requests + 1) layout = true := by
  have hsame : b.enter.1.refuses (b.requests + 1) layout = b.refuses (b.requests + 1) layout := rfl
  rw [← hsame, request]
  show (b.enter.1.settle (b.requests + 1) layout).2 = none ↔ _
  unfold settle
  split
  · next hrefused => exact ⟨fun _ => hrefused, fun _ => rfl⟩
  · next hgranted => exact ⟨nofun, fun hrefused => absurd hrefused hgranted⟩

/-- Every request is counted, granted or refused. -/
theorem requests_request (b : Backend) (layout : Layout) :
    (b.request layout).1.requests = b.requests + 1 := by
  show (b.enter.1.settle (b.requests + 1) layout).1.requests = _
  unfold settle
  split <;> rfl

/-- A request that was answered leaves the limit, the list of requests to refuse and the rule as
they are. -/
theorem refuses_request (b : Backend) (layout : Layout) :
    (b.request layout).1.refuses = b.refuses := by
  have hsame : (b.request layout).1.failing = b.failing ∧ (b.request layout).1.rule = b.rule ∧
      (b.request layout).1.limit = b.limit := by
    show (b.enter.1.settle (b.requests + 1) layout).1.failing = _ ∧
      (b.enter.1.settle (b.requests + 1) layout).1.rule = _ ∧
      (b.enter.1.settle (b.requests + 1) layout).1.limit = _
    unfold settle
    split <;> exact ⟨rfl, rfl, rfl⟩
  funext serial layout
  rw [refuses, refuses, hsame.1, hsame.2.1, hsame.2.2]

/-- Where nobody is waiting, a request has nobody wait. -/
theorem reentries_request (hquiet : b.reentries = []) (layout : Layout) :
    (b.request layout).1.reentries = [] := by
  have hentered : b.enter.1.reentries = [] := by
    rw [enter, hquiet]
    rfl
  show (b.enter.1.settle (b.requests + 1) layout).1.reentries = []
  unfold settle
  split <;> exact hentered

end Requests

/-- Asks for what a new document lives in, and renders it there.  The record comes first; if there
is no block for the text, the record is given back. -/
def rendered (b : Backend) (generation : UInt32) (chain : Chain) : Backend × Option Cached :=
  match b.request .cache with
  | (b, none) => (b, none)
  | (b, some node) =>
    match b.requestBuffer (Document.document .granted (some chain)).utf8ByteSize with
    | (b, none) => (b.free node, none)
    | (b, some blank) =>
      let text :=
        { blank with whole := (Document.render .granted (some chain) blank.whole).2 }
      (b, some { generation, node, text })

section Rendered

variable {b : Backend} {generation : UInt32} {chain : Chain}

/-- Where a document can be asked for at all, it is missing if and only if the request for its
record or the one for its text is refused. -/
theorem rendered_eq_none_iff
    (hshort : (Document.document .granted (some chain)).utf8ByteSize + 1 ≤ Layout.greatestSize) :
    (b.rendered generation chain).2 = none ↔
      b.refuses (b.requests + 1) .cache = true ∨
      b.refuses (b.requests + 2) {
        size := (Document.document .granted (some chain)).utf8ByteSize + 1
        align := 1 } = true := by
  have hlayout := Layout.buffer?_eq_some_iff.2 ⟨hshort, rfl⟩
  have hnode := request_eq_none_iff b .cache
  have hrequests := requests_request b .cache
  have hrefuses := refuses_request b .cache
  unfold rendered requestBuffer
  rw [hlayout]
  rcases hfirst : b.request .cache with ⟨b₁, _ | node⟩ <;>
    rw [hfirst] at hnode hrequests hrefuses
  · exact ⟨fun _ => .inl (hnode.1 rfl), fun _ => rfl⟩
  · have hgranted : ¬b.refuses (b.requests + 1) .cache = true := fun hrefused => by
      cases hnode.2 hrefused
    have hblank := request_eq_none_iff b₁ {
      size := (Document.document .granted (some chain)).utf8ByteSize + 1
      align := 1 }
    rw [show b₁.requests = b.requests + 1 from hrequests, show b₁.refuses = b.refuses from hrefuses]
      at hblank
    rw [or_iff_right hgranted, ← hblank]
    dsimp only
    rcases b₁.request _ with ⟨b₂, _ | block⟩
    · exact ⟨fun _ => rfl, fun _ => rfl⟩
    · exact ⟨nofun, nofun⟩

/-- A document that is rendered into a blank buffer for it reads as the document of the chain.  The
buffer has room for exactly the document and its terminator. -/
theorem text?_zeroed (chain : Chain) (block : Block) :
    let blank := Buffer.zeroed block (Document.document .granted (some chain)).utf8ByteSize
    Buffer.text? { blank with
      whole := (Document.render .granted (some chain) blank.whole).2 } =
        some (Document.document .granted (some chain)) := by
  have hsize : (Document.document .granted (some chain)).toUTF8.size =
      (Document.document .granted (some chain)).utf8ByteSize := rfl
  intro blank
  rw [Buffer.text?, Buffer.content]
  dsimp only [blank, Buffer.zeroed]
  rw [Document.render_eq]
  dsimp only
  rw [← hsize, Document.extract_remains (by rw [Buffer.size_zeros]; omega),
    Document.fromUTF8?_toUTF8]

/-- A buffer that was asked for is blank, so a document that is rendered into it can be read
back. -/
theorem text?_of_requestBuffer {b' : Backend} {blank : Buffer}
    (h : b.requestBuffer (Document.document .granted (some chain)).utf8ByteSize =
      (b', some blank)) :
    Buffer.text? { blank with
      whole := (Document.render .granted (some chain) blank.whole).2 } =
        some (Document.document .granted (some chain)) := by
  have hzeroed : blank = .zeroed blank.block
      (Document.document .granted (some chain)).utf8ByteSize := by
    unfold requestBuffer at h
    split at h
    · cases h
    · split at h <;> cases h
      rfl
  rw [hzeroed]
  exact text?_zeroed chain blank.block

/-- What was rendered is of the generation that was asked for, and reads as the document of the
chain. -/
theorem text_of_rendered {own : Cached} (h : (b.rendered generation chain).2 = some own) :
    own.generation = generation ∧ own.text.text = Document.document .granted (some chain) := by
  unfold rendered at h
  split at h
  · cases h
  split at h
  · cases h
  next b₂ blank hblank =>
  obtain rfl := Option.some.inj h
  refine ⟨rfl, ?_⟩
  rw [Buffer.text, text?_of_requestBuffer hblank, Option.getD_some]

end Rendered

end Memory.Backend

namespace Store

/-! ## Readings in quiet stores

If nobody is waiting, a visitor is never called.  So a request of the store is one of the backend,
and a reading can be computed.
-/

/-- **Nobody is waiting** to be let in by a backend.  Only `Session.letIn` has readers wait, so a
store without them stays without them for as long as that operation is not performed. -/
def Quiet (s : Store) : Prop :=
  ∀ b backend, s.backends.get? b = some backend → backend.reentries = []

section Quiet

variable {s : Store} {b : BackendId} {backend : Backend} {e : FaultId} {f : Fault} {chain : Chain}

/-- A backend may change, as long as it does not come to have readers waiting. -/
theorem Quiet.modifyBackend (hs : s.Quiet) (b : BackendId) {g : Backend → Backend}
    (hg : ∀ backend, backend.reentries = [] → (g backend).reentries = []) :
    (s.modifyBackend b g).Quiet := by
  intro b' backend' hget
  rw [Store.modifyBackend, Arena.get?_modify] at hget
  split at hget
  · obtain ⟨backend, hbackend, rfl⟩ := Option.map_eq_some_iff.1 hget
    exact hg backend (hs _ backend hbackend)
  · exact hs b' backend' hget

/-- A backend that was replaced is what it was replaced by. -/
theorem get?_modifyBackend (hget : s.backends.get? b = some backend) (backend' : Backend) :
    (s.modifyBackend b fun _ => backend').backends.get? b = some backend' := by
  rw [Store.modifyBackend, Arena.get?_modify, if_pos rfl, hget, Option.map_some]

/-- Two changes of one backend are one change. -/
theorem modifyBackend_modifyBackend (s : Store) (b : BackendId) (f g : Backend → Backend) :
    (s.modifyBackend b f).modifyBackend b g = s.modifyBackend b (g ∘ f) := by
  rw [Store.modifyBackend, Store.modifyBackend, Arena.modify_modify]
  rfl

/-- **A request** is answered by the backend alone if nobody is waiting at it.  The visitor is never
called, so nothing needs to be known of it. -/
theorem requestWith_of_reentries (hget : s.backends.get? b = some backend)
    (hcalm : backend.reentries = []) (visit : Visitor) (layout : Layout) :
    s.requestWith visit b layout =
      (s.modifyBackend b fun _ => (backend.request layout).1, (backend.request layout).2) := by
  have hdue : backend.enter.2 = [] := by
    rw [Backend.enter, hcalm]
    rfl
  unfold Store.requestWith
  rw [hget]
  dsimp only
  rw [hdue, List.foldl_nil, Store.settle, get?_modifyBackend hget]
  dsimp only
  rw [modifyBackend_modifyBackend]
  rfl

/-- A request for a buffer is answered by the backend alone. -/
theorem requestBufferWith_of_reentries (hget : s.backends.get? b = some backend)
    (hcalm : backend.reentries = []) (visit : Visitor) (length : Nat) :
    s.requestBufferWith visit b length =
      (s.modifyBackend b fun _ => (backend.requestBuffer length).1,
        (backend.requestBuffer length).2) := by
  unfold Store.requestBufferWith Backend.requestBuffer
  cases Layout.buffer? length with
  | none =>
      have hsame : s.backends.modify b (fun _ => backend) = s.backends :=
        Arena.modify_eq_self fun backend' hget' => Option.some.inj (hget.symm.trans hget')
      dsimp only
      rw [Store.modifyBackend, hsame]
  | some layout =>
      dsimp only
      rw [requestWith_of_reentries hget hcalm visit layout]
      rcases backend.request layout with ⟨backend', _ | block⟩ <;> rfl

/-- So it is in a quiet store, at every backend. -/
theorem Quiet.requestWith (hs : s.Quiet) (hget : s.backends.get? b = some backend)
    (visit : Visitor) (layout : Layout) :
    s.requestWith visit b layout =
      (s.modifyBackend b fun _ => (backend.request layout).1, (backend.request layout).2) :=
  requestWith_of_reentries hget (hs b backend hget) visit layout

/-- So it is for buffers. -/
theorem Quiet.requestBufferWith (hs : s.Quiet) (hget : s.backends.get? b = some backend)
    (visit : Visitor) (length : Nat) :
    s.requestBufferWith visit b length =
      (s.modifyBackend b fun _ => (backend.requestBuffer length).1,
        (backend.requestBuffer length).2) :=
  requestBufferWith_of_reentries hget (hs b backend hget) visit length

/-! ### Building a document

With every request answered by the backend, a build is one change of the backend and one of the
error.
-/

/-- What a reading leaves in place of the document in use, given what a backend answered that was
asked for a new one. -/
def renew (s : Store) (e : FaultId) (b : BackendId) (answer : Backend × Option Cached) : Store :=
  (s.modifyBackend b fun _ => answer.1).modifyFault e fun f =>
    { f with cache := answer.2, retired := f.cache.toList ++ f.retired }

/-- An error without a document in use has none to retire. -/
theorem renew_eq (hget : s.faults.get? e = some f) (hcache : f.cache = none) (b : BackendId)
    (answer : Backend × Option Cached) :
    s.renew e b answer =
      (s.modifyBackend b fun _ => answer.1).modifyFault e fun f =>
        { f with cache := answer.2 } := by
  refine congrArg (fun faults => { s.modifyBackend b fun _ => answer.1 with faults }) ?_
  apply Arena.modify_congr
  intro f' hget'
  obtain rfl := Option.some.inj (hget.symm.trans hget')
  rw [hcache]
  rfl

/-- Without a new document such an error stays as it is. -/
theorem renew_none (hget : s.faults.get? e = some f) (hcache : f.cache = none) (b : BackendId)
    (backend' : Backend) : s.renew e b (backend', none) = s.modifyBackend b fun _ => backend' := by
  rw [renew_eq hget hcache]
  refine congrArg (fun faults => { s.modifyBackend b fun _ => backend' with faults }) ?_
  apply Arena.modify_eq_self
  intro f' hget'
  obtain rfl := Option.some.inj (hget.symm.trans hget')
  rw [← hcache]

/-- Measuring tells the size of the document with its terminator, which is not the number that
stands for sizes that cannot be counted. -/
theorem measure_eq {reservation : Document.Reservation}
    (hshort : (Document.document reservation (some chain)).utf8ByteSize + 1 ≤
      Layout.greatestSize) :
    Document.measure reservation chain =
        (Document.document reservation (some chain)).utf8ByteSize + 1 ∧
      (Document.document reservation (some chain)).utf8ByteSize + 1 ≠ Document.greatestCount := by
  have hless : Layout.greatestSize < Document.greatestCount := by decide
  have hcounted := Nat.lt_of_le_of_lt hshort hless
  rw [Document.measure, Document.render_eq]
  exact ⟨Nat.min_eq_left (Nat.le_of_lt hcounted), Nat.ne_of_lt hcounted⟩

/-- A build leaves on an error without a document what its backend made of one. -/
theorem Quiet.buildWith (hs : s.Quiet) (hget : s.faults.get? e = some f) (hcache : f.cache = none)
    (hbackend : s.backends.get? b = some backend) (hchain : s.chain? e = some chain)
    (hshort : (Document.document .granted (some chain)).utf8ByteSize + 1 ≤ Layout.greatestSize)
    (visit : Visitor) (generation : UInt32) :
    s.buildWith visit e b generation {} =
      (s.renew e b (backend.rendered generation chain),
        .ofCache (backend.rendered generation chain).2) := by
  obtain ⟨hrequired, hcounted⟩ := measure_eq hshort
  have hquiet := Backend.reentries_request (hs b backend hbackend) .cache
  unfold Store.buildWith Backend.rendered
  rw [hchain]
  dsimp only
  rw [hrequired, if_neg hcounted, Nat.add_sub_cancel, hs.requestWith hbackend]
  rcases hrequest : backend.request .cache with ⟨backend₁, _ | node⟩ <;> rw [hrequest] at hquiet
  · exact congrArg (·, _) (renew_none hget hcache b backend₁).symm
  dsimp only
  have hs₁ : (s.modifyBackend b fun _ => backend₁).Quiet := hs.modifyBackend b fun _ _ => hquiet
  rw [hs₁.requestBufferWith (get?_modifyBackend hbackend backend₁), modifyBackend_modifyBackend]
  rcases hbuffer : backend₁.requestBuffer _ with ⟨backend₂, _ | blank⟩
  · dsimp only
    rw [Store.free, modifyBackend_modifyBackend]
    exact congrArg (·, _) (renew_none hget hcache b (backend₂.free node)).symm
  · have hnone : (s.faults.get? e).bind Fault.cache = none := by
      rw [hget, Option.bind_some, hcache]
    dsimp only
    rw [Backend.text?_of_requestBuffer hbuffer, renew_eq hget hcache]
    unfold Store.publish
    rw [show ((s.modifyBackend b _).faults.get? e).bind Fault.cache = none from hnone]
    rfl

/-! ### What a build leaves, whatever its backend answers -/

/-- Backends were asked or given something, and nothing else happened.  This is all that is kept of
the requests on the way, where their answers do not matter. -/
structure Served (s s' : Store) : Prop where
  quiet : s'.Quiet
  same : s' = { s with backends := s'.backends }

/-- Nothing was asked for. -/
theorem Served.refl (hs : s.Quiet) : s.Served s := ⟨hs, rfl⟩

/-- One thing was asked for after another. -/
theorem Served.trans {s' s'' : Store} (h : s.Served s') (h' : s'.Served s'') : s.Served s'' where
  quiet := h'.quiet
  same := by rw [h'.same, h.same]

/-- A change of a backend is one that it was asked for. -/
theorem Quiet.served (hs : s.Quiet) (b : BackendId) {g : Backend → Backend}
    (hg : ∀ backend, backend.reentries = [] → (g backend).reentries = []) :
    s.Served (s.modifyBackend b g) :=
  ⟨hs.modifyBackend b hg, rfl⟩

/-- Errors are not touched by what backends do. -/
theorem Served.faults {s' : Store} (h : s.Served s') : s'.faults = s.faults := by rw [h.same]

/-- A request is served, whatever comes of it. -/
theorem Quiet.served_requestWith (hs : s.Quiet) (visit : Visitor) (b : BackendId)
    (layout : Layout) : s.Served (s.requestWith visit b layout).1 := by
  cases hget : s.backends.get? b with
  | none =>
      rw [Store.requestWith, hget]
      exact .refl hs
  | some backend =>
      rw [hs.requestWith hget]
      have hquiet := Backend.reentries_request (hs b backend hget) layout
      exact hs.served b fun _ _ => hquiet

/-- So is a request for a buffer. -/
theorem Quiet.served_requestBufferWith (hs : s.Quiet) (visit : Visitor) (b : BackendId)
    (length : Nat) : s.Served (s.requestBufferWith visit b length).1 := by
  unfold Store.requestBufferWith
  split
  · exact .refl hs
  next layout _ =>
  have hrequest := hs.served_requestWith visit b layout
  split
  all_goals
    next heq =>
      rw [heq] at hrequest
      exact hrequest

/-- So is a block that is given back. -/
theorem Quiet.served_free (hs : s.Quiet) (b : BackendId) (block : Block) :
    s.Served (s.free b block) :=
  hs.served b fun _ hquiet => hquiet

/-- An error is left with a document that is good, or with none, and what it is left with is
shown. -/
def Leaves (s : Store) (e : FaultId) (good : Cached → Prop) (result : Store × Reading) : Prop :=
  ∃ (s' : Store) (own : Option Cached), s.Served s' ∧
    result = (s'.modifyFault e fun f => { f with cache := own }, .ofCache own) ∧
    ∀ cached, own = some cached → good cached

/-- Where nothing is left, an error without a document is as it was. -/
theorem leaves_placeholder (hget : s.faults.get? e = some f) (hcache : f.cache = none)
    (good : Cached → Prop) {s' : Store} (h : s.Served s') : s.Leaves e good (s', .placeholder) := by
  have hsame : s'.modifyFault e (fun f => { f with cache := none }) = s' := by
    refine congrArg (fun faults => { s' with faults }) (Arena.modify_eq_self fun f' hget' => ?_)
    rw [h.faults] at hget'
    obtain rfl := Option.some.inj (hget.symm.trans hget')
    rw [← hcache]
  refine ⟨s', none, h, ?_, nofun⟩
  rw [hsame]
  rfl

/-- **A build leaves the whole document** of the chain on an error without one, or nothing, whatever
its backend answers. -/
theorem Quiet.leaves_buildWith (hs : s.Quiet) (hget : s.faults.get? e = some f)
    (hcache : f.cache = none) (hchain : s.chain? e = some chain) (visit : Visitor) (b : BackendId)
    (generation : UInt32) :
    s.Leaves e (fun own => own.generation = generation ∧
        own.text.text = Document.document .granted (some chain))
      (s.buildWith visit e b generation {}) := by
  unfold Store.buildWith
  rw [hchain]
  dsimp only
  split
  · exact leaves_placeholder hget hcache _ (.refl hs)
  next hcounted =>
  have hnode := hs.served_requestWith visit b .cache
  split
  · next heq =>
      rw [heq] at hnode
      exact leaves_placeholder hget hcache _ hnode
  next s₁ node heq =>
  rw [heq] at hnode
  have hblank := hnode.trans
    (hnode.quiet.served_requestBufferWith visit b (Document.measure .granted chain - 1))
  split
  · next heq' =>
      rw [heq'] at hblank
      exact leaves_placeholder hget hcache _ (hblank.trans (hblank.quiet.served_free b node))
  next s₂ blank heq' =>
  rw [heq'] at hblank
  -- What was counted is the size of the document, so the blank buffer takes the whole of it.
  have hsize : Document.measure .granted chain - 1 =
      (Document.document .granted (some chain)).utf8ByteSize := by
    rw [Document.measure, Document.render_eq] at hcounted ⊢
    dsimp only at hcounted ⊢
    omega
  have hzeroed := (blank_of_requestBufferWith heq').1
  rw [hsize] at hzeroed
  have htext := Backend.text?_zeroed chain blank.block
  dsimp only at htext
  rw [← hzeroed] at htext
  rw [htext]
  dsimp only
  have hnone : (s₂.faults.get? e).bind Fault.cache = none := by
    rw [hblank.faults, hget, Option.bind_some, hcache]
  rw [Store.publish, hnone]
  refine ⟨s₂, some {
    generation
    node
    text := { blank with whole := (Document.render .granted (some chain) blank.whole).2 } },
    hblank, rfl, fun cached hown => ?_⟩
  obtain rfl := Option.some.inj hown
  refine ⟨rfl, ?_⟩
  rw [Memory.Buffer.text, htext, Option.getD_some]

/-! ### Reading

A document that is current is found, and a stale one makes room for a new one.
-/

/-- **A reading of a document in use** that was rendered for the present generation shows it, and
does nothing else. -/
theorem readWith_of_current (hget : s.faults.get? e = some f) {context : Context}
    (hcontext : f.context.bind s.contexts.get? = some context) {cached : Cached}
    (hcache : f.cache = some cached) (hcurrent : cached.generation = context.shownGeneration)
    (visit : Visitor) (passes : Document.Passes) :
    s.readWith visit e passes = (s, .document cached) := by
  unfold Store.readWith
  rw [hget]
  dsimp only
  rw [hcontext]
  dsimp only
  rw [hcache]
  exact if_pos hcurrent

/-- The document in use is put in front of those that were retired. -/
theorem get?_evict (hget : s.faults.get? e = some f) :
    (s.evict e).faults.get? e =
      some { f with cache := none, retired := f.cache.toList ++ f.retired } := by
  rw [Store.evict, modifyFault, Arena.get?_modify, if_pos rfl, hget, Option.map_some]

/-- Chains do not show whether a document is in use. -/
theorem chain?_evict (s : Store) (e : FaultId) : (s.evict e).chain? e = s.chain? e := by
  have haccount : ∀ e', ((s.evict e).faults.get? e').map Fault.account =
      (s.faults.get? e').map Fault.account := by
    intro e'
    rw [Store.evict, modifyFault, Arena.get?_modify]
    split
    · rw [Option.map_map]
      rfl
    · rfl
  exact chain?_congr (P := fun _ => True) (fun e' _ => haccount e') (fun _ _ _ => trivial) trivial

/-- **A reading without such a document** retires the one in use, if there is one, and leaves what
its backend made of a new one. -/
theorem Quiet.readWith_of_stale (hs : s.Quiet) (hget : s.faults.get? e = some f)
    {context : Context} (hcontext : f.context.bind s.contexts.get? = some context)
    (hbackend : s.backends.get? context.backend = some backend)
    (hstale : ∀ cached, f.cache = some cached → cached.generation ≠ context.shownGeneration)
    (hchain : s.chain? e = some chain)
    (hshort : (Document.document .granted (some chain)).utf8ByteSize + 1 ≤ Layout.greatestSize)
    (visit : Visitor) :
    s.readWith visit e {} =
      (s.renew e context.backend (backend.rendered context.shownGeneration chain),
        .ofCache (backend.rendered context.shownGeneration chain).2) := by
  unfold Store.readWith
  rw [hget]
  dsimp only
  rw [hcontext]
  dsimp only
  cases hcache : f.cache with
  | none => exact hs.buildWith hget hcache hbackend hchain hshort visit _
  | some cached =>
      dsimp only
      rw [if_neg (hstale cached hcache)]
      have hevicted := get?_evict hget
      have hchain' : (s.evict e).chain? e = some chain := (s.chain?_evict e).trans hchain
      have hs' : (s.evict e).Quiet := hs
      rw [hs'.buildWith hevicted rfl hbackend hchain' hshort visit, renew_eq hevicted rfl]
      refine congrArg (·, _) ?_
      refine congrArg (fun faults => { s.modifyBackend context.backend _ with faults }) ?_
      exact Arena.modify_modify _ _ _ _

end Quiet

end Store

end FaultChain

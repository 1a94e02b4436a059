import FaultChain.Proofs.Copies
import FaultChain.Proofs.Generations
import FaultChain.Proofs.Traversals
import FaultChain.Proofs.Unread
import FaultChain.Proofs.Unwinding

/-!
# Towers of errors

A program that wraps one error after another, and keeps a handle on the last one only, builds a
*tower*: each error stands on the one that it explains, and whoever lets go of the top has
everything below it go as well, down to the first error that somebody else holds.

`Store.Tower` describes such a tower from the innermost error on, so that the height of an error is
its key.  One more error may be created on top (`Tower.create`), and a handle may be given up
(`Tower.release`): what stands after it is a tower again, of the same errors or of fewer, and it is
held by the handles that are left.

### What is load-bearing

Nothing is said about *which* errors a release destroys.  It is enough that somebody always holds
the top: a tower that nobody holds has no top, and so no errors, and no entries in the registry of
its context (`Tower.registry_eq_nil`).

### How the lemmas are divided

What an operation does to the store is told by the modules on the operations; here that is read as a
fact about the tower.  Three things are kept apart, since they change at different times: the
context and its registry (`Site`), each error (`Stands`), and how many references there are at a
height (`load`).  A creation changes the site and the load of one height, and leaves the other
errors where they stand; a release takes the top off as often as nobody holds it, which is an
induction on the links.

Everything here is about backends that grant (`Willing`).  A demonstration that is refused ends with
the line that says so, and there is no tower to speak of then.
-/

namespace FaultChain

open Memory (Block Backend Layout Event Rule ordinaryRoom)

namespace Memory.Backend

/-! ## Backends that grant what they are asked for

A backend that refuses nothing of an ordinary size, however much it was asked for before.  Nothing
that is built of ordinary texts is refused by it.
-/

/-- A backend that grants whatever an ordinary machine has room for, and at which nobody is waiting
to come in. -/
structure Willing (b : Backend) : Prop where
  calm : b.reentries = []
  grants : ∀ serial (layout : Layout), layout.size < ordinaryRoom → b.refuses serial layout = false

section Willing

variable {b : Backend}

/-- The backend of the system, with nothing asked of it yet. -/
theorem willing_open : Willing { limit := none } where
  calm := rfl
  grants serial layout hroom := by
    have hrule : Rule.ordinary serial layout = false := decide_eq_false (Nat.not_le_of_lt hroom)
    show (([] : List Nat).contains serial || Rule.ordinary serial layout || false) = false
    rw [hrule]
    rfl

theorem Willing.after (h : b.Willing) (n : Nat) (events : List Event) :
    (b.after n events).Willing :=
  ⟨h.calm, h.grants⟩

theorem Willing.free (h : b.Willing) (block : Block) : (b.free block).Willing :=
  ⟨h.calm, h.grants⟩

/-- A request leaves such a backend as willing as it was. -/
theorem Willing.request (h : b.Willing) (layout : Layout) : (b.request layout).1.Willing where
  calm := reentries_request h.calm layout
  grants serial layout' hroom := by
    rw [refuses_request]
    exact h.grants serial layout' hroom

/-- So does one for a buffer. -/
theorem Willing.requestBuffer (h : b.Willing) (length : Nat) :
    (b.requestBuffer length).1.Willing := by
  unfold Backend.requestBuffer
  split
  · exact h
  next layout _ =>
  have hrequest := h.request layout
  split
  all_goals
    next heq =>
      rw [heq] at hrequest
      exact hrequest

/-- And so does a document, which takes a node and a buffer. -/
theorem Willing.rendered (h : b.Willing) (generation : UInt32) (chain : Chain) :
    (b.rendered generation chain).1.Willing := by
  have hnode := h.request .cache
  unfold Backend.rendered
  split
  · next heq =>
      rw [heq] at hnode
      exact hnode
  next b₁ node heq =>
  rw [heq] at hnode
  have htext := Willing.requestBuffer hnode
    (Document.document .granted (some chain)).utf8ByteSize
  split
  · next heq' =>
      rw [heq'] at htext
      exact Willing.free htext node
  · next heq' =>
      rw [heq'] at htext
      exact htext

/-- Such a backend renders every document that there is room for. -/
theorem Willing.exists_rendered (h : b.Willing) (generation : UInt32) {chain : Chain}
    (hroom : (Document.document .granted (some chain)).utf8ByteSize + 1 < ordinaryRoom) :
    ∃ own, (b.rendered generation chain).2 = some own := by
  have hshort : (Document.document .granted (some chain)).utf8ByteSize + 1 ≤ Layout.greatestSize :=
    Nat.le_trans (Nat.le_of_lt hroom) (by decide)
  cases hown : (b.rendered generation chain).2 with
  | some own => exact ⟨own, rfl⟩
  | none =>
      rcases (rendered_eq_none_iff hshort).1 hown with hrefused | hrefused
      · rw [h.grants _ _ (by decide)] at hrefused
        cases hrefused
      · rw [h.grants _ _ hroom] at hrefused
        cases hrefused

end Willing

end Memory.Backend

/-- The link of an error that is created from a draft, if its message is not cut.  The flags are
those of its domain and code. -/
def Draft.link (d : Draft) : Link where
  domain := d.domain
  code := d.code
  flags := .defaultFor d.domain d.code
  message := Message.offered d.message.second
  location := d.location

/-- A draft whose message can be measured, and is not longer than measured; and there is room for
it. -/
structure Draft.Modest (d : Draft) : Prop where
  accepted : .fail ∉ d.message.first
  fits : (Message.offered d.message.second).utf8ByteSize ≤
    (Message.offered d.message.first).utf8ByteSize
  room : (Message.offered d.message.first).utf8ByteSize + 1 < ordinaryRoom

namespace Store

/-! ## Towers

The height of an error is its key, so a tower is told by a list of links and by who holds it.  What
is said of an error is said of its height.
-/

/-- The error that an error at some height stands on.  The one on the ground stands on none. -/
def below : Nat → Option FaultId
  | 0 => none
  | j + 1 => some j

/-- How many references there are on the error at height `j` of a tower of height `k`: one for each
handle, and one for the error that stands on it.  The top has none of the latter kind. -/
def load (k : Nat) (held : List FaultId) (j : Nat) : Nat :=
  held.count j + if j + 1 < k then 1 else 0

/-- Some backend is there, and grants what it is asked for.  Which one it is does not matter, nor
what it was asked for before. -/
def Supplied (s : Store) (b : BackendId) : Prop :=
  ∃ backend, s.backends.get? b = some backend ∧ backend.Willing

/-- A valid context with one reference on it, over a backend that grants what it is asked for, and
the errors that are registered with it. -/
structure Site (s : Store) (c : ContextId) (es : List FaultId) (context : Context) : Prop where
  found : s.contexts.get? c = some context
  valid : context.valid = true
  refs : context.refs = 1
  supplied : s.Supplied context.backend
  registry : context.registry.map Registration.fault = es

/-- An error at height `j`: attached to a context, with the error below it as its cause, and with a
given number of references. -/
structure Stands (s : Store) (c : ContextId) (j : Nat) (l : Link) (refs : Nat) (f : Fault) :
    Prop where
  found : s.faults.get? j = some f
  link : f.link = l
  context : f.context = some c
  cause : f.cause = below j
  refs : f.refs = .ofNat refs

/-- **A tower of errors**, given by their links from the innermost one on, and by the handles that
hold it.  There are no other errors. -/
structure Tower (s : Store) (c : ContextId) (links : List Link) (held : List FaultId) : Prop where
  site : ∃ context, s.Site c (List.range links.length).reverse context
  stands : ∀ j l, links[j]? = some l → ∃ f, s.Stands c j l (load links.length held j) f
  nothing : ∀ j, links.length ≤ j → s.faults.get? j = none
  handles : ∀ e : Nat, e ∈ held → e < links.length
  /-- Somebody holds the top. -/
  covered : ∀ top : Nat, links.length = top + 1 → top ∈ held

section Sites

variable {s s' : Store} {c : ContextId} {es : List FaultId} {context : Context} {b : BackendId}

theorem Supplied.modifyBackend (h : s.Supplied b) (b' : BackendId) {g : Backend → Backend}
    (hg : ∀ backend, backend.Willing → (g backend).Willing) :
    (s.modifyBackend b' g).Supplied b := by
  obtain ⟨backend, hget, hwilling⟩ := h
  rw [Supplied, Store.modifyBackend, Arena.get?_modify, hget]
  split
  · exact ⟨_, rfl, hg backend hwilling⟩
  · exact ⟨backend, rfl, hwilling⟩

/-- Blocks that come back do not make a backend less willing. -/
theorem Supplied.credited (h : s.Supplied b) (blocks : List (BackendId × Block))
    (hbackends : s'.backends = credited s.backends blocks) : s'.Supplied b := by
  obtain ⟨backend, hget, hwilling⟩ := h
  rw [Supplied, hbackends, get?_credited, hget]
  exact ⟨_, rfl, hwilling.calm, hwilling.grants⟩

/-- Only the contexts, and what the backend has left, are part of a site. -/
theorem Site.congr (h : s.Site c es context) (hcontexts : s'.contexts = s.contexts)
    (hsupplied : s'.Supplied context.backend) : s'.Site c es context :=
  { h with found := hcontexts ▸ h.found, supplied := hsupplied }

end Sites

section Towers

variable {s s' : Store} {c : ContextId} {links : List Link} {held : List FaultId} {l : Link}
  {e : FaultId} {f : Fault}

/-- No error is above the top. -/
theorem Tower.lt_length (h : s.Tower c links held) (hget : s.faults.get? e = some f) :
    e < links.length := by
  refine Decidable.byContradiction fun hge => ?_
  rw [h.nothing e (Nat.le_of_not_lt hge)] at hget
  cases hget

/-- Each error of a tower is what is said about it. -/
theorem Tower.stands_of_get? (h : s.Tower c links held) (hget : s.faults.get? e = some f) :
    ∃ l, links[e]? = some l ∧ s.Stands c e l (load links.length held e) f := by
  have hl := List.getElem?_eq_getElem (h.lt_length hget)
  obtain ⟨f', hstands⟩ := h.stands e _ hl
  obtain rfl : f = f' := Option.some.inj (hget.symm.trans hstands.found)
  exact ⟨_, hl, hstands⟩

/-- An error stands on an older one. -/
theorem Tower.older (h : s.Tower c links held) {cause : FaultId} (hget : s.faults.get? e = some f)
    (hcause : f.cause = some cause) : cause < e := by
  obtain ⟨l, -, hstands⟩ := h.stands_of_get? hget
  rw [hstands.cause] at hcause
  cases e with
  | zero => cases hcause
  | succ j =>
      obtain rfl := Option.some.inj hcause
      exact Nat.lt_succ_self _

/-- It does not matter in which order the handles were given out. -/
theorem Tower.perm {held' : List FaultId} (h : s.Tower c links held) (hperm : held.Perm held') :
    s.Tower c links held' where
  site := h.site
  stands j l hl := by
    have hload : load links.length held' j = load links.length held j := by
      rw [load, load, hperm.count_eq]
    exact hload ▸ h.stands j l hl
  nothing := h.nothing
  handles e he := h.handles e (hperm.mem_iff.2 he)
  covered top htop := hperm.mem_iff.1 (h.covered top htop)

/-- What a backend writes down about itself is not part of a tower. -/
theorem Tower.modifyBackend (h : s.Tower c links held) (b : BackendId) {g : Backend → Backend}
    (hg : ∀ backend, backend.Willing → (g backend).Willing) :
    (s.modifyBackend b g).Tower c links held :=
  let ⟨context, hsite⟩ := h.site
  { h with
    site := ⟨context, hsite.congr rfl (hsite.supplied.modifyBackend b hg)⟩
    stands := fun j l hl =>
      let ⟨f, hstands⟩ := h.stands j l hl
      ⟨f, hstands.found, hstands.link, hstands.context, hstands.cause, hstands.refs⟩ }

/-- The documents of an error are not part of what is said about a tower. -/
theorem Tower.modifyFault (h : s.Tower c links held) (e : FaultId) {g : Fault → Fault}
    (hg : ∀ f, (g f).link = f.link ∧ (g f).context = f.context ∧ (g f).cause = f.cause ∧
      (g f).refs = f.refs) : (s.modifyFault e g).Tower c links held where
  site :=
    let ⟨context, hsite⟩ := h.site
    ⟨context, hsite.congr rfl hsite.supplied⟩
  stands j l hl := by
    obtain ⟨f, hstands⟩ := h.stands j l hl
    obtain ⟨hlink, hcontext, hcause, hrefs⟩ := hg f
    by_cases hj : e = j
    · subst hj
      refine ⟨g f, ?_, hlink.trans hstands.link, hcontext.trans hstands.context,
        hcause.trans hstands.cause, hrefs.trans hstands.refs⟩
      rw [Store.modifyFault, Arena.get?_modify, if_pos rfl, hstands.found, Option.map_some]
    · refine ⟨f, ?_, hstands.link, hstands.context, hstands.cause, hstands.refs⟩
      rw [Store.modifyFault, Arena.get?_modify, if_neg hj, hstands.found]
  nothing j hj := by
    rw [Store.modifyFault, Arena.get?_modify, h.nothing j hj, Option.map_none, ite_self]
  handles := h.handles
  covered := h.covered

/-- Nothing is registered in the end: a tower that nobody holds has no top, so there is no error in
it. -/
theorem Tower.registry_eq_nil (h : s.Tower c links []) :
    ∃ context, s.Site c [] context ∧ context.registry = [] := by
  have hlinks : links.length = 0 := by
    cases hlength : links.length with
    | zero => rfl
    | succ top => cases h.covered top hlength
  obtain ⟨context, hsite⟩ := h.site
  rw [hlinks] at hsite
  exact ⟨context, hsite, List.map_eq_nil_iff.1 hsite.registry⟩

/-! ## The chain of a tower

Seen from its top a tower is one chain, whose links are those of the tower, the other way round.
-/

/-- What is below a height is all there is to an error at it. -/
theorem Tower.causes (h : s.Tower c links held) {k : Nat} (hk : k ≤ links.length) :
    s.Causes (below k) (List.range k).reverse := by
  induction k with
  | zero => exact .nil
  | succ k ih =>
      obtain ⟨f, hstands⟩ := h.stands k _ (List.getElem?_eq_getElem hk)
      rw [List.range_succ, List.reverse_append, List.reverse_singleton, List.singleton_append]
      refine .cons hstands.found ?_
      rw [hstands.cause]
      exact ih (Nat.le_of_succ_le hk)

/-- Each height shows its link. -/
theorem Tower.link? (h : s.Tower c links held) (hl : links[e]? = some l) : s.link? e = some l := by
  obtain ⟨f, hstands⟩ := h.stands e l hl
  rw [Store.link?, hstands.found, Option.map_some, hstands.link]

/-- All of them together show the links from the top down. -/
theorem Tower.map_link? (h : s.Tower c links held) :
    (List.range links.length).reverse.map s.link? = links.reverse.map some := by
  rw [List.map_reverse, List.map_reverse]
  refine congrArg List.reverse (List.ext_getElem (by simp) fun j hj hj' => ?_)
  rw [List.getElem_map, List.getElem_map, List.getElem_range]
  exact h.link? (List.getElem?_eq_getElem (by simpa using hj))

/-- **The chain of the top** shows the links of the tower, outermost first.  It is the chain that a
document of the top is written for. -/
theorem Tower.exists_chain (h : s.Tower c links held) {top : FaultId}
    (htop : links.length = top + 1) :
    ∃ chain, s.chain? top = some chain ∧ chain.links = links.reverse := by
  have hcauses := h.causes (Nat.le_refl links.length)
  rw [htop] at hcauses
  obtain ⟨chain, hchain, hlinks⟩ := hcauses.exists_chain h.older
  rw [← htop, h.map_link?] at hlinks
  exact ⟨chain, hchain, List.map_injective_iff.2 (Option.some_injective _) hlinks⟩

end Towers

/-! ## One more error on top

A new error holds a reference on what was the top, and its creator holds one on it.
-/

section Creating

variable {s : Store} {c : ContextId} {es : List FaultId} {context : Context} {links : List Link}
  {held : List FaultId} {draft : Draft}

/-- **A modest draft becomes an error** where everything is granted.  Nothing is refused on the way,
so the other ends of a creation do not come up. -/
theorem Site.create (h : s.Site c es context) (hmodest : draft.Modest) (cause : Option FaultId) :
    ∃ (backend : Backend) (fault : Fault) (node : Block), backend.Willing ∧
      s.create c draft cause =
        ((s.modifyBackend context.backend fun _ => backend).receive c fault (some node),
          .ok s.faults.next) ∧
      fault.link = draft.link ∧ fault.context = some c ∧ fault.cause = cause ∧ fault.refs = 1 := by
  obtain ⟨backend, hb, hwilling⟩ := h.supplied
  have hroom : Layout.fault.size < ordinaryRoom ∧ Layout.node.size < ordinaryRoom := by decide
  have hcases := create_cases h.found h.valid hb hwilling.calm draft cause
  dsimp only at hcases
  rw [hwilling.grants _ _ hroom.1, hwilling.grants _ _ hroom.2] at hcases
  rcases hcases with ⟨⟨⟩, -⟩ | ⟨-, hmeasure, -⟩ | ⟨length, -, hmeasure, hrest⟩
  · rw [Message.measure_eq_some_iff.2 ⟨hmodest.accepted, rfl⟩] at hmeasure
    cases hmeasure
  have hcounted : (Message.offered draft.message.first).utf8ByteSize ≤ Message.greatestLength :=
    Nat.le_trans (Nat.le_of_succ_le (Nat.le_of_lt hmodest.room)) (by decide)
  obtain rfl : length = (Message.offered draft.message.first).utf8ByteSize :=
    (Message.measure_eq_some_iff.1 hmeasure).2.trans (Nat.min_eq_left hcounted)
  have hlayout := Layout.buffer?_eq_some_iff.2
    ⟨Nat.le_trans (Nat.le_of_lt hmodest.room) (by decide), rfl⟩
  rw [hlayout] at hrest
  rcases hrest with ⟨⟨⟩, -⟩ | ⟨layout, hsome, ⟨htext, -⟩ | ⟨-, hcreate⟩⟩
  · obtain rfl := Option.some.inj hsome
    rw [hwilling.grants _ _ hmodest.room] at htext
    cases htext
  · rw [if_neg Bool.false_ne_true] at hcreate
    refine ⟨_, _, _, hwilling.after 3 _, hcreate, ?_, rfl, rfl, rfl⟩
    rw [drafted, ofDraft, Fault.link, Draft.link, Message.text_stored_of_le hmodest.fits]

/-- What stands there already gets no more than a reference, and that only if the new error stands
on it. -/
theorem Stands.retain {s' : Store} {j : Nat} {l : Link} {refs : Nat} {f : Fault}
    (h : s.Stands c j l refs f) {p : Prop} [Decidable p]
    (hget : s'.faults.get? j = some (if p then { f with refs := f.refs + 1 } else f)) :
    ∃ f', s'.Stands c j l (refs + if p then 1 else 0) f' := by
  refine ⟨_, hget, ?_, ?_, ?_, ?_⟩ <;> split
  · exact h.link
  · exact h.link
  · exact h.context
  · exact h.context
  · exact h.cause
  · exact h.cause
  · show f.refs + 1 = _
    rw [h.refs, UInt32.ofNat_add]
    rfl
  · exact h.refs

/-- Nothing but the error right below the new one gets a reference. -/
theorem load_push {k j : Nat} (hj : j < k) (held : List FaultId) :
    load (k + 1) (k :: held) j = load k held j + if below k = some j then 1 else 0 := by
  obtain ⟨k, rfl⟩ := Nat.exists_eq_add_one_of_ne_zero (Nat.ne_zero_of_lt hj)
  have hbelow : below (k + 1) = some j ↔ k = j := Option.some_inj
  rw [load, load, List.count_cons_of_ne (Nat.ne_of_gt hj), if_pos (Nat.succ_lt_succ hj)]
  simp only [hbelow]
  split <;> split <;> omega

/-- A new error stands at the head of the registry. -/
theorem Site.receive (h : s.Site c es context) {fault : Fault} {node : Block} {e : FaultId}
    (hnext : s.faults.next = e) :
    (s.receive c fault (some node)).Site c (e :: es)
      { context with registry := ⟨e, node⟩ :: context.registry } := by
  obtain ⟨hbackends, hcontexts, -⟩ := receive_eq s c fault (some node)
  refine ⟨?_, h.valid, h.refs, ?_, congrArg _ h.registry⟩
  · rw [hcontexts, Arena.get?_modify, if_pos rfl, h.found, ← hnext]
    rfl
  · rw [Supplied, hbackends]
    exact h.supplied

/-- A tower with one more error, given what there is then: that the others stand as they did, and
that the new one stands on the top. -/
theorem Tower.push (h : s.Tower c links held) {s' : Store} {l : Link} {fault : Fault}
    (hsite : ∃ context, s'.Site c (List.range (links.length + 1)).reverse context)
    (hget : ∀ e, s'.faults.get? e = if e = links.length then some fault else
      (s.faults.get? e).map fun f =>
        if below links.length = some e then { f with refs := f.refs + 1 } else f)
    (hlink : fault.link = l) (hcontext : fault.context = some c)
    (hcause : fault.cause = below links.length) (hrefs : fault.refs = 1) :
    s'.Tower c (links ++ [l]) (links.length :: held) := by
  have hlength : (links ++ [l]).length = links.length + 1 := List.length_append
  constructor
  case site => exact hlength ▸ hsite
  case stands =>
    intro j l' hl
    rw [hlength]
    -- What stood there stands on; the place above all of them is the new error's.
    rcases Nat.lt_or_ge j links.length with hlt | hge
    · rw [List.getElem?_append_left hlt] at hl
      obtain ⟨f, hstands⟩ := h.stands j l' hl
      have hj := hget j
      rw [if_neg (Nat.ne_of_lt hlt), hstands.found, Option.map_some] at hj
      rw [load_push hlt]
      exact hstands.retain hj
    · have hj := (List.getElem?_eq_some_iff.1 hl).1
      rw [hlength] at hj
      obtain rfl : j = links.length := Nat.le_antisymm (Nat.le_of_lt_succ hj) hge
      rw [List.getElem?_concat_length] at hl
      obtain rfl := Option.some.inj hl
      have hfresh : held.count links.length = 0 :=
        List.count_eq_zero_of_not_mem fun hmem => Nat.lt_irrefl _ (h.handles _ hmem)
      refine ⟨fault, (hget _).trans (if_pos rfl), hlink, hcontext, hcause, ?_⟩
      rw [hrefs, load, List.count_cons_self, hfresh, if_neg (Nat.lt_irrefl _)]
      rfl
  case nothing =>
    intro j hj
    rw [hlength] at hj
    rw [hget, if_neg (Nat.ne_of_gt hj), h.nothing j (Nat.le_of_succ_le hj), Option.map_none]
  case handles =>
    intro e he
    rw [hlength]
    rcases List.mem_cons.1 he with rfl | he
    · exact Nat.lt_succ_self _
    · exact Nat.lt_succ_of_lt (h.handles e he)
  case covered =>
    intro top htop
    rw [hlength] at htop
    exact List.mem_cons.2 (.inl (Nat.succ.inj htop.symm))

/-- **One more error on top of a tower**, and a handle on it. -/
theorem Tower.create (h : s.Tower c links held) (hnext : s.faults.next = links.length)
    (hmodest : draft.Modest) :
    ∃ s', s.create c draft (below links.length) = (s', .ok links.length) ∧
      s'.Tower c (links ++ [draft.link]) (links.length :: held) ∧
      s'.faults.next = links.length + 1 ∧ s'.log = s.log := by
  obtain ⟨context, hsite⟩ := h.site
  obtain ⟨backend, fault, node, hwilling, hcreate, hlink, hcontext, hcause, hrefs⟩ :=
    hsite.create hmodest (below links.length)
  let s₁ := s.modifyBackend context.backend fun _ => backend
  have hsite₁ : s₁.Site c (List.range links.length).reverse context :=
    hsite.congr rfl (hsite.supplied.modifyBackend _ fun _ _ => hwilling)
  have hreceived : ∃ context, (s₁.receive c fault (some node)).Site c
      (List.range (links.length + 1)).reverse context := by
    rw [List.range_succ, List.reverse_append]
    exact ⟨_, hsite₁.receive hnext⟩
  have hlog := (receive_eq s₁ c fault (some node)).2.2 rfl
  have hget : ∀ e, (s₁.receive c fault (some node)).faults.get? e =
      if e = links.length then some fault else (s.faults.get? e).map fun f =>
        if below links.length = some e then { f with refs := f.refs + 1 } else f := by
    intro e
    rw [← hcause, ← hnext]
    exact get?_receive s₁ c fault (some node) e
  rw [hnext] at hcreate
  refine ⟨_, hcreate, h.push hreceived hget hlink hcontext hcause hrefs, ?_, hlog⟩
  exact (Arena.next_insert _ _).trans
    (congrArg (· + 1) ((next_foldl_retain fault.cause.toList s₁).trans hnext))

end Creating

/-! ## One handle less

If nobody else holds the top it goes, and what it held on the error below is given up next.  So a
release walks down to the first height that somebody holds.
-/

section Releasing

variable {s : Store} {c : ContextId} {es : List FaultId} {context : Context} {links : List Link}
  {held : List FaultId} {l : Link} {e : Nat} {f : Fault}

/-- What a destroyed error leaves of its context. -/
theorem Site.destroyed (h : s.Site c (e :: es) context) (hget : s.faults.get? e = some f)
    (hcontext : f.context = some c) :
    ∃ context, ((s.untrackOwn e f).destroy e f).Site c es context := by
  have hanchor : s.anchor e = some (c, e) := by
    rw [anchor, home, hget, Option.bind_some, hcontext, Option.map_some]
  obtain ⟨entry, rest, hentries, hentry, hrest⟩ := List.map_eq_cons_iff.1 h.registry
  have herase : (entry :: rest).eraseP (fun r => r.fault == e) = rest :=
    List.eraseP_cons_of_pos (beq_iff_eq.2 hentry)
  refine ⟨{ context with registry := rest }, ?_, h.valid, h.refs,
    h.supplied.credited (s.estate e) (by rw [destroyed_eq hget]), hrest⟩
  rw [destroyed_eq hget, hanchor]
  show (s.contexts.modify c _).get? c = _
  rw [Arena.get?_modify, if_pos rfl, h.found, Option.map_some, hentries, herase]

/-- A handle is a reference on what it holds. -/
theorem load_hold (k : Nat) (e : Nat) (held : List FaultId) (j : Nat) :
    load k (e :: held) j = load k held j + if e = j then 1 else 0 := by
  rw [load, load, List.count_cons]
  simp only [beq_iff_eq]
  omega

/-- Without the top, the reference that it held is like a handle.  So a tower is held by one more
until that is given up as well. -/
theorem load_pop {k j : Nat} (hj : j < k) (held : List FaultId) :
    load (k + 1) (k :: held) j = load k ((below k).toList ++ held) j := by
  rw [load_push hj]
  cases k with
  | zero => cases hj
  | succ k =>
      show load (k + 1) held j + (if some k = some j then 1 else 0) = load (k + 1) (k :: held) j
      rw [load_hold]
      simp only [Option.some_inj]

/-- Where there are other references, the tower stands as before.  One count is lowered, at the
height that was held. -/
theorem Tower.lessen (h : s.Tower c links (e :: held)) (hget : s.faults.get? e = some f)
    (hshared : f.refs ≠ 1) :
    (s.modifyFault e fun f => { f with refs := f.refs - 1 }).Tower c links held := by
  obtain ⟨context, hsite⟩ := h.site
  constructor
  case site => exact ⟨context, hsite.congr rfl hsite.supplied⟩
  case stands =>
    intro j l hl
    obtain ⟨g, hstands⟩ := h.stands j l hl
    rw [load_hold] at hstands
    by_cases hj : e = j
    · subst hj
      rw [if_pos rfl] at hstands
      refine ⟨{ g with refs := g.refs - 1 }, ?_, hstands.link, hstands.context, hstands.cause, ?_⟩
      · rw [Store.modifyFault, Arena.get?_modify, if_pos rfl, hstands.found, Option.map_some]
      · show g.refs - 1 = _
        rw [hstands.refs, ofNat_succ_sub_one]
    · rw [if_neg hj] at hstands
      refine ⟨g, ?_, hstands.link, hstands.context, hstands.cause, hstands.refs⟩
      rw [Store.modifyFault, Arena.get?_modify, if_neg hj, hstands.found]
  case nothing =>
    intro j hj
    rw [Store.modifyFault, Arena.get?_modify, h.nothing j hj, Option.map_none, ite_self]
  case handles => exact fun x hx => h.handles x (List.mem_cons_of_mem e hx)
  case covered =>
    intro top htop
    rcases List.mem_cons.1 (h.covered top htop) with rfl | hmem
    · -- Nothing stands on the top, so the other references on it are handles.
      obtain ⟨l, -, hstands⟩ := h.stands_of_get? hget
      refine List.count_pos_iff.1 (Nat.pos_of_ne_zero fun hnone => hshared ?_)
      rw [hstands.refs, load_hold, load, hnone, if_pos rfl, if_neg (by omega)]
      rfl
    · exact hmem

/-- An error on which there is no other reference is the top, and nobody else holds it.  Any other
error has the one that stands on it. -/
theorem Tower.eq_top (h : s.Tower c (links ++ [l]) (e :: held)) (hfew : held.length + 2 ≤ 2 ^ 32)
    (hget : s.faults.get? e = some f) (hlast : f.refs = 1) : e = links.length ∧ e ∉ held := by
  obtain ⟨l', -, hstands⟩ := h.stands_of_get? hget
  have hbound := h.handles e List.mem_cons_self
  rw [List.length_append, List.length_singleton] at hbound hstands
  have hone : load (links.length + 1) (e :: held) e = 1 := by
    refine eq_one_of_ofNat_eq_one ?_ (hstands.refs.symm.trans hlast)
    have hcount : held.count e ≤ held.length := List.count_le_length
    rw [load_hold, load, if_pos rfl]
    split <;> omega
  rw [load_hold, load, if_pos rfl] at hone
  rw [← List.count_eq_zero]
  split at hone <;> omega

/-- Without it, the reference on the error below is left over. -/
theorem Tower.pop (h : s.Tower c (links ++ [l]) (links.length :: held))
    (hget : s.faults.get? links.length = some f) (hfree : links.length ∉ held) :
    ((s.untrackOwn links.length f).destroy links.length f).Tower c links
      ((below links.length).toList ++ held) := by
  have hlength : (links ++ [l]).length = links.length + 1 := List.length_append
  obtain ⟨l', -, htop⟩ := h.stands_of_get? hget
  obtain ⟨context, hsite⟩ := h.site
  rw [hlength, List.range_succ, List.reverse_append] at hsite
  -- The top is gone, and nothing else has changed.
  have hfaults : ∀ j, ((s.untrackOwn links.length f).destroy links.length f).faults.get? j =
      if links.length = j then none else s.faults.get? j := by
    intro j
    rw [destroyed_eq hget, Arena.get?_erase]
  constructor
  case site => exact hsite.destroyed hget htop.context
  case stands =>
    intro j l' hl
    have hj := (List.getElem?_eq_some_iff.1 hl).1
    obtain ⟨g, hstands⟩ := h.stands j l' ((List.getElem?_append_left hj).trans hl)
    rw [hlength, load_pop hj] at hstands
    refine ⟨g, ?_, hstands.link, hstands.context, hstands.cause, hstands.refs⟩
    rw [hfaults, if_neg (Nat.ne_of_gt hj), hstands.found]
  case nothing =>
    intro j hj
    rw [hfaults]
    split
    · rfl
    · next hne => exact h.nothing j (by omega)
  case handles =>
    intro e he
    -- The reference that the top held is one more handle on the error below it.
    rcases List.mem_append.1 he with hbelow | he
    · cases hk : links.length with
      | zero => rw [hk] at hbelow; cases hbelow
      | succ k =>
          rw [hk] at hbelow
          obtain rfl := List.mem_singleton.1 hbelow
          exact Nat.lt_succ_self _
    · have hlt := h.handles e (List.mem_cons_of_mem _ he)
      have hne : e ≠ links.length := fun heq => hfree (heq ▸ he)
      omega
  case covered =>
    intro top htop
    rw [htop]
    exact List.mem_append_left _ (List.mem_singleton_self top)

/-- **A handle on a tower is given up.** What stands then is held by the others.  The induction is
on the links: if the error goes, its reference on the one below is given up like a handle. -/
theorem Tower.release (h : s.Tower c links (e :: held)) (hfew : held.length + 2 ≤ 2 ^ 32) :
    ∃ links', links' <+: links ∧ (s.release e).Tower c links' held := by
  induction links using List.reverseRecOn generalizing s e with
  | nil => exact absurd (h.handles e List.mem_cons_self) (Nat.not_lt_zero e)
  | append_singleton links l ih =>
      obtain ⟨f, hstands⟩ :=
        h.stands e _ (List.getElem?_eq_getElem (h.handles e List.mem_cons_self))
      by_cases hlast : f.refs = 1
      · obtain ⟨rfl, hfree⟩ := h.eq_top hfew hstands.found hlast
        have hpopped := h.pop hstands.found hfree
        have hprefix := List.prefix_append links [l]
        rw [release_of_last h.older hstands.found hlast, hstands.cause]
        cases hk : links.length with
        | zero =>
            rw [hk] at hpopped
            exact ⟨links, hprefix, hpopped⟩
        | succ k =>
            rw [hk] at hpopped
            obtain ⟨links', hless, hreleased⟩ := ih hpopped
            exact ⟨links', hless.trans hprefix, hreleased⟩
      · rw [release_of_shared hstands.found hlast]
        exact ⟨_, List.prefix_rfl, h.lessen hstands.found hlast⟩

/-- A release gives out no keys, and says nothing to the log.  The next error still gets the height
of the tower only if nothing was taken off it. -/
theorem Tower.next_release (h : s.Tower c links held) (e : FaultId) :
    (s.release e).faults.next = s.faults.next ∧ (s.release e).log = s.log := by
  refine release_induction (P := fun s e =>
    (s.release e).faults.next = s.faults.next ∧ (s.release e).log = s.log) ?_ ?_ ?_ h.older e
  · intro s e hget
    rw [release_of_absent hget]
    exact ⟨rfl, rfl⟩
  · intro s e f _ hget hshared
    rw [release_of_shared hget hshared]
    exact ⟨Arena.next_modify _ _ _, rfl⟩
  · intro s e f older hget hlast ih
    rw [release_of_last older hget hlast]
    have hdestroyed : ((s.untrackOwn e f).destroy e f).faults.next = s.faults.next ∧
        ((s.untrackOwn e f).destroy e f).log = s.log := by
      rw [destroyed_eq hget]
      exact ⟨Arena.next_erase _ _, rfl⟩
    cases hcause : f.cause with
    | none => exact hdestroyed
    | some cause =>
        obtain ⟨hnext, hlog⟩ := ih cause hcause
        exact ⟨hnext.trans hdestroyed.1, hlog.trans hdestroyed.2⟩

end Releasing

/-! ## From the ground up

A tower that was built in an empty store and never read.  Its keys are its heights because nothing
else was created, and its errors have no documents.
-/

/-- A tower that was raised in an empty store in which nothing was read: its height is the next key,
and its errors have no documents. -/
structure Raised (s : Store) (c : ContextId) (links : List Link) (held : List FaultId) : Prop where
  tower : s.Tower c links held
  next : s.faults.next = links.length
  unread : ({} : Store).Unread s

section Raising

variable {s : Store} {c : ContextId} {links : List Link} {held : List FaultId} {draft : Draft}

/-- A context over such a backend is a site without errors. -/
theorem Site.addContext {context : Context} (hvalid : context.valid = true)
    (hrefs : context.refs = 1) (hsupplied : s.Supplied context.backend)
    (hregistry : context.registry = []) :
    (s.addContext context).Site s.contexts.next [] context where
  found := by rw [Store.addContext, Arena.get?_insert, if_pos rfl]
  valid := hvalid
  refs := hrefs
  supplied := hsupplied
  registry := by rw [hregistry, List.map_nil]

/-- A tower that was not begun. -/
theorem tower_nil (hsite : ∃ context, s.Site c [] context) (hempty : s.faults = {}) :
    s.Tower c [] [] where
  site := hsite
  stands j l hl := by
    rw [List.getElem?_nil] at hl
    cases hl
  nothing j _ := by rw [hempty, Arena.get?_empty]
  handles _ he := absurd he List.not_mem_nil
  covered _ htop := absurd htop (Nat.succ_ne_zero _).symm

/-- **A context begins with nothing.** -/
theorem Supplied.createContext {b : BackendId} (h : s.Supplied b) {settings : Settings}
    (hvalid : settings.validate = .ok ()) (hempty : s.faults = {})
    (hunread : ({} : Store).Unread s) :
    ∃ s', s.createContext b settings = (s', .ok s.contexts.next) ∧
      s'.Raised s.contexts.next [] [] ∧
      s'.log = s.log.emit .debug contextOrigin "context created" := by
  obtain ⟨backend, hb, hwilling⟩ := h
  have hgranted := hwilling.grants (backend.requests + 1) .context (by decide)
  let s₁ := s.modifyBackend b fun _ => backend.after 1 [.granted (backend.upcoming 1 .context)]
  have hserved : s₁.Supplied b :=
    Supplied.modifyBackend ⟨backend, hb, hwilling⟩ b fun _ _ => hwilling.after _ _
  let context : Context :=
    { generation := Context.initialGeneration, backend := b, block := backend.upcoming 1 .context }
  have hcreate : s.createContext b settings =
      ((s₁.addContext context).emit .debug contextOrigin "context created",
        .ok s.contexts.next) := by
    unfold Store.createContext createContextWith
    rw [hvalid, requestWith_of_not_refuses hb hwilling.calm hgranted]
    rfl
  have hraised := hunread.createContext b settings
  rw [hcreate] at hraised
  have hsite : (s₁.addContext context).Site s.contexts.next [] context :=
    .addContext rfl rfl hserved rfl
  refine ⟨_, hcreate, ⟨tower_nil ⟨context, hsite.congr rfl hsite.supplied⟩ hempty, ?_, hraised⟩,
    rfl⟩
  show s.faults.next = 0
  rw [hempty]
  rfl

/-- The next error of a raised tower has the next key. -/
theorem Raised.create (h : s.Raised c links held) (hmodest : draft.Modest) :
    ∃ s', s.create c draft (below links.length) = (s', .ok links.length) ∧
      s'.Raised c (links ++ [draft.link]) (links.length :: held) ∧ s'.log = s.log := by
  obtain ⟨s', hcreate, htower, hnext, hlog⟩ := h.tower.create h.next hmodest
  have hunread := h.unread.create c draft (below links.length)
  rw [hcreate] at hunread
  refine ⟨s', hcreate, ⟨htower, ?_, hunread⟩, hlog⟩
  rw [hnext, List.length_append, List.length_singleton]

/-- **One error takes the place of another**: it is created on top, and the handle on what is now
below it is given up, which leaves the tower as it is. -/
theorem Raised.wrap {top : FaultId} (h : s.Raised c links (top :: held))
    (htop : links.length = top + 1) (hfew : held.length + 3 ≤ 2 ^ 32) (hmodest : draft.Modest) :
    ∃ s', s.create c draft (some top) = (s', .ok (top + 1)) ∧
      (s'.release top).Raised c (links ++ [draft.link]) ((top + 1) :: held) ∧
      (s'.release top).log = s.log := by
  have hbelow : below links.length = some top := by rw [htop]; rfl
  obtain ⟨s', hcreate, hraised, hlog⟩ := h.create hmodest
  rw [hbelow, htop] at hcreate
  rw [htop] at hraised
  have htower := hraised.tower.perm (List.Perm.swap top (top + 1) held)
  obtain ⟨hnext, hsame⟩ := htower.next_release top
  obtain ⟨links', hprefix, hreleased⟩ := htower.release hfew
  -- The new top is held, so that nothing fell.
  have hlength : (links ++ [draft.link]).length = top + 2 := by
    rw [List.length_append, htop, List.length_singleton]
  have hheld := hreleased.handles (top + 1) List.mem_cons_self
  obtain rfl := hprefix.eq_of_length_le (by omega)
  exact ⟨s', hcreate, ⟨hreleased, hnext.trans hraised.next, hraised.unread.release top⟩,
    hsame.trans hlog⟩

end Raising

/-! ## What is read of a tower

Once it is up, a tower is read, copied and let go, and what comes of each is known.
-/

section Reading

variable {s : Store} {c : ContextId} {links : List Link} {held : List FaultId} {top : FaultId}
  {chain : Chain}

/-- **The first reading of the top** renders the document of its chain, and the next one finds
it. -/
theorem Raised.read (h : s.Raised c links held) (htop : links.length = top + 1)
    (hchain : chain.links = links.reverse)
    (hroom : (Document.document .granted (some chain)).utf8ByteSize + 1 < ordinaryRoom) :
    ∃ s' cached, s.read top {} = (s', .document cached) ∧
      cached.text.text = Document.document .granted (some chain) ∧
      s'.Tower c links held ∧ s'.log = s.log ∧
      ∀ visit, s'.readWith visit top {} = (s', .document cached) := by
  obtain ⟨context, hsite⟩ := h.tower.site
  obtain ⟨backend, hb, hwilling⟩ := hsite.supplied
  obtain ⟨f, hstands⟩ :=
    h.tower.stands top _ (List.getElem?_eq_getElem (htop ▸ Nat.lt_succ_self top))
  obtain ⟨chain', hchain', hlinks⟩ := h.tower.exists_chain htop
  obtain rfl : chain = chain' := by
    rw [← hchain] at hlinks
    exact Option.some.inj ((congrArg Chain.ofLinks? hlinks.symm))
  -- Nothing was read before, so there is no document to be found.
  have hnone : f.cache = none := by
    rcases h.unread.faults hstands.found with ⟨f₀, hget, -⟩ | hnone
    · rw [Arena.get?_empty] at hget
      cases hget
    · exact Option.toList_eq_nil_iff.1 (List.append_eq_nil_iff.1 hnone).1
  have hcontext : f.context.bind s.contexts.get? = some context := by
    rw [hstands.context, Option.bind_some, hsite.found]
  obtain ⟨own, hown⟩ := hwilling.exists_rendered context.shownGeneration hroom
  obtain ⟨hgeneration, htext⟩ := Backend.text_of_rendered hown
  have hread : s.read top {} =
      (s.renew top context.backend (backend.rendered context.shownGeneration chain),
        .document own) := by
    have hreading := h.unread.quiet.readWith_of_stale hstands.found hcontext hb
      (fun cached hcached => by rw [hnone] at hcached; cases hcached) hchain'
      (Nat.le_trans (Nat.le_of_lt hroom) (by decide)) (reader s.waiting)
    rw [hown] at hreading
    exact hreading
  refine ⟨_, own, hread, htext, ?_, rfl, fun visit => ?_⟩
  · exact (h.tower.modifyBackend context.backend fun _ _ => hwilling.rendered _ _).modifyFault top
      fun _ => ⟨rfl, rfl, rfl, rfl⟩
  · have hcached : (s.renew top context.backend
        (backend.rendered context.shownGeneration chain)).faults.get? top =
        some { f with cache := some own, retired := f.cache.toList ++ f.retired } := by
      rw [renew, hown]
      refine (Arena.get?_modify _ _ _ _).trans ?_
      rw [if_pos rfl]
      exact congrArg (Option.map _) hstands.found
    exact readWith_of_current hcached hcontext rfl hgeneration visit {}

/-- **A copy of a document in use.** -/
theorem Tower.copyDocument (h : s.Tower c links held) {e : FaultId} {reading : Reading}
    (hagain : ∀ visit, s.readWith visit e {} = (s, reading))
    (hroom : reading.text.utf8ByteSize + 1 < ordinaryRoom) :
    ∃ s' copy, s.copyDocument c e {} = (s', .ok copy) ∧ s'.Tower c links held ∧ s'.log = s.log ∧
      copy.text = reading.text ∧ copy.buffer.length = reading.text.utf8ByteSize := by
  obtain ⟨context, hsite⟩ := h.site
  obtain ⟨backend, hb, hwilling⟩ := hsite.supplied
  have hlayout : Layout.buffer? reading.text.toUTF8.size = some (copyLayout reading.text) :=
    Layout.buffer?_eq_some_iff.2 ⟨Nat.le_trans (Nat.le_of_lt hroom) (by decide), rfl⟩
  have hgranted := hwilling.grants (backend.requests + 1) (copyLayout reading.text) hroom
  have hcopy : s.copyDocument c e {} =
      (s.modifyBackend context.backend fun _ =>
          backend.after 1 [.granted (backend.upcoming 1 (copyLayout reading.text))],
        .ok (copyIn context.backend (backend.upcoming 1 (copyLayout reading.text))
          reading.text)) := by
    unfold Store.copyDocument copyDocumentWith
    rw [hsite.found]
    dsimp only
    rw [if_pos hsite.valid, hagain]
    dsimp only
    rw [copyTextWith_of_layout hlayout, requestWith_of_not_refuses hb hwilling.calm hgranted]
  exact ⟨_, _, hcopy, h.modifyBackend _ fun _ _ => hwilling.after _ _, rfl,
    Memory.Buffer.text_filled _ _, rfl⟩

/-- All errors of a tower are alive, and the context counts them. -/
theorem Tower.live_eq (h : s.Tower c links held) :
    ((s.contexts.get? c).map Context.live).getD 0 = links.length := by
  obtain ⟨context, hsite⟩ := h.site
  have hregistry := congrArg List.length hsite.registry
  rw [List.length_map, List.length_reverse, List.length_range] at hregistry
  rw [hsite.found, Option.map_some, Option.getD_some, Context.live, hregistry]

/-- **Once everybody has let go of a tower**, its context can be given up, and nothing is left of
it. -/
theorem Tower.takenDown (h : s.Tower c links held) (hfew : held.length + 1 ≤ 2 ^ 32)
    (diagnostics : Bool) :
    ∃ s', (held.foldl Store.release s).releaseContext c diagnostics = (s', .destroyed) ∧
      s'.log = s.log.emit .debug contextOrigin "context destroyed" := by
  induction held generalizing s links with
  | nil =>
      obtain ⟨context, hsite, hnone⟩ := h.registry_eq_nil
      have houtcome : context.outcome diagnostics = .destroyed :=
        Context.outcome_eq_destroyed_iff.2 ⟨hsite.valid, hsite.refs, hnone⟩
      have hrelease := releaseContext_released hsite.found diagnostics
      rw [houtcome] at hrelease
      exact ⟨_, hrelease, rfl⟩
  | cons e held ih =>
      obtain ⟨links', -, hreleased⟩ := h.release hfew
      obtain ⟨s', hdestroyed, hlog⟩ := ih hreleased (Nat.le_of_succ_le hfew)
      refine ⟨s', hdestroyed, ?_⟩
      rw [hlog, (h.next_release e).2]

end Reading

end Store

end FaultChain

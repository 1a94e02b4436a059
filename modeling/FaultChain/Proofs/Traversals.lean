import FaultChain.Proofs.Decoding
import FaultChain.Proofs.Handles
import FaultChain.Proofs.Lasting
import FaultChain.Proofs.Seniority
import Mathlib.Data.List.Infix

/-!
# Who follows causes, and how far

An error and its causes are followed in four ways: `Store.ancestry` counts down, `Store.walk` asks a
visitor before it goes on, `Store.rootCause` takes the last of an ancestry, and a document is
written for a chain whose depth was measured before, onto a stack of that depth.  All four stop at
the same error (`Session.traversals_of_run`).

### What is load-bearing

`Store.Causes` says which errors there are to be met, without a bound and without an order on keys.
Each bound is compared with it: a traversal meets so many of these errors from the front
(`Causes.ancestryFrom_eq`, `Causes.exists_met`), and a document has so many nodes
(`Json.nodes_ofLinks`).  That a chain ends at all is a matter of age: a cause is older than what it
explains (`Store.exists_causes`).

### Where the four of them differ

The bound is not the same thing in all four.  Counting down, it is a number of errors.  For a
visitor it is a number of visits, and he may have enough before.  For a document it is a number of
links, and the first one that is left out is shown as the marker.  And the root cause is the last
error that is met, which is the root only of a chain that is not longer than the bound.
`traversals_of_run` says of each what it does with the same chain of causes, so that they can be
compared at all; that they agree is then a fact about prefixes of one list.
-/

namespace FaultChain

namespace Store

/-! ## Chains of causes

The causes of an error as a list, with nothing else about it.  Such a list is unique, and it exists
if causes are there and older.
-/

/-- **An error and its successive causes**, all of them: each is there and has the next one as its
cause, and the last one has none. -/
inductive Causes (s : Store) : Option FaultId → List FaultId → Prop
  | nil : Causes s none []
  | cons {e : FaultId} {f : Fault} {es : List FaultId} :
      s.faults.get? e = some f → Causes s f.cause es → Causes s (some e) (e :: es)

section Causes

variable {s : Store} {top : Option FaultId} {es : List FaultId} {e : FaultId} {f : Fault}

/-- The causes of an error are a matter of fact, so whoever follows them to the end finds the
same. -/
theorem Causes.unique {es' : List FaultId} (h : s.Causes top es) (h' : s.Causes top es') :
    es = es' := by
  induction h generalizing es' with
  | nil =>
      cases h'
      rfl
  | cons hget _ ih =>
      cases h' with
      | cons hget' hcauses' =>
          obtain rfl := Option.some.inj (hget.symm.trans hget')
          rw [ih hcauses']

/-- All of them are there. -/
theorem Causes.get? (h : s.Causes top es) : ∀ x ∈ es, ∃ g, s.faults.get? x = some g := by
  induction h with
  | nil => exact fun x hx => absurd hx List.not_mem_nil
  | cons hget _ ih =>
      intro x hx
      rcases List.mem_cons.1 hx with rfl | hx
      · exact ⟨_, hget⟩
      · exact ih x hx

/-- If causes are there, and are older than what they explain, every chain ends.  The induction is
on the key. -/
theorem exists_causes
    (older : ∀ {e f cause}, s.faults.get? e = some f → f.cause = some cause → cause < e)
    (hlive : ∀ {e f cause}, s.faults.get? e = some f → f.cause = some cause →
      ∃ g, s.faults.get? cause = some g) (hget : s.faults.get? e = some f) :
    ∃ es, s.Causes (some e) es := by
  induction e using Nat.strongRecOn generalizing f with
  | _ e ih =>
    cases hcause : f.cause with
    | none => exact ⟨[e], .cons hget (hcause ▸ .nil)⟩
    | some cause =>
        obtain ⟨g, hcauses⟩ := hlive hget hcause
        obtain ⟨es, hes⟩ := ih cause (older hget hcause) hcauses
        exact ⟨e :: es, .cons hget (hcause ▸ hes)⟩

/-- The lineage of an error is the chain of its causes. -/
theorem Causes.lineage_eq
    (older : ∀ {e f cause}, s.faults.get? e = some f → f.cause = some cause → cause < e)
    (h : s.Causes top es) : (top.map s.lineage).getD [] = es := by
  induction h with
  | nil => rfl
  | cons hget _ ih =>
      rw [Option.map_some, Option.getD_some, lineage_of_get? hget fun _ => older hget, ih]

/-- Counting down, one meets so many of them. -/
theorem Causes.ancestryFrom_eq (h : s.Causes top es) (bound : Nat) :
    s.ancestryFrom bound top = es.take bound := by
  induction h generalizing bound with
  | nil => cases bound <;> rfl
  | cons hget _ ih =>
      cases bound with
      | zero => rfl
      | succ bound =>
          rw [ancestryFrom, hget]
          exact congrArg _ (ih bound)

/-- The last error of a part at the front of a chain has a cause if the chain goes on. -/
theorem Causes.cause_getLast? (h : s.Causes top es) {bound : Nat} {x : FaultId}
    (hx : (es.take bound).getLast? = some x) :
    ∃ g, s.faults.get? x = some g ∧ (g.cause = none ↔ es.length ≤ bound) := by
  induction h generalizing bound with
  | nil => cases bound <;> cases hx
  | @cons e f es hget hcauses ih =>
      cases bound with
      | zero => cases hx
      | succ bound =>
          cases hshown : es.take bound with
          | nil =>
              rw [List.take_succ_cons, hshown] at hx
              obtain rfl := Option.some.inj hx
              refine ⟨f, hget, ?_⟩
              generalize f.cause = cause at hcauses
              cases hcauses with
              | nil => simp
              | cons _ _ => cases bound <;> simp_all
          | cons y ys =>
              rw [List.take_succ_cons, hshown, List.getLast?_cons_cons, ← hshown] at hx
              obtain ⟨g, hg, hend⟩ := ih hx
              exact ⟨g, hg, by rw [hend, List.length_cons, Nat.succ_le_succ_iff]⟩

end Causes

/-! ## Visitors

A visitor has a state and may stop.  Whom he meets is told by running him along the list without a
store, so that the walk through the store can be compared with it.
-/

section Visitors

variable {σ : Type}

/-- What a visitor makes of an error. -/
def verdict (s : Store) (visit : σ → FaultId → Fault → σ × Bool) (state : σ) (e : FaultId) :
    σ × Bool :=
  match s.faults.get? e with
  | some f => visit state e f
  | none => (state, false)

/-- Where a visitor is after some visits. -/
def after (s : Store) (visit : σ → FaultId → Fault → σ × Bool) (state : σ)
    (es : List FaultId) : σ :=
  es.foldl (fun state e => (s.verdict visit state e).1) state

/-- A visitor who also writes down whom he visits. -/
def recording (visit : σ → FaultId → Fault → σ × Bool) :
    σ × List FaultId → FaultId → Fault → (σ × List FaultId) × Bool :=
  fun (state, met) e f => (((visit state e f).1, met ++ [e]), (visit state e f).2)

/-- Whether a visitor meets the errors at the front of a list up to the first one at which he has
enough, that one included: an error is among them if he has not had enough at any before it.  The
state is what he has made of these. -/
def MetUntilEnough (s : Store) (visit : σ → FaultId → Fault → σ × Bool) (state : σ)
    (es met : List FaultId) : Prop :=
  met <+: es ∧ ∀ front x, front ++ [x] <+: es → (front ++ [x] <+: met ↔
    ∀ earlier y, earlier ++ [y] <+: front →
      (s.verdict visit (s.after visit state earlier) y).2 = true)

variable {s : Store} {visit : σ → FaultId → Fault → σ × Bool} {state : σ} {es met : List FaultId}
  {e : FaultId}

/-- Where there is nobody, nobody is met. -/
theorem metUntilEnough_nil : s.MetUntilEnough visit state [] [] := by
  refine ⟨List.prefix_rfl, fun front x hprefix => ?_⟩
  simp at hprefix

/-- He may have enough at the first. -/
theorem metUntilEnough_of_enough (h : (s.verdict visit state e).2 = false) :
    s.MetUntilEnough visit state (e :: es) [e] := by
  refine ⟨by simp, fun front x hprefix => ?_⟩
  cases front with
  | nil =>
      obtain ⟨rfl, -⟩ := List.cons_prefix_cons.1 hprefix
      simp
  | cons y front =>
      obtain ⟨rfl, -⟩ := List.cons_prefix_cons.1 hprefix
      refine ⟨fun hmet => ?_, fun hall => ?_⟩
      · simp at hmet
      · have hfirst := hall [] y (by simp)
        rw [after, List.foldl_nil, h] at hfirst
        cases hfirst

/-- Or he goes on. -/
theorem MetUntilEnough.cons (hmore : (s.verdict visit state e).2 = true)
    (h : s.MetUntilEnough visit (s.verdict visit state e).1 es met) :
    s.MetUntilEnough visit state (e :: es) (e :: met) := by
  refine ⟨(List.prefix_cons_inj e).2 h.1, fun front x hprefix => ?_⟩
  cases front with
  | nil =>
      obtain ⟨rfl, -⟩ := List.cons_prefix_cons.1 hprefix
      simp
  | cons y front =>
      obtain ⟨rfl, hrest⟩ := List.cons_prefix_cons.1 hprefix
      rw [List.cons_append, List.prefix_cons_inj, h.2 front x hrest]
      constructor
      · rintro hall (_ | ⟨z, earlier⟩) w hearlier
        · obtain ⟨rfl, -⟩ := List.cons_prefix_cons.1 hearlier
          exact hmore
        · rw [List.cons_append, List.cons_prefix_cons] at hearlier
          obtain ⟨rfl, hearlier⟩ := hearlier
          exact hall earlier w hearlier
      · exact fun hall earlier w hearlier => hall (y :: earlier) w (by simpa using hearlier)

/-- **A walk** meets the errors up to the first one at which the visitor has enough, as far as it is
allowed to go.  The visitor is arbitrary, with a state of any type, so whom he meets cannot be told
without him; that it is a front of the chain can. -/
theorem Causes.exists_met {top : Option FaultId} (h : s.Causes top es)
    (visit : σ → FaultId → Fault → σ × Bool) (bound : Nat) (state : σ) (before : List FaultId) :
    ∃ met, s.MetUntilEnough visit state (es.take bound) met ∧
      s.walkFrom visit bound top state = s.after visit state met ∧
      s.walkFrom (recording visit) bound top (state, before) =
        (s.after visit state met, before ++ met) := by
  -- Along the chain; the visitor with a record is followed at the same time, as he meets the same
  -- errors.
  induction h generalizing bound state before with
  | nil =>
      refine ⟨[], by simpa using metUntilEnough_nil, ?_, ?_⟩
      · cases bound <;> rfl
      · rw [List.append_nil]
        cases bound <;> rfl
  | @cons e f es hget hcauses ih =>
      cases bound with
      | zero =>
          refine ⟨[], metUntilEnough_nil, rfl, ?_⟩
          rw [List.append_nil]
          rfl
      | succ bound =>
          have hverdict : s.verdict visit state e = visit state e f := by
            rw [verdict, hget]
          rw [walkFrom, walkFrom, hget]
          dsimp only [recording]
          rcases hvisit : visit state e f with ⟨next, _ | _⟩
          · rw [hvisit] at hverdict
            refine ⟨[e], metUntilEnough_of_enough (by rw [hverdict]), ?_, ?_⟩
            · simp [after, hverdict]
            · simp [after, hverdict]
          · rw [hvisit] at hverdict
            obtain ⟨met, hmet, hwalk, hrecord⟩ := ih bound next (before ++ [e])
            have hafter : s.after visit state (e :: met) = s.after visit next met := by
              rw [after, List.foldl_cons, hverdict, after]
            refine ⟨e :: met, .cons (by rw [hverdict]) (by rwa [hverdict]), ?_, ?_⟩
            · rw [hafter, ← hwalk]
            · rw [hafter]
              simpa using hrecord

end Visitors

end Store

/-! ## Nodes of a document

A document as a value is an object within an object.  Its nodes are the objects along the causes,
and a traversal of it is the list of them.
-/

namespace Json

/-- The objects along the causes of an object, outermost first, each without its cause. -/
def nodes : Json → List (List (String × Json))
  | .object members =>
    members.filter (·.1 ≠ "cause") ::
      members.attach.flatMap fun m => if m.1.1 = "cause" then nodes m.1.2 else []
  | _ => []
termination_by v => sizeOf v
decreasing_by
  obtain ⟨⟨key, v⟩, hmem⟩ := m
  have hmember := List.sizeOf_lt_of_mem hmem
  simp only [Json.object.sizeOf_spec, Prod.mk.sizeOf_spec] at hmember ⊢
  omega

/-- The nodes of an object: itself without its cause, and the nodes of that. -/
theorem nodes_object (members : List (String × Json)) :
    nodes (.object members) = members.filter (·.1 ≠ "cause") ::
      members.flatMap fun m => if m.1 = "cause" then nodes m.2 else [] := by
  have hattach := List.flatMap_map Subtype.val
    (fun m : String × Json => if m.1 = "cause" then nodes m.2 else []) members.attach
  rw [List.attach_map_subtype_val] at hattach
  rw [nodes, hattach]

/-- No member of a link is named as a cause is. -/
theorem key_linkMembers (l : Link) : ∀ m ∈ linkMembers l, m.1 ≠ "cause" := by
  obtain ⟨domain, code, flags, message, _ | ⟨file, line, _ | func⟩⟩ := l <;>
    simp [linkMembers, locationMembers]

/-- An object that begins with a link has it as its outermost node. -/
theorem nodes_link (l : Link) {tail : List (String × Json)} (htail : ∀ m ∈ tail, m.1 = "cause") :
    nodes (.object (linkMembers l ++ tail)) =
      linkMembers l :: tail.flatMap fun m => nodes m.2 := by
  have hlink := key_linkMembers l
  have hown : (linkMembers l).filter (·.1 ≠ "cause") = linkMembers l :=
    List.filter_eq_self.2 fun m hm => decide_eq_true (hlink m hm)
  have hrest : tail.filter (·.1 ≠ "cause") = [] :=
    List.filter_eq_nil_iff.2 fun m hm => by simp [htail m hm]
  have hnone : ((linkMembers l).flatMap fun m => if m.1 = "cause" then nodes m.2 else []) = [] :=
    List.flatMap_eq_nil_iff.2 fun m hm => if_neg (hlink m hm)
  have hcause : (tail.flatMap fun m => if m.1 = "cause" then nodes m.2 else []) =
      tail.flatMap fun m => nodes m.2 :=
    List.flatMap_congr fun m hm => if_pos (htail m hm)
  rw [nodes_object, List.filter_append, List.flatMap_append, hown, hrest, hnone, hcause,
    List.append_nil, List.nil_append]

/-- **The nodes of a document** are the links that are written, and the marker if some are not. -/
theorem nodes_ofLinks (budget : Nat) (top : Link) (causes : List Link) :
    nodes (ofLinks budget top causes) =
      ((top :: causes).take (budget + 1)).map linkMembers ++
        if causes.length ≤ budget then [] else [[("truncated", .bool true)]] := by
  have hcause : ∀ v : Json, ∀ m ∈ [("cause", v)], m.1 = "cause" := by simp
  induction causes generalizing budget top with
  | nil =>
      rw [ofLinks, nodes_link top (by simp)]
      simp
  | cons cause rest ih =>
      cases budget with
      | zero =>
          have hmarker : nodes truncated = [[("truncated", .bool true)]] := by
            simp [truncated, nodes_object]
          rw [ofLinks, nodes_link top (hcause _)]
          simp [hmarker]
      | succ more =>
          rw [ofLinks, nodes_link top (hcause _), List.flatMap_singleton, ih]
          simp

end Json

namespace Chain

/-- A chain has the links that it was made of. -/
theorem links_of_ofLinks? {l : List Link} {chain : Chain} (h : ofLinks? l = some chain) :
    chain.links = l := by
  cases l with
  | nil => cases h
  | cons top causes =>
      obtain rfl := Option.some.inj h
      rfl

/-- The nodes of the document of a chain are its links, as many as are written, and the marker if
there are more. -/
theorem nodes_ofChain (chain : Chain) {limit : Nat} (hpos : 0 < limit) :
    (Json.ofChain limit chain).nodes = (chain.links.take limit).map Json.linkMembers ++
      if chain.length ≤ limit then [] else [[("truncated", .bool true)]] := by
  obtain ⟨budget, rfl⟩ : ∃ budget, limit = budget + 1 := ⟨limit - 1, by omega⟩
  rw [Json.ofChain, Nat.add_sub_cancel, Json.nodes_ofLinks]
  simp [links, length]

end Chain

namespace Store

section Causes

variable {s : Store} {top : Option FaultId} {es : List FaultId} {e : FaultId}

/-- Every error along the causes has a link. -/
theorem Causes.map_link? (h : s.Causes top es) :
    (es.filterMap s.link?).map some = es.map s.link? := by
  induction h with
  | nil => rfl
  | @cons e f es hget _ ih =>
      have hlink : s.link? e = some f.link := by
        rw [link?, hget, Option.map_some]
      rw [List.filterMap_cons_some hlink, List.map_cons, List.map_cons, hlink, ih]

/-- The chain of an error is that of its causes. -/
theorem Causes.exists_chain
    (older : ∀ {e f cause}, s.faults.get? e = some f → f.cause = some cause → cause < e)
    (h : s.Causes (some e) es) :
    ∃ chain, s.chain? e = some chain ∧ chain.links.map some = es.map s.link? := by
  have hlineage : s.lineage e = es := h.lineage_eq older
  obtain ⟨f, hget⟩ : ∃ f, s.faults.get? e = some f := by
    cases h with
    | cons hget _ => exact ⟨_, hget⟩
  obtain ⟨chain, hchain⟩ := exists_chain? hget
  refine ⟨chain, hchain, ?_⟩
  rw [chain?, hlineage] at hchain
  rw [Chain.links_of_ofLinks? hchain, h.map_link?]

end Causes

end Store

namespace Session

open Document (depthLimit)

/-- **All traversals agree** on every chain of causes, over every run.

* As long as references can be counted, an error that is there has one chain of causes, and it ends.
* The ancestry of an error is its chain as far as the depth limit.
* The root cause is the last of the ancestry, and has a cause of its own if and only if the ancestry
  is not all of the chain.
* A visitor meets the ancestry in order, up to the first error at which he has enough.
* The document, which every window with room for it holds if frames can be reserved, is to be read
  as one value.  The nodes of this value are the links of the ancestry, and after them the marker if
  and only if the ancestry is not all of the chain; causes are then reported as left out. -/
theorem traversals_of_run (log : Log) (operations : List Operation) :
    let s := ((start log).run operations).1.store
    ((∀ operation ∈ operations, operation.isHook = false) →
      Throughout Fits (start log) operations →
      ∀ e f, s.faults.get? e = some f → ∃! es, s.Causes (some e) es) ∧
    ∀ e es, s.Causes (some e) es →
      s.ancestry e = es.take depthLimit ∧
      (s.ancestry e).getLast? = some (s.rootCause e) ∧
      (∃ g, s.faults.get? (s.rootCause e) = some g ∧ (g.cause = none ↔ s.ancestry e = es)) ∧
      (∀ (σ : Type) (visit : σ → FaultId → Fault → σ × Bool) (state : σ), ∃ met,
        s.MetUntilEnough visit state (s.ancestry e) met ∧
        s.walk (some e) visit state = s.after visit state met ∧
        s.walk (some e) (Store.recording visit) (state, []) = (s.after visit state met, met)) ∧
      ∃ chain, s.chain? e = some chain ∧
        let text := Document.ofChain depthLimit chain
        (∀ bytes : ByteArray, text.utf8ByteSize < bytes.size →
          (Document.render .granted (some chain) bytes).2.extract 0 text.utf8ByteSize =
            text.toUTF8) ∧
        (Document.isCut .granted chain = true ↔ s.ancestry e ≠ es) ∧
        ∃ (v : Json) (links : List Link), (∀ v', Json.IsDocument text v' ↔ v' = v) ∧
          links.map some = (s.ancestry e).map s.link? ∧
          v.nodes = links.map Json.linkMembers ++
            if s.ancestry e = es then [] else [[("truncated", .bool true)]] := by
  intro s
  have hknown : Store.Known ((start log).run operations).1.holdings s := known_of_run log operations
  refine ⟨fun hhooks hfits e f hget => ?_, fun e es hes => ?_⟩
  -- The causes of an error are there since references are counted, and end since they are older.
  · have howned := ((balanced_start log).run hhooks hfits).owned
    have hlive : ∀ {x g cause}, s.faults.get? x = some g → g.cause = some cause →
        ∃ h, s.faults.get? cause = some h := by
      intro x g cause hx hcause
      have hexplained : s.Explained x cause := ⟨g, hx, hcause⟩
      exact howned.live.1 hexplained.mem_references
    obtain ⟨es, hes⟩ := Store.exists_causes hknown.older hlive hget
    exact ⟨es, hes, fun es' hes' => hes'.unique hes⟩
  -- Everything is said of the list of causes, so the bounds are comparisons with its length.
  · have hancestry : s.ancestry e = es.take depthLimit := hes.ancestryFrom_eq depthLimit
    have hwhole : s.ancestry e = es ↔ es.length ≤ depthLimit := by
      rw [hancestry, List.take_eq_self_iff]
    have hlast : (s.ancestry e).getLast? = some (s.rootCause e) := by
      have hself : e ∈ s.ancestry e := by
        rw [hancestry]
        cases hes
        exact List.mem_cons_self
      rw [Store.rootCause, List.getLast?_eq_some_getLast (List.ne_nil_of_mem hself),
        Option.getD_some]
    obtain ⟨chain, hchain, hlinks⟩ := hes.exists_chain hknown.older
    have hlength : chain.length = es.length := by
      have hcount := congrArg List.length hlinks
      rwa [List.length_map, List.length_map] at hcount
    refine ⟨hancestry, hlast, ?_, ?_, chain, hchain, ?_⟩
    · rw [hwhole]
      exact hes.cause_getLast? (hancestry ▸ hlast)
    · intro σ visit state
      obtain ⟨met, hmet, hwalk, hrecord⟩ := hes.exists_met visit depthLimit state []
      exact ⟨met, hancestry ▸ hmet, hwalk, hrecord⟩
    · refine ⟨fun bytes hroom => Json.extract_render hroom, ?_, Json.ofChain depthLimit chain,
        chain.links.take depthLimit, fun v => Json.isDocument_ofChain_iff, ?_, ?_⟩
      · rw [Document.isCut, Document.write_eq, Document.writeLimit, if_pos (.inr rfl),
          decide_eq_true_iff, hlength, Ne, hwhole, Nat.not_le]
      · rw [hancestry, List.map_take, List.map_take, hlinks]
      · rw [chain.nodes_ofChain (by decide), hlength]
        simp only [hwhole]

/-- A run to try it on: a chain that is longer by two than a document shows. -/
def longRun : List Operation :=
  let draft : Draft := { domain := .git, code := .notFound, message := .ofText "link" }
  [.openBackend none, .createContext { backend := some 0 }] ++
    (List.range (depthLimit + 2)).map fun n =>
      .createFault 0 draft (if n = 0 then none else some (n - 1))

/-- Two causes are not reached: the root cause has a cause, and the document ends with the
marker. -/
theorem traversals_of_longRun :
    (∀ operation ∈ longRun, operation.isHook = false) ∧
    Throughout Fits (start { filter := .off }) longRun ∧
    let s := ((start { filter := .off }).run longRun).1.store
    ∃ es, s.Causes (some 65) es ∧ es.length = 66 ∧ s.ancestry 65 = es.take depthLimit ∧
      s.rootCause 65 = 2 ∧ (s.faults.get? 2).bind Fault.cause = some 1 ∧
      ∃ chain v, s.chain? 65 = some chain ∧
        Json.IsDocument (Document.ofChain depthLimit chain) v ∧
        v.nodes.length = 65 ∧ v.nodes.getLast? = some [("truncated", .bool true)] := by
  have hhooks : ∀ operation ∈ longRun, operation.isHook = false := by decide
  have hscant : Throughout Scant (start { filter := .off }) longRun := by
    decide +kernel
  have hfits := hscant.mono fun _ _ => Scant.fits
  have hstate : let s := ((start { filter := .off }).run longRun).1.store
      (s.faults.get? 65).isSome = true ∧ (s.lineage 65).length = 66 ∧ s.rootCause 65 = 2 ∧
      (s.faults.get? 2).bind Fault.cause = some 1 := by
    decide +kernel
  have hknown := known_of_run { filter := .off } longRun
  obtain ⟨hends, hagree⟩ := traversals_of_run { filter := .off } longRun
  refine ⟨hhooks, hfits, ?_⟩
  specialize hends hhooks hfits
  dsimp only at hstate hends hagree ⊢
  generalize ((start { filter := .off }).run longRun).1 = s at *
  obtain ⟨hpresent, hlength, hroot, hcause⟩ := hstate
  obtain ⟨f, hget⟩ := Option.isSome_iff_exists.1 hpresent
  obtain ⟨es, hes, -⟩ := hends 65 f hget
  -- The list of causes is the lineage, whose length was computed.
  have hlineage : s.store.lineage 65 = es := hes.lineage_eq hknown.older
  rw [hlineage] at hlength
  obtain ⟨hancestry, -, -, -, chain, hchain, -, -, v, links, hdocument, hlinks, hnodes⟩ :=
    hagree 65 es hes
  -- The ancestry is two short of it.
  have hcut : s.store.ancestry 65 ≠ es := by
    intro hwhole
    have hshown := congrArg List.length hancestry
    rw [hwhole, hlength, List.length_take, hlength] at hshown
    cases hshown
  have hcount := congrArg List.length hlinks
  rw [List.length_map, List.length_map, hancestry, List.length_take, hlength] at hcount
  rw [if_neg hcut] at hnodes
  refine ⟨es, hes, hlength, hancestry, hroot, hcause, chain, v, hchain, (hdocument v).2 rfl, ?_, ?_⟩
  · rw [hnodes, List.length_append, List.length_map, hcount]
    rfl
  · rw [hnodes, List.getLast?_concat]

end Session

end FaultChain

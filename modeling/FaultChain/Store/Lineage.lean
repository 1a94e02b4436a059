import FaultChain.Document.Basic
import FaultChain.Store.Basic

/-!
# Following causes

* `lineage` — an error and its successive causes, all of them.
* `chain?` — their links.
* `walk` — visits an error and its causes, outermost first, until the visitor has enough, the chain
  ends, or as many errors were visited as a document shows.
* `ancestry` — the errors that such a walk reaches.
* `rootCause` — the last of them.

A chain of causes ends because keys fall along it: `lineageOnto` follows a cause only if it is older
than what it explains, which every cause is, and so needs no other bound.  The traversals that users
have count down from the depth limit instead; they would end on any chain.
-/

namespace FaultChain.Store

/-- Follows the causes of an error and puts what it meets on top of what it met before.  A cause
that is not older is not followed. -/
def lineageOnto (s : Store) (e : FaultId) (met : List FaultId) : List FaultId :=
  match s.faults.get? e with
  | none => met
  | some f =>
    match f.cause with
    | some cause => if cause < e then s.lineageOnto cause (e :: met) else e :: met
    | none => e :: met
termination_by e

/-- An error and its successive causes, outermost first. -/
def lineage (s : Store) (e : FaultId) : List FaultId :=
  (s.lineageOnto e []).reverse

/-- What was met before stays below. -/
theorem lineageOnto_eq_append (s : Store) (e : FaultId) (met : List FaultId) :
    s.lineageOnto e met = s.lineageOnto e [] ++ met := by
  induction e using Nat.strongRecOn generalizing met with
  | _ e ih =>
    unfold lineageOnto
    split
    · rfl
    · split
      · split
        · next hlt => rw [ih _ hlt (e :: met), ih _ hlt [e], List.append_assoc]; rfl
        · rfl
      · rfl

/-- An error comes first in its lineage, and the lineage of its cause follows. -/
theorem lineage_of_get? {s : Store} {e : FaultId} {f : Fault} (h : s.faults.get? e = some f)
    (older : ∀ cause, f.cause = some cause → cause < e) :
    s.lineage e = e :: (f.cause.map s.lineage).getD [] := by
  unfold lineage
  rw [lineageOnto]
  simp only [h]
  cases hc : f.cause with
  | none => rfl
  | some cause => simp [older cause hc, lineageOnto_eq_append s cause [e]]

/-- An error that is gone has no lineage. -/
theorem lineage_of_get?_eq_none {s : Store} {e : FaultId} (h : s.faults.get? e = none) :
    s.lineage e = [] := by
  simp [lineage, lineageOnto, h]

/-- The link of an error. -/
def link? (s : Store) (e : FaultId) : Option Link :=
  (s.faults.get? e).map Fault.link

/-- The chain of an error. -/
def chain? (s : Store) (e : FaultId) : Option Chain :=
  Chain.ofLinks? ((s.lineage e).filterMap s.link?)

/-- The errors that explain an error, nearest first. -/
def sources (s : Store) (e : FaultId) : List FaultId :=
  (s.lineage e).tail

/-- Visits at most `bound` errors along a chain.  The visitor says whether it wants to go on, and
has a state of its own. -/
def walkFrom {σ : Type} (s : Store) (visit : σ → FaultId → Fault → σ × Bool) :
    Nat → Option FaultId → σ → σ
  | 0, _, state => state
  | _, none, state => state
  | bound + 1, some e, state =>
    match s.faults.get? e with
    | none => state
    | some f =>
      match visit state e f with
      | (state, true) => s.walkFrom visit bound f.cause state
      | (state, false) => state

/-- Visits an error and its causes, outermost first. -/
def walk {σ : Type} (s : Store) (top : Option FaultId) (visit : σ → FaultId → Fault → σ × Bool)
    (state : σ) : σ :=
  s.walkFrom visit Document.depthLimit top state

/-- At most `bound` errors along a chain. -/
def ancestryFrom (s : Store) : Nat → Option FaultId → List FaultId
  | 0, _ => []
  | _, none => []
  | bound + 1, some e =>
    match s.faults.get? e with
    | none => []
    | some f => e :: s.ancestryFrom bound f.cause

/-- An error and its causes, as many as a document shows. -/
def ancestry (s : Store) (e : FaultId) : List FaultId :=
  s.ancestryFrom Document.depthLimit (some e)

/-- The innermost cause of an error within the ancestry; the error itself if it has no cause. -/
def rootCause (s : Store) (e : FaultId) : FaultId :=
  (s.ancestry e).getLast?.getD e

end FaultChain.Store

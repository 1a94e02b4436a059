import FaultChain.Proofs.Coherence
import FaultChain.Proofs.Hooks

/-!
# What a detached error still shows

A detached error renders nothing and shows the last document that it has.  Which one that is depends
on all that happened before: documents are retired when the generation of the context moves on, and
when a new one is refused then the error is left without any.  Of this history nothing matters but
the last reading while the error was attached: what that reading showed, the error shows for ever
(`lastReading_of_run`).

`Session.latest` reads off a run what was shown last, which is what the last reading was answered
(`latest_of_read`), and `Store.Recalls` is the invariant that ties it to the document in use.

### What is load-bearing

A reading that finds a document of another generation retires it before it asks for a new one, so an
error whose new document is refused does not fall back to the old one, neither while it is attached
nor after.  And nothing but a reading changes the document in use, as nobody is let in on the way of
a request (`Store.Unread`).

### Why the answer is read off the run

The store of a detached error does not tell how it came to the document that it has, and a statement
about the store alone would be a tautology: it shows what is in use.  What a user knows is what was
answered before.  So the law is about answers.  `Session.shown` is the answer of one operation,
where it was a reading of the error and the error was attached, and `Session.latest` the last of
these along a run; neither looks at documents.  `latest_of_read` ties them to what the run returns,
so that the law can be read without these definitions.

### Registries past links

The law holds for runs with raw changes of registries as well: an entry that is made or removed past
the link of an error does not change what the error is attached to, and reading looks at the link.
That is why the invariants here are `Universal`, kept by every change there is.
-/

namespace FaultChain

/-- An error without documents has none in use. -/
theorem Fault.cache_eq_none {f : Fault} (hnone : f.documents = []) : f.cache = none :=
  Option.toList_eq_nil_iff.1 (List.append_eq_nil_iff.1 hnone).1

namespace Store

/-- Taking an entry out of a registry leaves errors alone. -/
theorem faults_untrack (s : Store) (c : ContextId) (e : FaultId) :
    (s.untrack c e).faults = s.faults := by
  unfold Store.untrack
  split
  · rfl
  · split <;> rfl

/-! ## Detached errors

An error is attached when it is created, or never.  It is detached by its context or by its own end,
and nothing takes that back.
-/

/-- An error was created, and it is not attached or it is gone.  What is not there has no home
either, so the two are one condition on homes, and it is never left again. -/
def Detached (s : Store) (e : FaultId) : Prop :=
  e < s.faults.next ∧ s.home e = none

section Detached

variable {s s' : Store} {e : FaultId}

/-- Whatever leaves errors alone leaves detached ones detached. -/
theorem Detached.pass (h : s.Detached e) (hfaults : s'.faults = s.faults) : s'.Detached e := by
  unfold Detached home
  rw [hfaults]
  exact h

/-- An error changes and keeps its link. -/
theorem Detached.modifyFault (h : s.Detached e) (e' : FaultId) {g : Fault → Fault}
    (hg : ∀ f, (g f).context = f.context) : (s.modifyFault e' g).Detached e :=
  ⟨h.1.trans_eq (Arena.next_modify _ _ _).symm, (home_modifyFault s e' hg e).trans h.2⟩

/-- An error that goes has no home any more. -/
theorem Detached.erase (h : s.Detached e) {e' : FaultId} (hfaults : s'.faults = s.faults.erase e') :
    s'.Detached e := by
  refine ⟨?_, ?_⟩
  · rw [hfaults, Arena.next_erase]
    exact h.1
  · rw [home_of_erase hfaults, h.2, ite_self]

/-- Detaching another error, or the same one again. -/
theorem Detached.detach (h : s.Detached e) (e' : FaultId) : (s.detach e').Detached e := by
  refine ⟨h.1.trans_eq (Arena.next_modify _ _ _).symm, ?_⟩
  rw [home_detach, h.2, ite_self]

/-- Emptying a registry detaches, and attaches nobody. -/
theorem Detached.detachRegistry (h : s.Detached e) (c : ContextId) :
    (s.detachRegistry c).1.Detached e := by
  cases hget : s.contexts.get? c with
  | none =>
      rw [Store.detachRegistry, hget]
      exact h
  | some context =>
      refine ⟨?_, ?_⟩
      · rw [detachRegistry_eq s hget, faults_freeAll, next_detachAll]
        exact h.1
      · rw [home_detachRegistry, h.2, ite_self]

/-- A new error is attached under a key that was not there yet, so it is not the one that was
detached. -/
theorem Detached.addFault (h : s.Detached e) (f : Fault) : (s.addFault f).Detached e := by
  refine ⟨?_, ?_⟩
  · rw [Store.addFault, Arena.next_insert]
    exact Nat.lt_succ_of_lt h.1
  · rw [home, Store.addFault, Arena.get?_insert, if_neg (Nat.ne_of_lt h.1)]
    exact h.2

/-- **What is detached stays detached.** There is no operation that links an error to a context
again. -/
theorem universal_detached (e : FaultId) : Universal (Detached · e) where
  enter h _ := h.pass rfl
  settle _ _ h _ _ := h.pass rfl
  free h := h.pass rfl
  absent h _ := h
  lessen h _ _ := h.modifyFault _ fun _ => rfl
  destroy {_ s e f} h _ _ := h.erase (faults_destroyed s e f)
  evict e h := h.modifyFault e fun _ => rfl
  install h _ _ _ _ _ := h.modifyFault _ fun _ => rfl
  emit _ _ _ h := h.pass rfl
  openBackend _ _ h := h.pass rfl
  failNext _ _ h := h.pass rfl
  arrange h _ := h.pass rfl
  add h _ _ _ _ _ := h.addFault _
  enlist h _ _ _ _ _ := h.pass rfl
  dismiss h _ := h.detach _
  detachRegistry c h _ := h.detachRegistry c
  addContext h _ := h.pass rfl
  adjust h _ := h.pass rfl
  close h _ _ _ _ _ := h.pass rfl
  retain e h := h.modifyFault e fun _ => rfl
  enroll _ h _ _ := h.pass rfl
  untrack c e h := h.pass (faults_untrack _ c e)

end Detached

/-- What an error keeps lasts also where registries are changed past links. -/
theorem universal_grown (s₀ : Store) : Universal (s₀.Grown ·) where
  toInvariant := invariant_grown s₀
  retain e h := h.modifyFault e fun _ _ => ⟨rfl, rfl, List.suffix_refl _⟩
  enroll _ h _ _ := h.pass rfl
  untrack c e h := h.pass (faults_untrack _ c e)

/-- Backends to which nobody is waiting hold no references. -/
theorem Quiet.pending {s : Store} (hs : s.Quiet) : s.pending = 0 := by
  refine Multiset.eq_zero_of_forall_notMem fun e hmem => ?_
  obtain ⟨backend, hbackend, hmem⟩ := Multiset.mem_bind.1 hmem
  obtain ⟨b, hget⟩ := Arena.mem_values_iff.1 hbackend
  rw [hs b backend hget] at hmem
  cases hmem

/-! ## What the document in use recalls

While nobody is let in, the document in use changes only when the error is read, and it is then what
the reading showed.
-/

/-- **The document in use is what was shown last**, where nobody is let in: there is none if nothing
was shown, or a placeholder.  An error that is still to be created has not been shown. -/
structure Recalls (s : Store) (e : FaultId) (last : Option Reading) : Prop where
  quiet : s.Quiet
  shown : ∀ f, s.faults.get? e = some f → last.getD .placeholder = .ofCache f.cache
  fresh : s.faults.next ≤ e → last = none

section Recalls

variable {s s' : Store} {e : FaultId} {last : Option Reading}

/-- Where nothing is read, nothing is forgotten.  An error that was not there before has no
documents, and nothing was shown of it. -/
theorem Recalls.unread (h : s.Recalls e last) (hunread : s.Unread s') (hgrown : s.Grown s') :
    s'.Recalls e last where
  quiet := hunread.quiet
  shown f' hget' := by
    rcases hunread.faults hget' with ⟨f, hget, hcache, -, -⟩ | hnone
    · rw [hcache]
      exact h.shown f hget
    -- Without documents now, an error had none before, or was not there.
    · rw [Fault.cache_eq_none hnone]
      by_cases he : e < s.faults.next
      · obtain ⟨f, hget, -, -, hsuffix⟩ := hgrown.faults he hget'
        rw [hnone] at hsuffix
        rw [h.shown f hget, Fault.cache_eq_none (List.suffix_nil.1 hsuffix)]
      · rw [h.fresh (Nat.le_of_not_lt he)]
        rfl
  fresh hle := h.fresh (hgrown.next.trans hle)

/-- **A reading** is recalled if it is of the error, and the error is attached. -/
theorem Recalls.read (h : s.Recalls e last) (e' : FaultId) :
    (s.read e' {}).1.Recalls e
      (if e' = e ∧ (s.home e').isSome then some (s.read e' {}).2 else last) := by
  -- Reading the error in question is remembered; reading any other leaves its documents alone.
  cases hget' : s.faults.get? e' with
  | none =>
      have hhome : s.home e' = none := by rw [home, hget', Option.bind_none]
      rw [hhome, if_neg (fun hself => Bool.false_ne_true hself.2), Store.read, readWith, hget']
      exact h
  | some f' =>
  have hnext : e' = e → ¬s.faults.next ≤ e := fun heq =>
    Nat.not_le_of_lt (heq ▸ Arena.lt_next_of_get? hget')
  rw [Store.read]
  rcases h.quiet.read_cases hget' (reader s.waiting) with
    hread | ⟨s', own, c, context, chain, hserved, hrenews, hread⟩
  · rw [hread]
    split
    · next hself =>
        refine ⟨h.quiet, fun f hget => ?_, fun hle => absurd hle (hnext hself.1)⟩
        rw [← hself.1, hget'] at hget
        rw [← Option.some.inj hget]
        rfl
    · exact h
  · have hhome : s.home e' = some c := by rw [home, hget', Option.bind_some, hrenews.attached]
    rw [hread, hhome]
    refine ⟨hserved.quiet, fun f hget => ?_, fun hle => ?_⟩
    · rw [modifyFault, Arena.get?_modify, hserved.faults] at hget
      split at hget
      · next heq =>
          rw [if_pos ⟨heq, rfl⟩]
          rw [← heq, hget'] at hget
          rw [← Option.some.inj hget]
          rfl
      · next hne =>
          rw [if_neg fun hself => hne hself.1]
          exact h.shown f hget
    · rw [modifyFault, Arena.next_modify, hserved.faults] at hle
      rw [if_neg fun hself => hnext hself.1 hle]
      exact h.fresh hle

/-- A copy of a document recalls the reading that it begins with. -/
theorem Recalls.copyDocument {c : ContextId} {context : Context}
    (hcontext : s.contexts.get? c = some context) (hvalid : context.valid = true) {e' : FaultId}
    (h : (s.read e' {}).1.Recalls e last) : (s.copyDocument c e' {}).1.Recalls e last := by
  have hcopy : s.copyDocument c e' {} = (s.read e' {}).1.copyTextWith (reader s.waiting)
      context.backend (s.read e' {}).2.text := by
    rw [Store.copyDocument, copyDocumentWith, hcontext]
    exact if_pos hvalid
  have hgrown := (invariant_grown (s.read e' {}).1).toKept
  have hwait := ((framed_reader s.waiting).readWith s e' {}).waiting
  rw [hcopy]
  exact h.unread ((Unread.refl h.quiet).copyTextWith _ _ _)
    (hgrown.copyTextWith (o := {}) (hgrown.keeps_reader _) (framed_reader _) hwait (.refl _) _ _)

end Recalls

end Store

/-! ## What was shown last

A definition on runs, which looks at answers and not at documents.  What was shown while the error
was not attached does not count, as a reading does not change anything then.
-/

namespace Session

/-- The error whose document an operation reads, if it comes to that, and how the passes of the
reading fare.  A copy through a context that is gone reads nothing. -/
def target (s : Session) : Operation → Option (FaultId × Document.Passes)
  | .read h passes => do
    let e ← s.faults.get? h
    some (e, passes)
  | .copyDocument h k passes => do
    let c ← s.contexts.get? h
    let e ← s.faults.get? k
    let context ← s.store.contexts.get? c
    if context.valid then some (e, passes) else none
  | _ => none

/-- What an operation is shown that reads an error while the error is attached. -/
def shown (s : Session) (e : FaultId) (operation : Operation) : Option Reading := do
  let (e', passes) ← s.target operation
  if s.aborted = false ∧ e' = e ∧ (s.store.home e').isSome then
    some (s.store.read e' passes).2
  else none

/-- What a run was last shown of an error while the error was attached.  The recursion is from the
front, so a later showing is preferred to an earlier one. -/
def latest (s : Session) (e : FaultId) : List Operation → Option Reading
  | [] => none
  | operation :: rest => ((s.perform operation).1.latest e rest).or (s.shown e operation)

section Latest

variable {s : Session} {e : FaultId} {operation : Operation}

/-- A later part of a run was shown something, or what the earlier part was shown is still the
last. -/
theorem latest_append (s : Session) (e : FaultId) (before rest : List Operation) :
    s.latest e (before ++ rest) = ((s.run before).1.latest e rest).or (s.latest e before) := by
  induction before generalizing s with
  | nil => exact Option.or_none.symm
  | cons operation before ih =>
      rw [List.cons_append, latest, latest, ih, Option.or_assoc]
      rfl

/-- After an abort nothing is shown. -/
theorem shown_of_aborted (hended : s.aborted = true) (e : FaultId) (operation : Operation) :
    s.shown e operation = none := by
  unfold shown
  cases s.target operation with
  | none => rfl
  | some target => exact if_neg fun h => Bool.false_ne_true (h.1.symm.trans hended)

/-- An operation that goes to read an error is shown what a reading of that error answers. -/
theorem shown_of_target (hrunning : s.aborted = false) {e' : FaultId} {passes : Document.Passes}
    (htarget : s.target operation = some (e', passes)) (e : FaultId) :
    s.shown e operation =
      if e' = e ∧ (s.store.home e').isSome then some (s.store.read e' passes).2 else none := by
  simp only [shown, htarget, Option.bind_eq_bind, Option.bind_some, hrunning, true_and]

/-- **What a reading answers is what was shown last**, if nothing was shown after it. -/
theorem latest_of_read {before after : List Operation} {h : Handle} {passes : Document.Passes}
    (hrunning : (s.run before).1.aborted = false)
    (hh : (s.run before).1.faults.get? h = some e)
    (hattached : ((s.run before).1.store.home e).isSome = true)
    (hafter : ((s.run before).1.perform (.read h passes)).1.latest e after = none)
    (reading : Reading) :
    s.latest e (before ++ .read h passes :: after) = some reading ↔
      ((s.run before).1.perform (.read h passes)).2 = .reading reading := by
  have htarget : (s.run before).1.target (.read h passes) = some (e, passes) := by
    rw [target, hh]
    rfl
  rw [latest_append, latest, hafter, Option.none_or, shown_of_target hrunning htarget,
    if_pos ⟨rfl, hattached⟩, Option.some_or, perform_read hrunning hh, Option.some_inj,
    Outcome.reading.injEq]

/-- Nothing is shown of a detached error that would count. -/
theorem shown_of_detached (h : s.store.home e = none) (operation : Operation) :
    s.shown e operation = none := by
  unfold shown
  cases s.target operation with
  | none => rfl
  | some target =>
      refine if_neg fun ⟨_, heq, hattached⟩ => ?_
      rw [heq, h] at hattached
      cases hattached

/-- After it was detached, nothing is shown of an error that would count, however the run goes
on. -/
theorem latest_of_detached (h : s.store.Detached e) (operations : List Operation) :
    s.latest e operations = none := by
  induction operations generalizing s with
  | nil => rfl
  | cons operation rest ih =>
      rw [latest, ih ((Store.universal_detached e).perform h operation),
        shown_of_detached h.2 operation]
      rfl

end Latest

/-! ## Runs

The two are compared step by step: after each operation, what is in use is what was shown last.
-/

section Runs

variable {s : Session} {e : FaultId} {operation : Operation} {last : Option Reading}

/-- A showing comes before those that it follows. -/
theorem ite_or (p : Prop) [Decidable p] (reading : Reading) (last : Option Reading) :
    (if p then some reading else none).or last = if p then some reading else last := by
  split <;> rfl

/-- A copy of a document goes to read it, or does nothing.  The cases are those of `target`. -/
theorem copyDocument_cases (s : Session) (h k : Handle) (passes : Document.Passes) :
    (s.target (.copyDocument h k passes) = none ∧
      (s.act (.copyDocument h k passes)).1.store = s.store) ∨
    ∃ c e context, s.target (.copyDocument h k passes) = some (e, passes) ∧
      s.store.contexts.get? c = some context ∧ context.valid = true ∧
      (s.act (.copyDocument h k passes)).1.store = (s.store.copyDocument c e passes).1 := by
  rw [act, target]
  cases hh : s.contexts.get? h with
  | none =>
      rw [withContext, hh]
      exact .inl ⟨rfl, rfl⟩
  | some c =>
  rw [withContext_of_get? hh]
  cases hk : s.faults.get? k with
  | none =>
      rw [withFault, hk]
      exact .inl ⟨rfl, rfl⟩
  | some e =>
  rw [withFault_of_get? hk, onStore_eq, (Store.keepCopy_eq _ _).1]
  show (s.store.contexts.get? c).bind _ = none ∧ (s.store.copyDocument c e passes).1 = _ ∨
    ∃ c' e' context, (s.store.contexts.get? c).bind _ = _ ∧ _ ∧ _ ∧ _
  cases hcontext : s.store.contexts.get? c with
  | none =>
      rw [Store.copyDocument, Store.copyDocumentWith, hcontext]
      exact .inl ⟨rfl, rfl⟩
  | some context =>
  cases hvalid : context.valid with
  | false =>
      rw [Store.copyDocument, Store.copyDocumentWith, hcontext]
      refine .inl ⟨?_, ?_⟩ <;> simp [hvalid]
  | true =>
      refine .inr ⟨c, e, context, ?_, hcontext, hvalid, rfl⟩
      simp [hvalid]

/-- **An operation** is recalled by what it was shown. -/
theorem recalls_perform (hs : s.store.Recalls e last) (hquiet : operation.isQuiet = true) :
    (s.perform operation).1.store.Recalls e ((s.shown e operation).or last) := by
  cases hended : s.aborted with
  | true =>
      rw [shown_of_aborted hended, perform, if_pos hended]
      exact hs
  | false =>
  have hgrown := (Store.universal_grown s.store).perform (.refl s.store) operation
  rw [perform_eq hended] at hgrown ⊢
  -- An operation that reads nothing shows nothing, and leaves every document where it is.
  cases hreads : operation.reads with
  | none =>
      have hnone : s.shown e operation = none := by
        cases operation with
        | read h passes => cases hreads
        | copyDocument h k passes => cases hreads
        | _ => rfl
      rw [hnone]
      exact hs.unread (unread_act hs.quiet hquiet hreads) hgrown
  | some h =>
  cases operation with
  | read h passes =>
      obtain rfl := of_decide_eq_true hquiet
      cases hh : s.faults.get? h with
      | none =>
          have hnone : s.shown e (.read h {}) = none := by
            rw [shown, target, hh]
            rfl
          rw [hnone, act, withFault, hh]
          exact hs
      | some e' =>
          have htarget : s.target (.read h {}) = some (e', {}) := by
            rw [target, hh]
            rfl
          rw [shown_of_target hended htarget, ite_or, act, withFault_of_get? hh]
          exact hs.read e'
  | copyDocument h k passes =>
      obtain rfl := of_decide_eq_true hquiet
      rcases copyDocument_cases s h k {} with
        ⟨htarget, hstore⟩ | ⟨c, e', context, htarget, hcontext, hvalid, hstore⟩
      · have hnone : s.shown e (.copyDocument h k {}) = none := by
          rw [shown, htarget]
          rfl
        rw [hnone, hstore]
        exact hs
      · rw [shown_of_target hended htarget, ite_or, hstore]
        exact (hs.read e').copyDocument hcontext hvalid
  | _ => cases hreads

/-- **A run** is recalled by what it was last shown. -/
theorem recalls_run {operations : List Operation} (hs : s.store.Recalls e last)
    (hquiet : ∀ operation ∈ operations, operation.isQuiet = true) :
    (s.run operations).1.store.Recalls e ((s.latest e operations).or last) := by
  induction operations generalizing s last with
  | nil => exact hs
  | cons operation rest ih =>
      rw [latest, Option.or_assoc]
      exact ih (recalls_perform hs (hquiet operation List.mem_cons_self))
        fun operation hmem => hquiet operation (List.mem_cons_of_mem _ hmem)

/-- Before anything is done nothing was shown. -/
theorem recalls_start (log : Log) (e : FaultId) : (start log).store.Recalls e none where
  quiet := (coherent_start log).quiet
  shown f hget := by
    rw [start, Arena.get?_empty] at hget
    cases hget
  fresh _ := rfl

/-! ### Documents stay right

For the second half of the law the text of the document has to be known, and with it the chain of
the error, which needs the counts.
-/

/-- What a run keeps in which nobody is let in and no object runs out of references.  It is less
than `Coherent`: attempts are not counted, since a detached error has no present generation. -/
structure Truthful (s : Session) : Prop where
  quiet : s.store.Quiet
  owned : Store.Owned (fun _ => 2 ^ 32) s.holdings s.store
  faithful : s.store.Faithful

/-- Changing registries past links leaves errors and handles on them alone. -/
theorem faults_act_of_isHook (hs : s.store.Quiet) (hhook : operation.isHook = true) :
    (s.act operation).1.store.faults = s.store.faults ∧ (s.act operation).1.faults = s.faults := by
  cases operation with
  | track h k =>
      refine of_withContext (P := fun s' => s'.store.faults = _ ∧ s'.faults = _) ⟨rfl, rfl⟩ fun c =>
        of_withFault (P := fun s' => s'.store.faults = _ ∧ s'.faults = _) ⟨rfl, rfl⟩ fun e => ?_
      refine ⟨?_, rfl⟩
      show (s.store.track c e).1.faults = s.store.faults
      have hserved := hs.served_requestWith (Store.reader s.store.waiting)
      exact Store.of_trackWith (P := fun s' => s'.faults = s.store.faults) rfl
        (fun b => (hserved b .node).faults) fun _ _ h => h
  | untrack h k =>
      exact of_withContext (P := fun s' => s'.store.faults = _ ∧ s'.faults = _) ⟨rfl, rfl⟩ fun c =>
        of_withFault (P := fun s' => s'.store.faults = _ ∧ s'.faults = _) ⟨rfl, rfl⟩ fun e =>
          ⟨s.store.faults_untrack c e, rfl⟩
  | _ => cases hhook

/-- **An operation** keeps documents right. -/
theorem Truthful.perform (hs : s.Truthful) (hquiet : operation.isQuiet = true)
    (hfits : s.Fits operation) : (s.perform operation).1.Truthful := by
  cases hended : s.aborted with
  | true =>
      rw [Session.perform, if_pos hended]
      exact hs
  | false =>
  have hattended := attended_act hs.quiet hquiet
  have hgrown := (Store.universal_grown s.store).act (.refl s.store) operation
  have howned : Store.Owned (fun _ => 2 ^ 32) (s.act operation).1.holdings
      (s.act operation).1.store := by
    cases hhook : operation.isHook with
    | false =>
        rw [← perform_eq hended]
        exact perform_of_room Store.invariant_owned Store.takes_owned Store.Owned.within
          Store.Owned.mono hhook hfits.room (.inr Store.blind_owned) hs.owned
    | true =>
        obtain ⟨hfaults, hheld⟩ := faults_act_of_isHook hs.quiet hhook
        refine hs.owned.congr ?_ fun e => by rw [hfaults]
        rw [Holdings.references, Holdings.references, hs.quiet.pending, hattended.quiet.pending,
          Store.causes, Store.causes, hfaults, holdings, holdings, hheld]
  rw [perform_eq hended]
  exact ⟨hattended.quiet, howned, hs.faithful.attended hattended hgrown howned⟩

/-- **A run** keeps documents right. -/
theorem Truthful.run {operations : List Operation} (hs : s.Truthful)
    (hquiet : ∀ operation ∈ operations, operation.isQuiet = true)
    (hfits : Throughout Fits s operations) : (s.run operations).1.Truthful := by
  induction operations generalizing s with
  | nil => exact hs
  | cons operation rest ih =>
      exact ih (hs.perform (hquiet operation List.mem_cons_self) hfits.1)
        (fun operation hmem => hquiet operation (List.mem_cons_of_mem _ hmem)) hfits.2

/-- Before anything is done there are no documents. -/
theorem truthful_start (log : Log) : (start log).Truthful :=
  ⟨(coherent_start log).quiet, (balanced_start log).owned, (coherent_start log).faithful⟩

end Runs

/-! ## The law

Both halves, put together for an error that is detached.
-/

/-- A reading of a detached error does nothing, and shows the document in use. -/
theorem perform_read_of_detached {s : Session} (hrunning : s.aborted = false) {h : Handle}
    {e : FaultId} (hh : s.faults.get? h = some e) {f : Fault}
    (hget : s.store.faults.get? e = some f) (hlink : f.context = none) (passes : Document.Passes) :
    s.perform (.read h passes) = (s, .reading (.ofCache f.cache)) := by
  have hread : s.store.read e passes = (s.store, .ofCache f.cache) := by
    rw [Store.read, Store.readWith, hget]
    dsimp only
    rw [hlink]
    rfl
  rw [perform_read hrunning hh, hread]

/-- **A detached error shows what was shown last** while it was attached, over every run in which
nobody is let in.

* Whatever is done later, and whether or not the context is still there, a reading of the error
  changes nothing, asks no backend for anything, and shows what the last reading of the run showed
  while the error was attached, or the placeholder if there was none.
* If no object ran out of references, that is the whole document of the error if and only if the
  last such reading showed the whole document, and the text of the placeholder otherwise. -/
theorem lastReading_of_run (log : Log) (operations : List Operation)
    (hquiet : ∀ operation ∈ operations, operation.isQuiet = true) :
    let s := ((start log).run operations).1
    ∀ e f, s.store.faults.get? e = some f → f.context = none →
      let last := (start log).latest e operations
      let answer := last.getD .placeholder
      (∀ rest, (∀ operation ∈ rest, operation.isQuiet = true) →
        let s' := (s.run rest).1
        s'.aborted = false → ∀ h passes, s'.faults.get? h = some e →
          (s'.store.faults.get? e).isSome = true →
          s'.perform (.read h passes) = (s', .reading answer)) ∧
      (Throughout Fits (start log) operations → ∃ chain, s.store.chain? e = some chain ∧
        let whole := Document.document .granted (some chain)
        whole ≠ Document.empty ∧
        (answer.text = whole ↔ ∃ reading, last = some reading ∧ reading.text = whole) ∧
        (answer.text ≠ whole → answer.text = Document.empty)) := by
  intro s e f hget hlink last answer
  have hdetached : s.store.Detached e := by
    refine ⟨Arena.lt_next_of_get? hget, ?_⟩
    rw [Store.home, hget, Option.bind_some, hlink]
  refine ⟨?_, fun hfits => ?_⟩
  · intro rest hrest s' hrunning h passes hh hexists
    obtain ⟨f', hget'⟩ := Option.isSome_iff_exists.1 hexists
    -- An error that was detached stays detached, so it answers with what it has.
    have hlink' : f'.context = none := by
      have hhome := ((Store.universal_detached e).run hdetached rest).2
      rw [Store.home, hget', Option.bind_some] at hhome
      exact hhome
    -- Nothing that is shown after the error was detached counts.
    have hrecalls := recalls_run (recalls_run (recalls_start log e) hquiet) hrest
    rw [latest_of_detached hdetached rest, Option.none_or, Option.or_none] at hrecalls
    rw [perform_read_of_detached hrunning hh hget' hlink', ← hrecalls.shown f' hget']
  · obtain ⟨chain, hchain⟩ := Store.exists_chain? hget
    have hrecalls := recalls_run (recalls_start log e) hquiet
    rw [Option.or_none] at hrecalls
    have hanswer : answer = .ofCache f.cache := hrecalls.shown f hget
    -- Whatever was left on the error is its document, so the answer is that or nothing at all.
    have hfaithful := ((truthful_start log).run hquiet hfits).faithful e f chain hget hchain
    have hempty : Document.document .granted (some chain) ≠ Document.empty :=
      Document.document_ne_empty _ _
    refine ⟨chain, hchain, hempty, ⟨fun hwhole => ?_, ?_⟩, fun hother => ?_⟩
    · cases hlast : last with
      | none =>
          simp only [answer, hlast, Option.getD_none] at hwhole
          exact absurd hwhole.symm hempty
      | some reading =>
          simp only [answer, hlast, Option.getD_some] at hwhole
          exact ⟨reading, rfl, hwhole⟩
    · rintro ⟨reading, hlast, hwhole⟩
      simp only [answer, hlast, Option.getD_some]
      exact hwhole
    · cases hcache : f.cache with
      | none =>
          rw [hanswer, hcache]
          rfl
      | some cached =>
          refine absurd ?_ hother
          rw [hanswer, hcache]
          refine hfaithful cached ?_
          rw [Fault.documents, hcache]
          exact List.mem_cons_self

/-- A run to try the law on.  An error is read before and after a release of its context is refused,
and the second reading has a request refused; another error is read after that.  Then both are
detached. -/
def bereftRun : List Operation :=
  let draft (text : String) : Draft :=
    { domain := .git, code := .notFound, message := .ofText text }
  [.openBackend none, .createContext { backend := some 0 }, .createFault 0 (draft "gone") none,
    .createFault 0 (draft "late") none, .read 0 {}, .releaseContext 0 false false, .failNext 0 [1],
    .read 0 {}, .read 1 {}, .detachRegistry 0]

/-- The context is destroyed. -/
def bereftRest : List Operation :=
  [.read 0 {}, .releaseContext 0 false true]

/-- Without its context, the first error shows the placeholder, although its first reading showed a
document, and the second error goes on showing its document. -/
theorem lastReading_of_bereftRun :
    (∀ operation ∈ bereftRun, operation.isQuiet = true) ∧
    (∀ operation ∈ bereftRest, operation.isQuiet = true) ∧
    Throughout Fits (start { filter := .off }) bereftRun ∧
    (let s := ((start { filter := .off }).run bereftRun).1
    let s' := (s.run bereftRest).1
    (s'.store.contexts.get? 0).map Context.valid = some false ∧
    (∃ cached, (start { filter := .off }).latest 0 (bereftRun.take 5) = some (.document cached)) ∧
    s'.perform (.read 0 {}) = (s', .reading .placeholder) ∧
    ∃ chain cached, s.store.chain? 1 = some chain ∧
      s'.perform (.read 1 {}) = (s', .reading (.document cached)) ∧
      cached.text.text = Document.document .granted (some chain)) := by
  have hquiet : ∀ operation ∈ bereftRun, operation.isQuiet = true := by decide
  have hrest : ∀ operation ∈ bereftRest, operation.isQuiet = true := by decide
  have hscant : Throughout Scant (start { filter := .off }) bereftRun := by decide +kernel
  have hfits := hscant.mono fun _ _ => Scant.fits
  have hstate : let s := ((start { filter := .off }).run bereftRun).1
      let s' := (s.run bereftRest).1
      (s'.store.contexts.get? 0).map Context.valid = some false ∧ s'.aborted = false ∧
      (∀ e ∈ [0, 1], (s.store.faults.get? e).any (fun f => f.context = none) = true ∧
        s'.faults.get? e = some e ∧ (s'.store.faults.get? e).isSome = true) ∧
      ((start { filter := .off }).latest 0 (bereftRun.take 5)).any (· ≠ .placeholder) = true ∧
      (start { filter := .off }).latest 0 bereftRun = some .placeholder ∧
      ((start { filter := .off }).latest 1 bereftRun).any
        (fun reading => reading.text ≠ Document.empty) = true := by
    decide +kernel
  have hlaw := lastReading_of_run { filter := .off } bereftRun hquiet
  refine ⟨hquiet, hrest, hfits, ?_⟩
  dsimp only at hstate hlaw ⊢
  generalize ((start { filter := .off }).run bereftRun).1 = s at *
  obtain ⟨hgone, hrunning, hboth, hshown, hlast, hlate⟩ := hstate
  obtain ⟨early, hearly, hshown⟩ := (Option.any_eq_true _ _).1 hshown
  obtain ⟨hfault, hh, hexists⟩ := hboth 0 (by decide)
  obtain ⟨hfault', hh', hexists'⟩ := hboth 1 (by decide)
  obtain ⟨f, hget, hlink⟩ := (Option.any_eq_true _ _).1 hfault
  obtain ⟨f', hget', hlink'⟩ := (Option.any_eq_true _ _).1 hfault'
  obtain ⟨reading, hreading, hnonempty⟩ := (Option.any_eq_true _ _).1 hlate
  obtain ⟨hfirst, -⟩ := hlaw 0 f hget (of_decide_eq_true hlink)
  obtain ⟨hsecond, htext⟩ := hlaw 1 f' hget' (of_decide_eq_true hlink')
  obtain ⟨chain, hchain, -, -, hother⟩ := htext hfits
  have hsecond := hsecond bereftRest hrest hrunning 1 {} hh' hexists'
  rw [hreading, Option.getD_some] at hsecond hother
  -- The later error was read while it was attached, and what it showed was not the placeholder.
  have hwhole := Decidable.byContradiction fun hne => of_decide_eq_true hnonempty (hother hne)
  refine ⟨hgone, ?_, ?_, chain, ?_⟩
  · cases early with
    | placeholder => exact absurd rfl (of_decide_eq_true hshown)
    | document cached => exact ⟨cached, hearly⟩
  · rw [hfirst bereftRest hrest hrunning 0 {} hh hexists, hlast]
    rfl
  · cases reading with
    | placeholder => exact absurd rfl (of_decide_eq_true hnonempty)
    | document cached => exact ⟨cached, hchain, hsecond, hwhole⟩

end Session

end FaultChain

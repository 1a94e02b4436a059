import FaultChain.Proofs.Handles
import FaultChain.Proofs.Registration

/-!
# What a release comes to over a run

A handle on a context is given up with one of four results, and the result is decided by what a user
can see: how many handles there are on the context, how many errors are attached to it, and whether
the caller asked for a diagnosis.  `Store.released` says what is left of the store in each case;
`Session.perform_releaseContext` reads the answer off the context, and `teardown_of_run` puts the
counts of handles and errors in place of what the context counts itself.

Giving up the last handle is an *attempt* on the context, whatever comes of it.  Attempts are
counted along a run by what the operations name (`Session.attempted`), and a valid context has the
generation that it was born with plus one for each attempt on it (`Session.Dated`).

### What is load-bearing

The reference is given up before anybody looks at the registry, so a refusal has to take it back.
That the count then is what it was is `Store.releaseContext_released`; that nothing else was touched
on the way is the same equation, as it is one of whole stores.

### What counts as an attempt

A release is an attempt if the handle is the last one on its context, whatever the verdict is: the
generation goes up before the registry is looked at, so a refused release makes the documents of the
context stale, too.  That is stated on the side of the user, by the handles that are held
(`Session.attempts`), and the counter in the context is shown to agree with it for as long as
references do not run out (`Dated`).  The equation for the generation is one of words, without a
bound on attempts; it is an equation of numbers as long as they fit.

### A refusal is a step that can be repeated

A refused release changes the generation and the log, and nothing that the next release looks at.
So it can be said what any number of refusals comes to, by induction on that number
(`Session.run_refusals`).  Where nothing is logged the session after them is known completely
(`Session.later`), which makes a run with billions of refusals as good as one with a single step in
their place.
-/

namespace FaultChain

namespace Store

/-- What is left of a store when a handle on a context was given up, by the answer.  It is written
down as one change of the context, where the code makes several. -/
def released (s : Store) (c : ContextId) (context : Context) : Release → Store
  | .invalid => s
  | .retained => s.modifyContext c fun x => { x with refs := x.refs - 1 }
  | .refused =>
    ((s.modifyContext c fun x => { x with generation := x.generation + 1 }).emit .error
      contextOrigin (liveText context.live)).emit .warn contextOrigin
        "context teardown refused, reference restored"
  | .aborted =>
    (s.modifyContext c fun x =>
      { x with refs := x.refs - 1, generation := x.generation + 1 }).emit .error contextOrigin
        (liveText context.live ++ ", aborting")
  | .destroyed =>
    ((s.modifyContext c fun x =>
      { x with refs := x.refs - 1, generation := x.generation + 1, valid := false }).free
        context.backend context.block).emit .debug contextOrigin "context destroyed"

/-- Two changes of one context are one change. -/
theorem modifyContext_modifyContext (s : Store) (c : ContextId) (f g : Context → Context) :
    (s.modifyContext c f).modifyContext c g = s.modifyContext c (g ∘ f) := by
  simp only [modifyContext, Arena.modify_modify]

/-- **A release** leaves of the store what its answer says, and a refusal has taken back the
reference. -/
theorem releaseContext_released {s : Store} {c : ContextId} {context : Context}
    (hget : s.contexts.get? c = some context) (diagnostics : Bool) :
    s.releaseContext c diagnostics =
      (s.released c context (context.outcome diagnostics), context.outcome diagnostics) := by
  unfold releaseContext Context.outcome
  rw [hget]
  dsimp only
  cases hvalid : context.valid with
  | false => rfl
  | true =>
      by_cases hlast : context.refs = 1
      · rw [if_neg (by decide), if_neg (not_not_intro hlast), if_pos rfl, if_pos hlast]
        cases Verdict.ofLive diagnostics context.live with
        | proceed =>
            simp only [destroyContext, modifyContext_modifyContext, released, Function.comp_def]
        | abort => simp only [modifyContext_modifyContext, released, Function.comp_def]
        | refuse =>
            -- The log is told between the changes of the context, which it does not touch.
            have hrestored : ∀ (s : Store) (g : Context → Context),
                ((s.emit .error contextOrigin (liveText context.live)).emit .warn contextOrigin
                  "context teardown refused, reference restored").modifyContext c g =
                ((s.modifyContext c g).emit .error contextOrigin (liveText context.live)).emit
                  .warn contextOrigin "context teardown refused, reference restored" :=
              fun _ _ => rfl
            simp only [hrestored, modifyContext_modifyContext, released, Function.comp_def,
              UInt32.sub_add_cancel]
      · rw [if_neg (by decide), if_pos hlast, if_pos rfl, if_neg hlast]
        rfl

/-- Contexts after a release, whether or not there is one under the key.  The log and the blocks
that come back do not matter to them. -/
theorem contexts_releaseContext (s : Store) (c : ContextId) (diagnostics : Bool) :
    (s.releaseContext c diagnostics).1.contexts.next = s.contexts.next ∧
      ∀ c', (s.releaseContext c diagnostics).1.contexts.get? c' =
        if c = c' then (s.contexts.get? c).map fun x => x.after (x.outcome diagnostics)
        else s.contexts.get? c' := by
  cases hget : s.contexts.get? c with
  | none =>
      have hsame : s.releaseContext c diagnostics = (s, .invalid) := by
        unfold releaseContext
        rw [hget]
      rw [hsame]
      refine ⟨rfl, fun c' => ?_⟩
      split
      · next heq => exact heq ▸ hget
      · rfl
  | some context => exact (releaseContext_eq hget diagnostics).2

end Store

namespace Session

/-- How many errors are attached to a context.  The user sees this by the contexts of the errors. -/
def attached (s : Session) (c : ContextId) : Nat :=
  s.store.faults.values.countP fun f => f.context = some c

/-- How many handles are held on a context.  One context may have several, under different keys. -/
def handles (s : Session) (c : ContextId) : Nat :=
  s.contexts.values.count c

/-! ## One release

What a release through a handle answers, by what a user can see: how many handles there are, and how
many errors are attached.
-/

section Release

variable {s : Session} {h : Handle} {c : ContextId} {context : Context}

/-- What is left of a session when a handle on a context was given up, by the answer.  The handle
goes, but for a refusal and for one that its user keeps. -/
def released (s : Session) (h : Handle) (c : ContextId) (context : Context) (keep : Bool)
    (answer : Release) : Session :=
  let after := { s with store := s.store.released c context answer }
  match answer with
  | .invalid | .refused => after
  | .retained => after.forgetContext h
  | .destroyed => if keep then after else after.forgetContext h
  | .aborted => after.abort

/-- A release through a handle is one of the context, and what becomes of the handle depends on the
answer. -/
theorem perform_releaseContext (hrunning : s.aborted = false) (hh : s.contexts.get? h = some c)
    (hget : s.store.contexts.get? c = some context) (diagnostics keep : Bool) :
    s.perform (.releaseContext h diagnostics keep) =
      (s.released h c context keep (context.outcome diagnostics),
        .released (context.outcome diagnostics)) := by
  have hstore := Store.releaseContext_released hget diagnostics
  rw [perform, hrunning, if_neg (by decide), act, withContext, hh]
  dsimp only
  rw [Session.releaseContext, onStore_eq, hstore]
  cases context.outcome diagnostics <;> rfl

/-- What a context counts itself, its user can count as well: the references are the handles, and
the entries of its registry are the errors attached to it.  So the four answers are told apart
without a look inside. -/
theorem outcome_eq {past : List ContextId} (hs : s.Balanced past)
    (hregistered : s.store.Registered s.holdings) (hrunning : s.aborted = false)
    (hh : s.contexts.get? h = some c) (hget : s.store.contexts.get? c = some context)
    (hvalid : context.valid = true) (diagnostics : Bool) :
    context.outcome diagnostics =
      if 1 < s.handles c then .retained
      else if s.attached c = 0 then .destroyed
      else if diagnostics then .aborted
      else .refused := by
  have hone := (hs.counted hrunning).count_eq_one_iff hh (Nat.le_of_lt (hs.contexts c)) hget hvalid
  have hpos : 0 < s.handles c := Multiset.count_pos.2 (Arena.mem_values hh)
  have hlive : context.live = s.attached c := hregistered.live_eq rfl hget
  unfold Context.outcome Verdict.ofLive
  rw [if_pos hvalid, hlive]
  by_cases hmany : 1 < s.handles c
  · have hlast : context.refs ≠ 1 := by
      intro hlast
      have := hone.2 hlast
      simp only [handles] at hmany
      omega
    rw [if_neg hlast, if_pos hmany]
  · have hlast : context.refs = 1 := by
      apply hone.1
      simp only [handles] at hmany hpos
      omega
    rw [if_pos hlast, if_neg hmany]
    by_cases hnone : s.attached c = 0
    · rw [if_pos hnone, if_pos hnone]
    · rw [if_neg hnone, if_neg hnone]
      cases diagnostics <;> rfl

end Release

/-! ## Attempts

Giving up the last handle is an attempt, whatever comes of it.  A run has a list of them, and a
context that is still valid has a generation more for each of its own.
-/

/-- The context on which an operation is an attempt: it gives up the last handle. -/
def attempts (s : Session) : Operation → List ContextId
  | .releaseContext h _ _ | .dropContext h =>
    (s.contexts.get? h).toList.filter fun c => s.handles c == 1
  | _ => []

/-- The contexts on which a run makes attempts, once for each.  It is read off the states that the
run goes through, and not off what is answered. -/
def attempted (s : Session) : List Operation → List ContextId
  | [] => []
  | operation :: rest => s.attempts operation ++ (s.perform operation).1.attempted rest

/-- A run makes the attempts of its parts. -/
theorem attempted_append (s : Session) (before rest : List Operation) :
    s.attempted (before ++ rest) = s.attempted before ++ (s.run before).1.attempted rest := by
  induction before generalizing s with
  | nil => rfl
  | cons operation before ih =>
      rw [List.cons_append, attempted, attempted, ih, List.append_assoc]
      rfl

/-- **The generation of a valid context** is the one that it was born with and one for each attempt
on it.  Contexts that are gone show generation zero and have no date. -/
structure Dated (s : Session) (past : List ContextId) : Prop where
  known : ∀ c ∈ past, c < s.store.contexts.next
  dated : ∀ {c context}, s.store.contexts.get? c = some context → context.valid = true →
    context.generation = Context.initialGeneration + .ofNat (past.count c)

section Attempts

variable {s s' : Session} {past lost : List ContextId} {h : Handle} {c : ContextId}
  {context : Context} {operation : Operation}

/-- Whether a release is an attempt depends on the handles only, and dropping a handle is the same
attempt as releasing it. -/
theorem attempts_of_handle (hh : s.contexts.get? h = some c) (diagnostics keep : Bool) :
    s.attempts (.releaseContext h diagnostics keep) = (if s.handles c = 1 then [c] else []) ∧
      s.attempts (.dropContext h) = if s.handles c = 1 then [c] else [] := by
  have hfilter : (s.contexts.get? h).toList.filter (fun c => s.handles c == 1) =
      if s.handles c = 1 then [c] else [] := by
    rw [hh, Option.toList_some]
    by_cases hone : s.handles c = 1
    · rw [if_pos hone]
      exact List.filter_cons_of_pos (beq_iff_eq.2 hone)
    · rw [if_neg hone]
      exact List.filter_cons_of_neg fun heq => hone (beq_iff_eq.1 heq)
  exact ⟨hfilter, hfilter⟩

/-- What does not go about handles on contexts is no attempt. -/
theorem attempts_eq_nil (hcontext : operation.isContextual = false) :
    s.attempts operation = [] := by
  cases operation with
  | releaseContext h diagnostics keep => cases hcontext
  | dropContext h => cases hcontext
  | _ => rfl

/-- Contexts stay as they are, and there is no attempt on any. -/
theorem Dated.same (hs : s.Dated past) (hstore : s.store.SameContexts s'.store) :
    s'.Dated past where
  known := by
    rw [hstore.1]
    exact hs.known
  dated := by
    intro c context' hget' hvalid'
    have hmap := hstore.2 c
    rw [hget', Option.map_some, eq_comm, Option.map_eq_some_iff] at hmap
    obtain ⟨context, hget, hbare⟩ := hmap
    have hgeneration : context.generation = context'.generation :=
      (congrArg Context.generation hbare :)
    rw [← hgeneration]
    exact hs.dated hget ((Context.valid_of_bare hbare).trans hvalid')

/-- A new context has had no attempts. -/
theorem Dated.createContext (hs : s.Dated past) (settings : Settings) (rule : Memory.Rule) :
    (s.createContext settings rule).1.Dated past := by
  have hover : ∃ store b, (store : Store).contexts = s.store.contexts ∧
      Session.createOver s.store settings rule = store.createContext b settings := by
    unfold Session.createOver
    split
    · exact ⟨_, _, rfl, rfl⟩
    · exact ⟨(s.store.openBackend none rule).1, _, rfl, rfl⟩
  obtain ⟨store, b, hcontexts, hover⟩ := hover
  rw [Session.createContext, onStore_eq, hover]
  rcases store.createContext_cases b settings with
    ⟨why, hanswer, hsame⟩ | ⟨hanswer, s₁, context, hsame, hinsert, -, hgeneration⟩
  · rw [hanswer]
    unfold Store.SameContexts at hsame
    rw [hcontexts] at hsame
    exact hs.same hsame
  · rw [hanswer]
    unfold Store.SameContexts at hsame
    rw [hcontexts] at hsame
    -- No attempt was made on a context that was not there.
    have hfresh : past.count s.store.contexts.next = 0 :=
      List.count_eq_zero.2 fun hmem => absurd (hs.known _ hmem) (Nat.lt_irrefl _)
    constructor
    case known =>
      intro c hmem
      show c < (store.createContext b settings).1.contexts.next
      rw [hinsert, Arena.next_insert, hsame.1]
      exact Nat.lt_succ_of_lt (hs.known c hmem)
    case dated =>
      intro c context' hget hvalid
      change (store.createContext b settings).1.contexts.get? c = _ at hget
      rw [hinsert, Arena.get?_insert, hsame.1] at hget
      split at hget
      · next heq =>
          obtain rfl := Option.some.inj hget
          rw [heq, hfresh, hgeneration]
          rfl
      · have hsame' : ({ s with store := s₁ } : Session).Dated past := hs.same hsame
        exact hsame'.dated hget hvalid

/-- One more handle is no attempt; it makes the next release none either. -/
theorem Dated.retainContext (hs : s.Dated past) (c : ContextId) :
    (s.retainContext c).1.Dated past where
  known := by
    intro c' hmem
    exact Nat.lt_of_lt_of_eq (hs.known c' hmem) (Arena.next_modify _ _ _).symm
  dated := by
    intro c' context' hget' hvalid'
    change (s.store.contexts.modify c _).get? c' = _ at hget'
    rw [Arena.get?_modify] at hget'
    split at hget'
    · obtain ⟨context, hget, hretained⟩ := Option.map_eq_some_iff.1 hget'
      obtain ⟨hgeneration, hvalid⟩ :
          context'.generation = context.generation ∧ context'.valid = context.valid := by
        rw [← hretained]
        split <;> exact ⟨rfl, rfl⟩
      rw [hgeneration]
      exact hs.dated hget (hvalid.symm.trans hvalid')
    · exact hs.dated hget' hvalid'

/-- A handle on a context is given up, which is an attempt if it is the last one.  The generation
goes up whatever the answer to the attempt is. -/
theorem Dated.release (hs : s.Dated past) (hcounted : s.Counted lost)
    (hroom : s.handles c ≤ 2 ^ 32) (hh : s.contexts.get? h = some c) (diagnostics : Bool)
    (hcontexts : s'.store.contexts = (s.store.releaseContext c diagnostics).1.contexts) :
    s'.Dated (past ++ if s.handles c = 1 then [c] else []) := by
  obtain ⟨hnext, hstore⟩ := s.store.contexts_releaseContext c diagnostics
  rw [← hcontexts] at hnext hstore
  constructor
  case known =>
    intro c' hmem
    rw [hnext]
    rcases List.mem_append.1 hmem with hmem | hmem
    · exact hs.known c' hmem
    · split at hmem
      · rw [List.mem_singleton.1 hmem]
        exact hcounted.held_known c (Arena.mem_values hh)
      · cases hmem
  case dated =>
    intro c' context' hget' hvalid'
    rw [hstore] at hget'
    rw [List.count_append]
    by_cases heq : c = c'
    · subst heq
      rw [if_pos rfl, Option.map_eq_some_iff] at hget'
      obtain ⟨context, hget, rfl⟩ := hget'
      have hvalid : context.valid = true := by
        cases houtcome : context.outcome diagnostics <;> rw [houtcome] at hvalid' <;>
          first | exact hvalid' | cases hvalid'
      have hone := hcounted.count_eq_one_iff hh hroom hget hvalid
      have hdated := hs.dated hget hvalid
      -- The generation goes up with the last reference, and the last reference with an attempt.
      by_cases hlast : context.refs = 1
      · have hmore : (context.after (context.outcome diagnostics)).generation =
            context.generation + 1 := by
          unfold Context.outcome
          rw [if_pos hvalid, if_pos hlast]
          cases Verdict.ofLive diagnostics context.live <;> rfl
        have hsingle : s.handles c = 1 := hone.2 hlast
        rw [hmore, hdated, if_pos hsingle, List.count_singleton_self, UInt32.ofNat_add,
          ← UInt32.add_assoc]
        rfl
      · have hsame : (context.after (context.outcome diagnostics)).generation =
            context.generation := by
          unfold Context.outcome
          rw [if_pos hvalid, if_neg hlast]
          rfl
        have hmany : s.handles c ≠ 1 := fun hsingle => hlast (hone.1 hsingle)
        rw [hsame, hdated, if_neg hmany, List.count_nil, Nat.add_zero]
    · rw [if_neg heq] at hget'
      have hother : List.count c' (if s.handles c = 1 then [c] else []) = 0 := by
        split
        · exact List.count_eq_zero.2 fun hmem => heq (List.mem_singleton.1 hmem).symm
        · rfl
      rw [hother]
      exact hs.dated hget' hvalid'

/-- **An operation** dates contexts by its attempts.  Anything but a release leaves generations as
they are. -/
theorem Dated.act (hs : s.Dated past) (hcounted : s.Counted lost)
    (hroom : ∀ c, s.handles c ≤ 2 ^ 32) (hhook : operation.isHook = false) :
    (s.act operation).1.Dated (past ++ s.attempts operation) := by
  -- Only operations on contexts change a generation, and of these only a release.
  cases hcontext : operation.isContextual with
  | false =>
      rw [attempts_eq_nil hcontext, List.append_nil]
      exact hs.same (sameContexts_act hcontext hhook)
  | true =>
    cases operation with
    | createContext settings rule =>
        have hnone : past ++ s.attempts (.createContext settings rule) = past :=
          List.append_nil past
        rw [hnone]
        exact hs.createContext settings rule
    | retainContext h =>
        have hnone : past ++ s.attempts (.retainContext h) = past := List.append_nil past
        rw [hnone]
        exact of_withContext (P := fun s => s.Dated past) hs fun c => hs.retainContext c
    | releaseContext h diagnostics keep =>
        rw [Session.act, withContext]
        split
        · next hh =>
            rw [attempts, hh, Option.toList_none, List.filter_nil, List.append_nil]
            exact hs
        next c hh =>
        rw [(attempts_of_handle hh diagnostics keep).1]
        exact hs.release hcounted (hroom c) hh diagnostics
          (congrArg Store.contexts (releaseContext_eq s h c diagnostics keep).1)
    | dropContext h =>
        rw [Session.act, withContext]
        split
        · next hh =>
            rw [attempts, hh, Option.toList_none, List.filter_nil, List.append_nil]
            exact hs
        next c hh =>
        rw [(attempts_of_handle hh false false).2]
        exact hs.release hcounted (hroom c) hh Verdict.diagnosing
          ((congrArg Store.contexts (dropContext_eq s h c).1).trans (s.store.dropContext_eq c).2)
    | _ => cases hcontext

/-- A process that goes on after an operation was going on before. -/
theorem not_aborted_of_perform (hnext : (s.perform operation).1.aborted = false) :
    s.aborted = false := by
  rw [Session.perform] at hnext
  split at hnext
  · exact hnext
  · next hstarted => exact Bool.eq_false_iff.2 hstarted

/-- Nothing happens after an abort, and an operation that was begun before dates contexts. -/
theorem Dated.perform (hs : s.Dated past) (hbalanced : s.Balanced lost)
    (hstarted : s.aborted = false) (hhook : operation.isHook = false) :
    (s.perform operation).1.Dated (past ++ s.attempts operation) := by
  rw [Session.perform, if_neg (Bool.eq_false_iff.1 hstarted)]
  exact hs.act (hbalanced.counted hstarted) (fun c => Nat.le_of_lt (hbalanced.contexts c)) hhook

/-- **A run** dates contexts by its attempts. -/
theorem Dated.run {operations : List Operation} (hbalanced : s.Balanced lost)
    (hs : s.aborted = false → s.Dated past)
    (hhooks : ∀ operation ∈ operations, operation.isHook = false)
    (hfits : Throughout Fits s operations) (hrunning : (s.run operations).1.aborted = false) :
    (s.run operations).1.Dated (past ++ s.attempted operations) := by
  induction operations generalizing s past lost with
  | nil =>
      rw [attempted, List.append_nil]
      exact hs hrunning
  | cons operation rest ih =>
      have hhook := hhooks operation List.mem_cons_self
      rw [attempted, ← List.append_assoc]
      have hstep : (s.perform operation).1.aborted = false →
          (s.perform operation).1.Dated (past ++ s.attempts operation) := fun hnext =>
        have hstarted := not_aborted_of_perform hnext
        (hs hstarted).perform hbalanced hstarted hhook
      exact ih (hbalanced.perform hhook hfits.1) hstep
        (fun operation hmem => hhooks operation (List.mem_cons_of_mem _ hmem)) hfits.2 hrunning

/-- Before anything is done there are no contexts. -/
theorem dated_start (log : Log) : (start log).Dated [] where
  known c hmem := by cases hmem
  dated hget := by
    rw [start, Arena.get?_empty] at hget
    cases hget

end Attempts

/-! ## The end of the process

There is one way for a process to end, and it is looked for among all operations.
-/

section Ends

variable {s : Session} {past : List ContextId} {h : Handle} {c : ContextId} {context : Context}

/-- Of the answers to a release only one ends the process.  It is given to a caller who is
diagnosing, where others would be refused. -/
theorem aborted_released_iff (hrunning : s.aborted = false) (keep : Bool) (answer : Release) :
    (s.released h c context keep answer).aborted = true ↔ answer = .aborted := by
  cases answer with
  | destroyed => cases keep <;> simp [released, forgetContext, hrunning]
  | aborted => simp [released, abort]
  | _ => simp [released, forgetContext, hrunning]

/-- Nobody who drops a handle asks for a diagnosis. -/
theorem aborted_dropContext (h : Handle) (c : ContextId) :
    (s.dropContext h c).1.aborted = s.aborted := by
  have hgoes : (s.store.dropContext c).2 ≠ .aborted := by
    rw [(s.store.dropContext_eq c).1]
    cases hget : s.store.contexts.get? c with
    | none => simp [Store.releaseContext, hget]
    | some context =>
        rw [(Store.releaseContext_eq hget _).1]
        intro haborted
        have hdiagnosing := (Context.outcome_eq_aborted_iff.1 haborted).2.2.2
        cases hdiagnosing
  rw [Session.dropContext, onStore_eq]
  rcases hanswer : s.store.dropContext c with ⟨store, _ | _ | _ | _ | _⟩
  case aborted => exact absurd (congrArg Prod.snd hanswer) hgoes
  all_goals rfl

/-- **The process ends** where a diagnosing caller gives up the last handle on a context that errors
are attached to, and nowhere else. -/
theorem aborted_perform_iff (hs : s.Balanced past) (hregistered : s.store.Registered s.holdings)
    (hrunning : s.aborted = false) (operation : Operation) :
    (s.perform operation).1.aborted = true ↔
      ∃ h keep c context, operation = .releaseContext h true keep ∧
        s.contexts.get? h = some c ∧ s.store.contexts.get? c = some context ∧
        context.valid = true ∧ s.handles c = 1 ∧ s.attached c ≠ 0 := by
  constructor
  -- Back to front: the release described does end the process.
  case mpr =>
    rintro ⟨h, keep, c, context, rfl, hh, hget, hvalid, hsole, hattached⟩
    have houtcome := outcome_eq hs hregistered hrunning hh hget hvalid true
    rw [hsole, if_neg (Nat.lt_irrefl 1), if_neg hattached, if_pos rfl] at houtcome
    rw [perform_releaseContext hrunning hh hget]
    exact (aborted_released_iff hrunning keep _).2 houtcome
  case mp =>
    intro hends
    have hacts : s.perform operation = s.act operation := if_neg (Bool.eq_false_iff.1 hrunning)
    -- What changes whether the process runs is an operation on a context, and of these a release.
    have hchanged : (s.act operation).1.aborted ≠ s.aborted := by
      rw [← hacts, hends, hrunning]
      decide
    cases hcontext : operation.isContextual with
    | false => exact absurd (beside_act hcontext).2 hchanged
    | true =>
      cases operation with
      | createContext settings rule =>
          refine absurd ?_ hchanged
          rw [act, Session.createContext, onStore_eq]
          cases (createOver s.store settings rule).2 <;> rfl
      | retainContext h =>
          refine absurd ?_ hchanged
          exact of_withContext (P := fun s' => s'.aborted = s.aborted) rfl fun c => rfl
      | dropContext h =>
          refine absurd ?_ hchanged
          exact of_withContext (P := fun s' => s'.aborted = s.aborted) rfl (aborted_dropContext h)
      | releaseContext h diagnostics keep =>
          cases hh : s.contexts.get? h with
          | none =>
              refine absurd ?_ hchanged
              rw [act, withContext, hh]
          | some c =>
          cases hget : s.store.contexts.get? c with
          | none =>
              refine absurd ?_ hchanged
              rw [act, withContext, hh]
              dsimp only
              rw [Session.releaseContext, onStore_eq, Store.releaseContext, hget]
          | some context =>
              rw [perform_releaseContext hrunning hh hget] at hends
              have haborted := (aborted_released_iff hrunning keep _).1 hends
              obtain ⟨hvalid, -, -, rfl⟩ := Context.outcome_eq_aborted_iff.1 haborted
              rw [outcome_eq hs hregistered hrunning hh hget hvalid] at haborted
              refine ⟨h, keep, c, context, rfl, hh, hget, hvalid, ?_, ?_⟩
              -- The answer says that the counts are those described: any other would not have ended
              -- it.
              · have hpos : 0 < s.handles c := Multiset.count_pos.2 (Arena.mem_values hh)
                by_contra hsole
                rw [if_pos (by omega)] at haborted
                cases haborted
              · intro hnone
                rw [if_pos hnone] at haborted
                split at haborted <;> cases haborted
      | _ => cases hcontext

end Ends

/-! ## Refused time and again

A refusal hands the reference back, so the next one finds what the first one found.  Any number of
them is an induction, and in the end the generation is all that tells how many there were.
-/

section Refusals

variable {s : Session} {h : Handle} {c : ContextId} {context : Context}

/-- A session a number of attempts on a context later, with what was logged meanwhile.  Nothing else
of it has changed. -/
def later (s : Session) (c : ContextId) (attempts : Nat) (log : Log) : Session :=
  { s with
    store.contexts := s.store.contexts.modify c fun x =>
      { x with generation := x.generation + .ofNat attempts }
    store.log := log }

/-- Attempts add up, in the arithmetic of the word.  So a state is reached again after `2 ^ 32` of
them. -/
theorem later_later (s : Session) (c : ContextId) (m n : Nat) (log log' : Log) :
    (s.later c m log).later c n log' = s.later c (m + n) log' := by
  simp only [later, Arena.modify_modify, Function.comp_def, UInt32.ofNat_add, UInt32.add_assoc]

/-- No attempts are none. -/
theorem later_zero (s : Session) (c : ContextId) : s.later c 0 s.store.log = s := by
  have hsame :
      s.store.contexts.modify c (fun x => { x with generation := x.generation + .ofNat 0 }) =
        s.store.contexts := by
    apply Arena.modify_eq_self
    intro context _
    exact congrArg (fun generation => { context with generation }) (UInt32.add_zero _)
  rw [later, hsame]

/-- **However often the last handle is refused**, it comes back, and nothing but the generation of
the context and the log has changed. -/
theorem run_refusals (hrunning : s.aborted = false) (hh : s.contexts.get? h = some c)
    (hget : s.store.contexts.get? c = some context) (hrefused : context.outcome false = .refused)
    (n : Nat) (keep : Bool) :
    let refusals := List.replicate n (Operation.releaseContext h false keep)
    (s.run refusals).2 = List.replicate n (.released .refused) ∧
      (s.run refusals).1 = s.later c n (s.run refusals).1.store.log := by
  induction n generalizing s context with
  | zero => exact ⟨rfl, (later_zero s c).symm⟩
  | succ n ih =>
      have hfirst := perform_releaseContext hrunning hh hget false keep
      rw [hrefused] at hfirst
      have hlater : ∃ log, s.released h c context keep .refused = s.later c 1 log := ⟨_, rfl⟩
      obtain ⟨log, hlater⟩ := hlater
      rw [hlater] at hfirst
      have hget' : (s.later c 1 log).store.contexts.get? c =
          some { context with generation := context.generation + .ofNat 1 } := by
        show (s.store.contexts.modify c _).get? c = _
        rw [Arena.get?_modify, if_pos rfl, hget]
        rfl
      obtain ⟨hanswers, hleft⟩ := ih (s := s.later c 1 log) hrunning hh hget' hrefused
      intro refusals
      have hrun : s.run refusals =
          (((s.later c 1 log).run (List.replicate n (.releaseContext h false keep))).1,
            .released .refused ::
              ((s.later c 1 log).run (List.replicate n (.releaseContext h false keep))).2) := by
        simp only [refusals, List.replicate_succ, run, hfirst]
      rw [hrun]
      refine ⟨congrArg (Outcome.released .refused :: ·) hanswers, ?_⟩
      rw [later_later, Nat.add_comm] at hleft
      exact hleft

section Unlogged

/-! Where nothing is logged, the session after any number of refusals is known to the last
detail, and a run of billions of them is one step. -/

variable (hrunning : s.aborted = false) (hh : s.contexts.get? h = some c)
  (hget : s.store.contexts.get? c = some context) (hrefused : context.outcome false = .refused)
  (hoff : s.store.log.filter = .off) (keep : Bool)
include hrunning hh hget hrefused hoff

/-- With nothing logged, one more refusal is one more attempt and nothing else.  The premises on the
context do not look at its generation, so they are there again for the next one. -/
theorem perform_refusal (n : Nat) :
    (s.later c n s.store.log).perform (.releaseContext h false keep) =
      (s.later c (n + 1) s.store.log, .released .refused) := by
  have hget' : (s.later c n s.store.log).store.contexts.get? c =
      some { context with generation := context.generation + .ofNat n } := by
    show (s.store.contexts.modify c _).get? c = _
    rw [Arena.get?_modify, if_pos rfl, hget]
    rfl
  have hreleased :=
    perform_releaseContext (s := s.later c n s.store.log) hrunning hh hget' false keep
  have hanswer : ({ context with generation := context.generation + .ofNat n } : Context).outcome
      false = .refused := hrefused
  have hmore : (s.later c n s.store.log).released h c
        { context with generation := context.generation + .ofNat n } keep .refused =
      (s.later c n s.store.log).later c 1 ((s.store.log.emit .error Store.contextOrigin
        (Store.liveText context.live)).emit .warn Store.contextOrigin
          "context teardown refused, reference restored") := rfl
  rw [hreleased, hanswer, hmore, Log.emit_of_off hoff, Log.emit_of_off hoff, later_later]

/-- So is any number of them. -/
theorem run_refusals_of_off (n : Nat) :
    (s.run (List.replicate n (.releaseContext h false keep))).1 = s.later c n s.store.log := by
  have hrun := run_replicate (fun m => s.later c m s.store.log)
    (fun m => congrArg Prod.fst (perform_refusal hrunning hh hget hrefused hoff keep m)) n
  rwa [later_zero] at hrun

/-- Each of them is an attempt. -/
theorem attempted_refusals (hsole : s.handles c = 1) (n : Nat) :
    s.attempted (List.replicate n (.releaseContext h false keep)) = List.replicate n c := by
  suffices hall : ∀ m, (s.later c m s.store.log).attempted
      (List.replicate n (.releaseContext h false keep)) = List.replicate n c by
    have hfirst := hall 0
    rwa [later_zero] at hfirst
  induction n with
  | zero => exact fun _ => rfl
  | succ n ih =>
      intro m
      have hattempt : (s.later c m s.store.log).attempts (.releaseContext h false keep) = [c] :=
        (attempts_of_handle hh false keep).1.trans (if_pos hsole)
      rw [List.replicate_succ, attempted, hattempt,
        perform_refusal hrunning hh hget hrefused hoff keep m, ih, List.replicate_succ]
      rfl

/-- What holds of one refusal at any generation holds of all of them.  Such a run can be as long as
a generation is wide, and nothing has to be evaluated along it. -/
theorem throughout_refusals {P : Session → Operation → Prop}
    (hP : ∀ m, P (s.later c m s.store.log) (.releaseContext h false keep)) (n : Nat) :
    Throughout P s (List.replicate n (.releaseContext h false keep)) := by
  have hall := throughout_replicate (fun m => s.later c m s.store.log)
    (fun m => congrArg Prod.fst (perform_refusal hrunning hh hget hrefused hoff keep m)) hP n
  rwa [later_zero] at hall

/-- No refusal takes a reference. -/
theorem scant_refusal (hfaults : (s.holdings.references s.store).card < 2 ^ 32)
    (hcontexts : s.contexts.values.card < 2 ^ 32) (n : Nat) :
    (s.later c n s.store.log).Scant (.releaseContext h false keep) := by
  refine ⟨hfaults, ?_⟩
  rw [perform_refusal hrunning hh hget hrefused hoff keep n]
  exact ⟨hfaults, hcontexts⟩

end Unlogged

/-- Once nothing is registered with it, a context goes with its last handle.  So whoever was refused
can always get rid of a context by detaching its errors first. -/
theorem destroyed_of_detachRegistry (hrunning : s.aborted = false)
    (hh : s.contexts.get? h = some c) (hget : s.store.contexts.get? c = some context)
    (hvalid : context.valid = true) (hlast : context.refs = 1) (diagnostics keep : Bool) :
    ((s.perform (.detachRegistry h)).1.perform (.releaseContext h diagnostics keep)).2 =
      .released .destroyed := by
  have hdetached : s.perform (.detachRegistry h) =
      ({ s with store := (s.store.detachRegistry c).1 }, .count (s.store.detachRegistry c).2) := by
    rw [perform, if_neg (Bool.eq_false_iff.1 hrunning), act, withContext, hh]
    rfl
  have hempty : (s.store.detachRegistry c).1.contexts.get? c =
      some { context with registry := [] } := by
    rw [Store.detachRegistry_eq s.store hget, Store.contexts_freeAll, Store.contexts_detachAll]
    show (s.store.contexts.modify c _).get? c = _
    rw [Arena.get?_modify, if_pos rfl, hget]
    rfl
  let detached : Session := { s with store := (s.store.detachRegistry c).1 }
  have hreleased := perform_releaseContext (s := detached) hrunning hh hempty diagnostics keep
  rw [hdetached]
  refine (congrArg Prod.snd hreleased).trans ?_
  exact congrArg Outcome.released (Context.outcome_eq_destroyed_iff.2 ⟨hvalid, hlast, rfl⟩)

end Refusals

/-- **What a release comes to**, after every run that does not run out of references.

* A handle on a valid context is given up with the answer that the handles on the context, the
  errors attached to it and the caller decide, and leaves behind what `Session.released` says.
* The process ends where a diagnosing caller gives up the last handle on a context that errors are
  attached to, and nowhere else.
* The generation of a valid context is one and the number of attempts on it.
* A last handle that is refused any number of times is still there, with nothing changed but the
  generation, and goes with its context once the registry is emptied. -/
theorem teardown_of_run (log : Log) (operations : List Operation)
    (hhooks : ∀ operation ∈ operations, operation.isHook = false)
    (hfits : Throughout Fits (start log) operations) :
    let s := ((start log).run operations).1
    s.aborted = false →
    (∀ h c context, s.contexts.get? h = some c → s.store.contexts.get? c = some context →
      context.valid = true → ∀ diagnostics keep,
      let answer : Release :=
        if 1 < s.handles c then .retained
        else if s.attached c = 0 then .destroyed
        else if diagnostics then .aborted
        else .refused
      s.perform (.releaseContext h diagnostics keep) =
        (s.released h c context keep answer, .released answer)) ∧
    (∀ operation, (s.perform operation).1.aborted = true ↔
      ∃ h keep c context, operation = .releaseContext h true keep ∧
        s.contexts.get? h = some c ∧ s.store.contexts.get? c = some context ∧
        context.valid = true ∧ s.handles c = 1 ∧ s.attached c ≠ 0) ∧
    (∀ c context, s.store.contexts.get? c = some context → context.valid = true →
      let attempts := ((start log).attempted operations).count c
      context.generation = 1 + .ofNat attempts ∧
      (1 + attempts < 2 ^ 32 → context.generation.toNat = 1 + attempts)) ∧
    (∀ h c context, s.contexts.get? h = some c → s.store.contexts.get? c = some context →
      context.valid = true → s.handles c = 1 → s.attached c ≠ 0 → ∀ n keep,
      let refusals := s.run (List.replicate n (.releaseContext h false keep))
      refusals.2 = List.replicate n (.released .refused) ∧
      refusals.1 = s.later c n refusals.1.store.log ∧
      ∀ diagnostics,
        let detached := (refusals.1.perform (.detachRegistry h)).1
        (detached.perform (.releaseContext h diagnostics keep)).2 = .released .destroyed) := by
  intro s hrunning
  -- Handles are counted by the context, entries by the registry, attempts by the generation: one
  -- invariant for each.
  have hs : s.Balanced ((start log).lost operations) := (balanced_start log).run hhooks hfits
  have hregistered : s.store.Registered s.holdings :=
    Store.invariant_registered.run Store.takes_registered Store.blind_registered hhooks
      (registered_start log)
  have hdated : s.Dated ((start log).attempted operations) :=
    Dated.run (balanced_start log) (fun _ => dated_start log) hhooks hfits hrunning
  refine ⟨fun h c context hh hget hvalid diagnostics keep => ?_,
    aborted_perform_iff hs hregistered hrunning, fun c context hget hvalid => ⟨?_, fun hroom => ?_⟩,
    fun h c context hh hget hvalid hsole hattached n keep => ?_⟩
  · rw [perform_releaseContext hrunning hh hget,
      outcome_eq hs hregistered hrunning hh hget hvalid]
  · exact hdated.dated hget hvalid
  · have hbelow : ((start log).attempted operations).count c < UInt32.size :=
      Nat.lt_of_le_of_lt (Nat.le_add_left _ 1) hroom
    rw [hdated.dated hget hvalid, UInt32.toNat_add, UInt32.toNat_ofNat_of_lt' hbelow]
    exact Nat.mod_eq_of_lt hroom
  -- The state after any number of refusals is known as a whole, so what it answers can be computed.
  · have hrefused : context.outcome false = .refused := by
      rw [outcome_eq hs hregistered hrunning hh hget hvalid, hsole, if_neg (Nat.lt_irrefl 1),
        if_neg hattached, if_neg Bool.false_ne_true]
    obtain ⟨-, hlast, -⟩ := Context.outcome_eq_refused_iff.1 hrefused
    obtain ⟨hanswers, hleft⟩ := run_refusals hrunning hh hget hrefused n keep
    refine ⟨hanswers, hleft, fun diagnostics => ?_⟩
    generalize (s.run (List.replicate n (.releaseContext h false keep))).1 = refused at hleft
    have hget' : refused.store.contexts.get? c =
        some { context with generation := context.generation + .ofNat n } := by
      rw [hleft]
      show (s.store.contexts.modify c _).get? c = _
      rw [Arena.get?_modify, if_pos rfl, hget]
      rfl
    refine destroyed_of_detachRegistry ?_ ?_ hget' hvalid hlast diagnostics keep
    · rw [hleft]
      exact hrunning
    · rw [hleft]
      exact hh

/-- After the sample run one handle is left on the second context, and one error is attached. -/
theorem teardown_of_sampleRun :
    (∀ operation ∈ sampleRun, operation.isHook = false) ∧
    Throughout Fits (start { filter := .off }) sampleRun ∧
    (let s := ((start { filter := .off }).run sampleRun).1
    s.aborted = false ∧
    (s.perform (.releaseContext 1 false false)).2 = .released .refused ∧
    (s.perform (.releaseContext 1 true false)).1.aborted = true ∧
    ∀ n,
      let refusals := s.run (List.replicate n (.releaseContext 1 false false))
      let detached := (refusals.1.perform (.detachRegistry 1)).1
      (detached.perform (.releaseContext 1 false false)).2 = .released .destroyed) := by
  have hhooks : ∀ operation ∈ sampleRun, operation.isHook = false := by decide
  have hscant : Throughout Scant (start { filter := .off }) sampleRun := by decide +kernel
  have hfits := hscant.mono fun _ _ => Scant.fits
  have hrunning : ((start { filter := .off }).run sampleRun).1.aborted = false := by
    decide +kernel
  have hstate : let s := ((start { filter := .off }).run sampleRun).1
      s.contexts.get? 1 = some 1 ∧ (s.store.contexts.get? 1).any (·.valid) = true ∧
        s.handles 1 = 1 ∧ s.attached 1 ≠ 0 := by
    decide +kernel
  have hlaw := teardown_of_run { filter := .off } sampleRun hhooks hfits hrunning
  refine ⟨hhooks, hfits, ?_⟩
  generalize ((start { filter := .off }).run sampleRun).1 = s at hrunning hlaw hstate ⊢
  obtain ⟨hh, hvalid, hsole, hattached⟩ := hstate
  cases hget : s.store.contexts.get? 1 with
  | none => rw [hget] at hvalid; cases hvalid
  | some context =>
  rw [hget] at hvalid
  obtain ⟨hreleased, -, -, hrefusals⟩ := hlaw
  refine ⟨hrunning, ?_, ?_, fun n => ?_⟩
  · rw [hreleased 1 1 context hh hget hvalid, hsole, if_neg (Nat.lt_irrefl 1), if_neg hattached]
    rfl
  · rw [hreleased 1 1 context hh hget hvalid, hsole, if_neg (Nat.lt_irrefl 1), if_neg hattached]
    rfl
  · exact (hrefusals 1 1 context hh hget hvalid hsole hattached n false).2.2 false

end Session

end FaultChain

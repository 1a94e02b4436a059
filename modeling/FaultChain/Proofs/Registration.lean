import FaultChain.Proofs.References
import FaultChain.Proofs.Sessions

/-!
# Registered is attached

The link of an error to its context is weak: following it is safe only because a registry lists
exactly the errors that are attached to its context, and a context is not taken down before its
registry is empty.  `Registered` states the first as one equation, a count in a registry against a
link, and the second as one implication; every change keeps both (`invariant_registered`).

### What is load-bearing

An error is attached before its entry is asked for, and the request lets readers in.  Until the
entry is made or the error is detached, the equation fails for this one error (`Holdings.fresh`).
What makes the gap harmless is that nobody else can name the error yet: all references on it are the
one of the operation that creates it, so no reader can release it.

### Why counts

A registry is a list, and an error could be in it twice: an entry is made by pushing it in front,
without looking whether the error is listed.  That the library never does so is part of what is to
be proved, so `Registered.listed` counts entries and does not merely ask for membership.  A count
also says in one equation that an error is in no other registry, because its link leads to one
context only.

### Where the raw hooks come in

`Operation.track` and `Operation.untrack` make and remove entries past the links, as a diagnosing
caller may.  After either of them registry and links need not agree, so the law is about runs
without them (`registration_of_run`), and what can still be said of runs with them is in
`FaultChain.Proofs.Hooks`.
-/

namespace FaultChain

open Memory (Block Backend Reentry)

/-- The errors that are registered with a context, the latest first.  The blocks that the entries
live in are left out; who owns them is a matter of accounting. -/
def Context.members (context : Context) : List FaultId :=
  context.registry.map Registration.fault

namespace Store

/-- The errors that are registered with a context, if it is there.  They are listed by their
entries, the latest first. -/
def members (s : Store) (c : ContextId) : List FaultId :=
  ((s.contexts.get? c).map Context.members).getD []

/-- The context that an error is attached to, if it is there and attached.  It is where the link of
the error leads, whether or not there is an entry. -/
def home (s : Store) (e : FaultId) : Option ContextId :=
  (s.faults.get? e).bind Fault.context

/-- **A registry lists the errors that are attached to its context**, once each, and an error that
waits for its entry not yet. -/
structure Registered (o : Holdings) (s : Store) : Prop where
  listed : ∀ c e, (s.members c).count e = if s.home e = some c ∧ o.fresh ≠ some e then 1 else 0
  /-- Errors are registered with valid contexts only. -/
  valid : ∀ {c context e}, s.contexts.get? c = some context → e ∈ s.members c →
    context.valid = true
  /-- References are on errors that were created. -/
  known : ∀ e ∈ o.references s, e < s.faults.next
  /-- An error that waits for its entry is attached, and has one reference, that of whoever creates
  it. -/
  fresh : ∀ e, o.fresh = some e → (∃ c, s.home e = some c) ∧ (o.references s).count e ≤ 1

/-! ## Registries and links after a change

Registries are looked at by contexts, and links by errors.  Each change is told twice, as both sides
of the agreement need to know it.
-/

section Changes

variable {s s' : Store} {c : ContextId} {context : Context} {e : FaultId} {f : Fault}

/-- The registry of a context that is there. -/
theorem members_of_get? (hget : s.contexts.get? c = some context) :
    s.members c = context.registry.map Registration.fault := by
  rw [members, hget]
  rfl

/-- Registries are part of contexts, so what leaves contexts alone leaves them alone. -/
theorem members_congr (h : s'.contexts = s.contexts) (c : ContextId) :
    s'.members c = s.members c := by
  rw [members, members, h]

/-- A change of one context changes its registry and no other. -/
theorem members_modifyContext (s : Store) (c : ContextId) (g : Context → Context)
    (c' : ContextId) :
    (s.modifyContext c g).members c' =
      if c = c' then ((s.contexts.get? c').map fun context => (g context).members).getD []
      else s.members c' := by
  unfold members modifyContext
  rw [Arena.get?_modify]
  split
  · rw [Option.map_map]
    rfl
  · rfl

/-- Taking an error out of a registry removes one entry of it.  That there is only one is what the
agreement with links says. -/
theorem members_untrack (s : Store) (c : ContextId) (e : FaultId) (c' : ContextId) :
    (s.untrack c e).members c' = if c = c' then (s.members c').erase e else s.members c' := by
  unfold untrack
  cases hget : s.contexts.get? c with
  | none =>
      dsimp only
      split
      · next heq => rw [members, ← heq, hget]; rfl
      · rfl
  | some context =>
      dsimp only
      split
      · next hfind =>
          split
          · next heq =>
              rw [← heq, members_of_get? hget, List.erase_of_not_mem]
              rw [List.find?_eq_none] at hfind
              intro hmem
              obtain ⟨r, hr, rfl⟩ := List.mem_map.1 hmem
              exact hfind r hr (beq_self_eq_true _)
          · rfl
      · refine (members_modifyContext s c _ c').trans ?_
        split
        · next heq =>
            rw [← heq, hget, members_of_get? hget, List.erase_eq_eraseP', List.eraseP_map]
            rfl
        · rfl

/-- A change of an error that keeps its link, such as a reference or a document, attaches and
detaches nobody. -/
theorem home_modifyFault (s : Store) (e : FaultId) {g : Fault → Fault}
    (hg : ∀ f, (g f).context = f.context) (e' : FaultId) :
    (s.modifyFault e g).home e' = s.home e' := by
  unfold home modifyFault
  rw [Arena.get?_modify]
  split
  · rw [Option.bind_map]
    exact congrArg (Option.bind _) (funext hg)
  · rfl

/-- A detached error has no home, and the others keep theirs. -/
theorem home_detach (s : Store) (e e' : FaultId) :
    (s.detach e).home e' = if e = e' then none else s.home e' := by
  unfold home detach modifyFault
  rw [Arena.get?_modify]
  split
  · rw [Option.bind_map]
    exact Option.bind_fun_none _
  · rfl

/-- An error that is gone has no home. -/
theorem home_of_erase (h : s'.faults = s.faults.erase e) (e' : FaultId) :
    s'.home e' = if e = e' then none else s.home e' := by
  unfold home
  rw [h, Arena.get?_erase]
  split <;> rfl

/-- An emptied registry is empty, and the others are as they were. -/
theorem members_detachRegistry (s : Store) (c c' : ContextId) :
    (s.detachRegistry c).1.members c' = if c = c' then [] else s.members c' := by
  cases hget : s.contexts.get? c with
  | none =>
      rw [detachRegistry, hget]
      dsimp only
      split
      · next heq => rw [members, ← heq, hget]; rfl
      · rfl
  | some context =>
      have hcontexts : (s.detachRegistry c).1.contexts =
          s.contexts.modify c fun context => { context with registry := [] } := by
        rw [detachRegistry_eq s hget, contexts_freeAll, contexts_detachAll]
        rfl
      rw [members, hcontexts, Arena.get?_modify]
      split
      · next heq => rw [← heq, hget]; rfl
      · rfl

/-- Exactly the errors of the registry are detached.  That is why a context whose registry was
emptied has nobody who could still follow a link to it. -/
theorem home_detachRegistry (s : Store) (c : ContextId) (e : FaultId) :
    (s.detachRegistry c).1.home e = if e ∈ s.members c then none else s.home e := by
  cases hget : s.contexts.get? c with
  | none =>
      rw [detachRegistry, members, hget]
      exact (if_neg List.not_mem_nil).symm
  | some context =>
      rw [detachRegistry_eq s hget, members_of_get? hget]
      unfold home
      rw [faults_freeAll, get?_detachAll, Option.bind_map]
      split
      · exact Option.bind_fun_none _
      · rfl

end Changes

/-! ## What keeps registries and links together

The two agree at every moment but one, and there the error that is between them is named.  From that
moment on it is either entered or detached, and the agreement is back.
-/

section Keeping

variable {o o' : Holdings} {s s' : Store} {c : ContextId} {context : Context} {e : FaultId}
  {f : Fault}

/-- Nothing changes but references, and those become no more. -/
theorem Registered.congr (h : Registered o s) (hcontexts : s'.contexts = s.contexts)
    (hhome : ∀ e, s'.home e = s.home e) (hnext : s'.faults.next = s.faults.next)
    (hfresh : o'.fresh = o.fresh) (href : o'.references s' ≤ o.references s) :
    Registered o' s' where
  listed c e := by
    rw [members_congr hcontexts, hhome, hfresh]
    exact h.listed c e
  valid hget hmem := h.valid (hcontexts ▸ hget) (members_congr hcontexts _ ▸ hmem)
  known e hmem := hnext ▸ h.known e (Multiset.mem_of_le href hmem)
  fresh e he := by
    obtain ⟨hlink, hcount⟩ := h.fresh e (hfresh ▸ he)
    rw [hhome]
    exact ⟨hlink, Nat.le_trans (Multiset.count_le_of_le e href) hcount⟩

/-- A change of an error that keeps its link and its cause is no change for registries. -/
theorem Registered.modifyFault (h : Registered o s) (e : FaultId) {g : Fault → Fault}
    (hcontext : ∀ f, (g f).context = f.context) (hcause : ∀ f, (g f).cause = f.cause) :
    Registered o (s.modifyFault e g) :=
  h.congr rfl (home_modifyFault s e hcontext) (Arena.next_modify _ _ _) rfl
    (references_modifyFault o s e hcause).le

/-- An error to which there is a reference besides that of whoever creates it is not fresh.  So
nobody else can do anything to the one that is. -/
theorem Registered.not_fresh (h : Registered (o.hold e) s) : o.fresh ≠ some e := by
  intro hfresh
  have hcount := (h.fresh e hfresh).2
  have hself : e ∈ o.references s := by
    rw [Holdings.references, hfresh, Option.toList_some, Multiset.coe_singleton, add_assoc,
      add_assoc, Multiset.mem_add, Multiset.mem_add]
    exact .inr (.inl (Multiset.mem_singleton_self e))
  rw [references_hold, Multiset.count_cons_self] at hcount
  have hpos := Multiset.count_pos.2 hself
  omega

/-- An error that goes takes its entry with it, and the reference on its cause is in somebody's
hands from then on.  The cause is older than the error, so it is still there. -/
theorem Registered.destroy (h : Registered (o.hold e) s) (hget : s.faults.get? e = some f) :
    Registered (o.holdAll (f.cause.toList.filter (· < e))) ((s.untrackOwn e f).destroy e f) := by
  have hfresh := h.not_fresh
  have hhome : s.home e = f.context := by rw [home, hget, Option.bind_some]
  have hfaults := faults_destroyed s e f
  have hcontexts : ((s.untrackOwn e f).destroy e f).contexts = (s.untrackOwn e f).contexts := by
    rw [destroy_eq, contexts_freeAll]
    rfl
  have hmembers : ∀ c, ((s.untrackOwn e f).destroy e f).members c =
      if f.context = some c then (s.members c).erase e else s.members c := by
    intro c
    rw [members_congr hcontexts]
    unfold untrackOwn
    cases f.context with
    | none => rfl
    | some c' =>
        rw [members_untrack]
        simp only [Option.some.injEq]
  have href : (o.holdAll (f.cause.toList.filter (· < e))).references
      ((s.untrackOwn e f).destroy e f) ≤ (o.hold e).references s := by
    rw [references_hold, ← references_destroyed (o := o) hget, references_holdAll,
      references_holdAll]
    refine le_trans ?_ (Multiset.le_cons_self _ e)
    exact add_le_add_left (Multiset.coe_le.2 List.filter_sublist.subperm) _
  constructor
  case listed =>
    intro c e'
    rw [hmembers, home_of_erase hfaults, Holdings.fresh_holdAll]
    by_cases heq : e = e'
    · subst heq
      have hcount := h.listed c e
      rw [hhome] at hcount
      -- The entry of the error goes together with its link.
      have hnone : ¬((none : Option ContextId) = some c ∧ o.fresh ≠ some e) := nofun
      rw [if_pos rfl, if_neg hnone]
      by_cases hlink : f.context = some c
      · rw [if_pos ⟨hlink, hfresh⟩] at hcount
        rw [if_pos hlink, List.count_erase_self, hcount]
      · rw [if_neg fun hboth => hlink hboth.1] at hcount
        rw [if_neg hlink, hcount]
    · rw [if_neg heq]
      refine Eq.trans ?_ (h.listed c e')
      split
      · exact List.count_erase_of_ne (Ne.symm heq)
      · rfl
  case valid =>
    intro c context' e' hget' hmem
    rw [hcontexts] at hget'
    have hmap := (follows_untrackOwn (s := s) e f).contexts c
    rw [hget', Option.map_some, eq_comm, Option.map_eq_some_iff] at hmap
    obtain ⟨context, hcontext, hbare⟩ := hmap
    refine (Context.valid_of_bare hbare).symm.trans (h.valid hcontext (e := e') ?_)
    rw [hmembers] at hmem
    split at hmem
    · exact List.mem_of_mem_erase hmem
    · exact hmem
  case known =>
    intro e' hmem
    rw [hfaults, Arena.next_erase]
    exact h.known e' (Multiset.mem_of_le href hmem)
  case fresh =>
    intro e' he'
    rw [Holdings.fresh_holdAll] at he'
    obtain ⟨hlink, hcount⟩ := h.fresh e' he'
    have hne : e ≠ e' := by
      rintro rfl
      exact hfresh he'
    rw [home_of_erase hfaults, if_neg hne]
    exact ⟨hlink, Nat.le_trans (Multiset.count_le_of_le e' href) hcount⟩

/-- A new error is attached and waits for its entry: the one moment in which link and registry
disagree. -/
theorem Registered.add (h : Registered (o.holdAll f.cause.toList) s) (hfresh : o.fresh = none)
    (hcontext : f.context = some c) : Registered (o.registering s.faults.next) (s.addFault f) := by
  have hhome : ∀ e, (s.addFault f).home e = if e = s.faults.next then f.context else s.home e := by
    intro e
    unfold home addFault
    rw [Arena.get?_insert]
    split <;> rfl
  have hnone : s.home s.faults.next = none := by
    rw [home, Arena.get?_eq_none_of_next_le (Nat.le_refl _)]
    rfl
  have href := references_add (s := s) (f := f) hfresh
  constructor
  case listed =>
    intro c e
    have hcount := h.listed c e
    rw [Holdings.fresh_holdAll, hfresh] at hcount
    refine hcount.trans ?_
    rw [hhome]
    -- The new error has a home and no place there yet, which is what it means to be waiting for
    -- one.
    by_cases heq : e = s.faults.next
    · subst heq
      rw [hnone, if_neg (fun hboth => by cases hboth.1), if_neg (fun hboth => hboth.2 rfl)]
    · rw [if_neg heq]
      have hother : (o.registering s.faults.next).fresh ≠ some e :=
        fun hsome => heq (Option.some.inj hsome).symm
      simp only [ne_eq, reduceCtorEq, not_false_eq_true, and_true, hother]
  case valid => exact h.valid
  case known =>
    intro e hmem
    rw [addFault, Arena.next_insert]
    rw [href, Multiset.mem_cons] at hmem
    rcases hmem with rfl | hmem
    · exact Nat.lt_succ_self _
    · exact Nat.lt_succ_of_lt (h.known e hmem)
  case fresh =>
    intro e he
    obtain rfl : s.faults.next = e := Option.some.inj he
    refine ⟨⟨c, by rw [hhome, if_pos rfl, hcontext]⟩, ?_⟩
    -- Nobody else can have named a key that was not given out.
    rw [href, Multiset.count_cons_self, Multiset.count_eq_zero.2]
    intro hmem
    exact absurd (h.known _ hmem) (Nat.lt_irrefl _)

/-- The error that waits for its entry is in no registry, so it is in one once it has its entry.
Its context is still valid, as it was when the error was created. -/
theorem Registered.enlist (h : Registered (o.registering e) s) (hfresh : o.fresh = none)
    (hget : s.contexts.get? c = some context) (hvalid : context.valid = true)
    (hlink : s.home e = some c) (node : Block) :
    Registered (o.hold e) (s.modifyContext c fun context =>
      { context with registry := { fault := e, node } :: context.registry }) := by
  have hmembers : ∀ c', (s.modifyContext c fun context =>
      { context with registry := { fault := e, node } :: context.registry }).members c' =
      if c = c' then e :: s.members c' else s.members c' := by
    intro c'
    rw [members_modifyContext]
    split
    · next heq => rw [← heq, hget, members_of_get? hget]; rfl
    · rfl
  constructor
  case listed =>
    intro c' e'
    have hcount := h.listed c' e'
    show _ = if s.home e' = some c' ∧ o.fresh ≠ some e' then 1 else 0
    rw [hmembers, hfresh]
    by_cases heq : e = e'
    -- The one error for which the equation failed so far.
    · subst heq
      rw [if_neg fun hboth => hboth.2 rfl] at hcount
      rw [hlink]
      by_cases hc : c = c'
      · rw [if_pos hc, List.count_cons_self, hcount, if_pos ⟨congrArg some hc, nofun⟩]
      · rw [if_neg hc, hcount, if_neg fun hboth => hc (Option.some.inj hboth.1)]
    · have hother : (o.registering e).fresh ≠ some e' := fun hsome => heq (Option.some.inj hsome)
      simp only [ne_eq, hother, not_false_eq_true, and_true] at hcount
      simp only [ne_eq, reduceCtorEq, not_false_eq_true, and_true]
      rw [← hcount]
      split
      · exact List.count_cons_of_ne heq
      · rfl
  case valid =>
    intro c' context' e' hget' hmem
    rw [modifyContext, Arena.get?_modify] at hget'
    split at hget'
    · next heq =>
        rw [← heq, hget, Option.map_some, Option.some.injEq] at hget'
        rw [← hget']
        exact hvalid
    · next hne =>
        rw [hmembers, if_neg hne] at hmem
        exact h.valid hget' hmem
  case known =>
    intro e' hmem
    exact h.known e' ((references_registering hfresh e s).symm ▸ hmem)
  case fresh =>
    intro e' he'
    rw [Holdings.hold, hfresh] at he'
    cases he'

/-- Or it is detached, because there was no block for an entry; then it is in no registry and has no
home, and the two agree again. -/
theorem Registered.dismiss (h : Registered (o.registering e) s) (hfresh : o.fresh = none) :
    Registered (o.hold e) (s.detach e) := by
  have href : (o.hold e).references (s.detach e) = (o.registering e).references s := by
    rw [references_registering hfresh]
    exact references_modifyFault _ s e fun _ => rfl
  constructor
  case listed =>
    intro c e'
    have hcount := h.listed c e'
    show (s.members c).count e' = if (s.detach e).home e' = some c ∧ o.fresh ≠ some e' then 1
      else 0
    rw [hcount, home_detach, hfresh]
    by_cases heq : e = e'
    · subst heq
      rw [if_neg fun hboth => hboth.2 rfl, if_pos rfl, if_neg fun hboth => by cases hboth.1]
    · have hother : (o.registering e).fresh ≠ some e' := fun hsome => heq (Option.some.inj hsome)
      simp only [ne_eq, hother, not_false_eq_true, and_true, heq, if_false, reduceCtorEq]
  case valid => exact h.valid
  case known =>
    intro e' hmem
    rw [href] at hmem
    exact Nat.lt_of_lt_of_eq (h.known e' hmem) (Arena.next_modify _ _ _).symm
  case fresh =>
    intro e' he'
    rw [Holdings.hold, hfresh] at he'
    cases he'

/-- While no error waits for its entry, being listed is being attached. -/
theorem Registered.mem_members_iff (h : Registered o s) (hfresh : o.fresh = none) :
    e ∈ s.members c ↔ s.home e = some c := by
  have hcount := h.listed c e
  rw [hfresh] at hcount
  rw [← List.count_pos_iff, hcount]
  split
  · next hboth => exact ⟨fun _ => hboth.1, fun _ => Nat.one_pos⟩
  · next hneither => exact ⟨nofun, fun hlink => absurd ⟨hlink, nofun⟩ hneither⟩

/-- Emptying a registry detaches those whom it listed, who are all that were attached. -/
theorem Registered.detachRegistry (h : Registered o s) (hfresh : o.fresh = none)
    (c : ContextId) : Registered o (s.detachRegistry c).1 := by
  have hnext : (s.detachRegistry c).1.faults.next = s.faults.next := by
    cases hget : s.contexts.get? c with
    | none => rw [Store.detachRegistry, hget]
    | some context =>
        rw [detachRegistry_eq s hget, faults_freeAll, next_detachAll]
        rfl
  have href := references_detachRegistry o s c
  constructor
  case listed =>
    intro c' e
    have hcount := h.listed c' e
    have hmem := h.mem_members_iff (c := c) (e := e) hfresh
    rw [members_detachRegistry, home_detachRegistry]
    by_cases hc : c = c'
    · subst hc
      rw [if_pos rfl, List.count_nil]
      split
      · rw [if_neg fun hboth => by cases hboth.1]
      · next hnone => rw [if_neg fun hboth => hnone (hmem.2 hboth.1)]
    · rw [if_neg hc, hcount]
      -- An error of this registry is in no other one.
      by_cases hsome : e ∈ s.members c
      · have hother : ¬(s.home e = some c' ∧ o.fresh ≠ some e) := fun hboth =>
          hc (Option.some.inj ((hmem.1 hsome).symm.trans hboth.1))
        rw [if_neg hother, if_pos hsome, if_neg fun hboth => by cases hboth.1]
      · rw [if_neg hsome]
  case valid =>
    intro c' context' e hget' hmem
    rw [members_detachRegistry] at hmem
    split at hmem
    · cases hmem
    · next hc =>
        cases hget : s.contexts.get? c with
        | none =>
            rw [Store.detachRegistry, hget] at hget'
            exact h.valid hget' hmem
        | some context =>
            rw [detachRegistry_eq s hget, contexts_freeAll, contexts_detachAll] at hget'
            change (s.contexts.modify c _).get? c' = _ at hget'
            rw [Arena.get?_modify, if_neg hc] at hget'
            exact h.valid hget' hmem
  case known =>
    intro e hmem
    rw [href] at hmem
    rw [hnext]
    exact h.known e hmem
  case fresh =>
    intro e he
    rw [hfresh] at he
    cases he

/-- A new context has an empty registry, and nobody can be attached to it yet. -/
theorem Registered.addContext (h : Registered o s) (hempty : context.registry = []) :
    Registered o (s.addContext context) := by
  have hmembers : ∀ c, (s.addContext context).members c = s.members c := by
    intro c
    rw [members, members, Store.addContext, Arena.get?_insert]
    split
    · next heq =>
        rw [heq, Arena.get?_eq_none_of_next_le (Nat.le_refl _), Option.map_some, Context.members,
          hempty]
        rfl
    · rfl
  constructor
  case listed =>
    intro c e
    rw [hmembers]
    exact h.listed c e
  case valid =>
    intro c context' e hget hmem
    rw [hmembers] at hmem
    rw [Store.addContext, Arena.get?_insert] at hget
    split at hget
    · next heq =>
        rw [members, heq, Arena.get?_eq_none_of_next_le (Nat.le_refl _)] at hmem
        cases hmem
    · exact h.valid hget hmem
  case known => exact h.known
  case fresh => exact h.fresh

/-- Registries, links and validity stay as they are, except that a context without entries may turn
invalid. -/
theorem Registered.modifyContext (h : Registered o s) (c : ContextId) {g : Context → Context}
    (hregistry : ∀ context, (g context).registry = context.registry)
    (hvalid : s.members c = [] ∨ ∀ context, (g context).valid = context.valid) :
    Registered o (s.modifyContext c g) := by
  have hmembers : ∀ c', (s.modifyContext c g).members c' = s.members c' := by
    intro c'
    rw [members_modifyContext]
    split
    · simp only [Context.members, hregistry]
      rfl
    · rfl
  constructor
  case listed =>
    intro c' e
    rw [hmembers]
    exact h.listed c' e
  case valid =>
    intro c' context' e hget hmem
    rw [hmembers] at hmem
    rw [Store.modifyContext, Arena.get?_modify] at hget
    split at hget
    · next heq =>
        subst heq
        obtain ⟨context, hcontext, rfl⟩ := Option.map_eq_some_iff.1 hget
        rcases hvalid with hnone | hvalid
        · rw [hnone] at hmem
          cases hmem
        · exact (hvalid context).trans (h.valid hcontext hmem)
    · exact h.valid hget hmem
  case known => exact h.known
  case fresh => exact h.fresh

/-- **Every change keeps registries and links together.** Most changes leave both alone; the others
change both at once, or name the error between them. -/
theorem invariant_registered : Invariant Registered where
  enter h hget := h.congr rfl (fun _ => rfl) rfl (Holdings.fresh_holdAll _ _)
    (references_enter hget).le
  settle {_ o _ s b _ backend layout} _ _ h hget _ := by
    refine h.congr rfl (fun _ => rfl) rfl ?_ (references_settle hget _ _).le
    cases (backend.settle _ layout).2 <;> rfl
  free h := h.congr rfl (fun _ => rfl) rfl rfl (references_free _ _ _ _).le
  absent {o s e} h _ := by
    refine h.congr rfl (fun _ => rfl) rfl rfl ?_
    rw [references_hold]
    exact Multiset.le_cons_self _ e
  lessen {o s e _} h _ _ := by
    have hless : Registered o s := h.congr rfl (fun _ => rfl) rfl rfl (by
      rw [references_hold]
      exact Multiset.le_cons_self _ e)
    exact hless.modifyFault e (fun _ => rfl) fun _ => rfl
  destroy h hget _ := h.destroy hget
  evict e h := h.modifyFault e (fun _ => rfl) fun _ => rfl
  install {o s e _ _} h _ _ _ _ _ := by
    have hown : Registered o s := h.congr rfl (fun _ => rfl) rfl rfl (le_refl _)
    exact hown.modifyFault e (fun _ => rfl) fun _ => rfl
  emit _ _ _ h := h.congr rfl (fun _ => rfl) rfl rfl (le_refl _)
  openBackend _ _ h := h.congr rfl (fun _ => rfl) rfl rfl (references_openBackend _ _ _ _).le
  failNext _ _ h := h.congr rfl (fun _ => rfl) rfl rfl (references_failNext _ _ _ _).le
  arrange h hget := h.congr rfl (fun _ => rfl) rfl
    ((Holdings.fresh_holdAll _ _).trans (Holdings.fresh_holdAll _ _).symm)
    (references_arrange hget _).le
  add {o s c context block message draft cause} h hfresh _ _ _ _ := by
    refine Registered.add (h.congr rfl (fun _ => rfl) rfl ?_ (le_of_eq ?_)) hfresh rfl
    · rw [Holdings.fresh_holdAll, Holdings.fresh_holdAll]
      rfl
    · rw [references_holdAll, references_holdAll]
      rfl
  -- The error that waits for its entry is the only one with a link and no place.
  enlist {o s e c context node} h hfresh hget hvalid hlink _ := by
    have hplain : Registered (o.registering e) s :=
      h.congr rfl (fun _ => rfl) rfl rfl (le_refl _)
    refine hplain.enlist hfresh hget hvalid ?_ node
    obtain ⟨c', hhome⟩ := (hplain.fresh e rfl).1
    obtain ⟨f, hfault, -⟩ := Option.bind_eq_some_iff.1 hhome
    rw [home, hfault, Option.bind_some, hlink f hfault]
  dismiss h hfresh := h.dismiss hfresh
  detachRegistry c h hfresh := h.detachRegistry hfresh c
  addContext h _ := Registered.addContext (h.congr rfl (fun _ => rfl) rfl rfl (le_refl _)) rfl
  adjust {o s c g} h hg :=
    h.modifyContext c (fun context => by rw [hg]) (.inr fun context => by rw [hg])
  close {o s c context context'} h hget _ hempty _ _ := by
    have hmembers : s.members c = [] := by rw [members_of_get? hget, hempty]; rfl
    have hclosed := h.modifyContext c (g := fun context => { context with valid := false })
      (fun _ => rfl) (.inl hmembers)
    exact hclosed.congr rfl (fun _ => rfl) rfl rfl (references_free _ _ _ _).le

/-- Links and registries say nothing of who holds what. -/
theorem blind_registered : Blind Registered :=
  fun _ _ _ _ _ h => h.congr rfl (fun _ => rfl) rfl rfl (references_free _ _ _ _).le

/-- A reference is taken on an error that somebody already refers to, so the one that waits for its
entry gets none. -/
theorem Registered.retain (h : Registered o s) (hfresh : o.fresh = none)
    (he : e ∈ o.references s) : Registered (o.hold e) (s.retain e) where
  listed c e' := by
    have hhome : (s.retain e).home e' = s.home e' := by
      refine home_modifyFault s e ?_ e'
      exact fun _ => rfl
    rw [hhome]
    exact h.listed c e'
  valid := h.valid
  known e' hmem := by
    rw [references_retain, references_hold, Multiset.mem_cons] at hmem
    rw [Store.retain, Store.modifyFault, Arena.next_modify]
    rcases hmem with rfl | hmem
    · exact h.known e' he
    · exact h.known e' hmem
  fresh e' he' := by
    rw [Holdings.hold, hfresh] at he'
    cases he'

/-- So do references that are taken one after another. -/
theorem takes_registered (es : List FaultId) : Takes Registered Registered es :=
  takes_of_retain (fun h hfresh he => h.retain hfresh he) es

/-- A registry lists an error once.  A second entry would be a second home. -/
theorem Registered.nodup_members (h : Registered o s) (c : ContextId) : (s.members c).Nodup :=
  List.nodup_iff_count_le_one.2 fun e => by
    rw [h.listed]
    split <;> omega

/-- **A context counts the errors that are attached to it.** It does so by the length of its
registry, which is what a release asks for. -/
theorem Registered.live_eq (h : Registered o s) (hfresh : o.fresh = none)
    (hget : s.contexts.get? c = some context) :
    context.live = s.faults.values.countP fun f => f.context = some c := by
  have hlist : context.live = (s.members c).length := by
    rw [members_of_get? hget, List.length_map]
    rfl
  have hnodup := h.nodup_members c
  have hkeys : ((s.faults.toList.filter fun entry => entry.2.context = some c).map
      Prod.fst).Nodup :=
    s.faults.nodup_keys.sublist (List.filter_sublist.map _)
  rw [hlist, Arena.countP_values]
  refine ((List.perm_ext_iff_of_nodup hnodup hkeys).2 fun e => ?_).length_eq
  rw [h.mem_members_iff hfresh, home, Option.bind_eq_some_iff]
  constructor
  · rintro ⟨f, hfault, hlink⟩
    refine List.mem_map.2 ⟨(e, f), List.mem_filter.2 ⟨?_, decide_eq_true hlink⟩, rfl⟩
    exact Arena.mem_toList_iff.2 hfault
  · intro hmem
    obtain ⟨⟨e', f⟩, hentry, rfl⟩ := List.mem_map.1 hmem
    obtain ⟨hfault, hlink⟩ := List.mem_filter.1 hentry
    exact ⟨f, Arena.mem_toList_iff.1 hfault, of_decide_eq_true hlink⟩

end Keeping

end Store

namespace Session

/-- Before anything is done there are no errors and no contexts. -/
theorem registered_start (log : Log) : Store.Registered (start log).holdings (start log).store where
  listed c e := by
    have hnone : ¬((start log).store.home e = some c ∧ (start log).holdings.fresh ≠ some e) := by
      rw [start, Store.home, Arena.get?_empty]
      nofun
    rw [if_neg hnone, start, Store.members, Arena.get?_empty]
    rfl
  valid hget := by
    rw [start, Arena.get?_empty] at hget
    cases hget
  known e hmem := by cases hmem
  fresh e he := by cases he

/-- **Registries and links agree** after every run: an error is attached to a context if and only if
it is in the registry of that context, once, and in no other; the context is then valid.  So a
context counts the errors that are attached to it, and detaching all of them leaves none. -/
theorem registration_of_run (log : Log) (operations : List Operation)
    (hhooks : ∀ operation ∈ operations, operation.isHook = false) :
    let s := ((start log).run operations).1.store
    (∀ e f c, s.faults.get? e = some f → (f.context = some c ↔
      ∃ context, s.contexts.get? c = some context ∧ context.valid = true ∧
        context.members.count e = 1 ∧
        ∀ c' context', c' ≠ c → s.contexts.get? c' = some context' → e ∉ context'.members)) ∧
    (∀ c context, s.contexts.get? c = some context → ∀ e ∈ context.members,
      ∃ f, s.faults.get? e = some f ∧ f.context = some c) ∧
    (∀ c context, s.contexts.get? c = some context →
      context.live = (s.faults.values.countP fun f => f.context = some c) ∧
      (s.detachRegistry c).2 = context.live ∧
      (s.detachRegistry c).1.contexts.get? c = some { context with registry := [] } ∧
      ∀ e, (s.detachRegistry c).1.faults.get? e = (s.faults.get? e).map fun f =>
        if f.context = some c then { f with context := none } else f) := by
  intro s
  have h : Store.Registered ((start log).run operations).1.holdings s :=
    Store.invariant_registered.run Store.takes_registered Store.blind_registered hhooks
      (registered_start log)
  have hmembers : ∀ {c context}, s.contexts.get? c = some context →
      s.members c = context.members := Store.members_of_get?
  have hhome : ∀ {e f}, s.faults.get? e = some f → s.home e = f.context := fun hget => by
    rw [Store.home, hget, Option.bind_some]
  refine ⟨fun e f c hget => ⟨fun hlink => ?_, ?_⟩, fun c context hget e hmem => ?_,
    fun c context hget => ⟨h.live_eq rfl hget, ?_, ?_, fun e => ?_⟩⟩
  -- The link of an error and its place in a registry are one and the same fact, read from both
  -- ends.
  · have hmem : e ∈ s.members c := (h.mem_members_iff rfl).2 ((hhome hget).trans hlink)
    cases hcontext : s.contexts.get? c with
    | none =>
        rw [Store.members, hcontext] at hmem
        cases hmem
    | some context =>
        refine ⟨context, rfl, h.valid hcontext hmem, ?_, fun c' context' hne hget' hmem' => ?_⟩
        · rw [← hmembers hcontext, h.listed, hhome hget, if_pos ⟨hlink, nofun⟩]
        · rw [← hmembers hget', h.mem_members_iff rfl, hhome hget, hlink] at hmem'
          exact hne (Option.some.inj hmem').symm
  · rintro ⟨context, hcontext, -, hcount, -⟩
    rw [← hhome hget, ← h.mem_members_iff rfl, hmembers hcontext, ← List.count_pos_iff, hcount]
    exact Nat.one_pos
  · rw [← hmembers hget, h.mem_members_iff rfl] at hmem
    exact Option.bind_eq_some_iff.1 hmem
  · rw [Store.detachRegistry_eq s hget]
  · rw [Store.detachRegistry_eq s hget, Store.contexts_freeAll, Store.contexts_detachAll]
    show (s.contexts.modify c _).get? c = _
    rw [Arena.get?_modify, if_pos rfl, hget]
    rfl
  · rw [Store.detachRegistry_eq s hget, Store.faults_freeAll, Store.get?_detachAll]
    show Option.map _ (s.faults.get? e) = _
    cases hfault : s.faults.get? e with
    | none => rfl
    | some f =>
        have hmem : e ∈ context.registry.map Registration.fault ↔ f.context = some c := by
          rw [← Store.members_of_get? hget, h.mem_members_iff rfl, hhome hfault]
        simp only [Option.map_some, hmem]

/-- After the sample run one of two contexts was lost with an error attached, and the law counts it
all the same. -/
theorem registration_of_sampleRun :
    (∀ operation ∈ sampleRun, operation.isHook = false) ∧
    (let s := ((start {}).run sampleRun).1.store
    (∀ e f c, s.faults.get? e = some f → (f.context = some c ↔
      ∃ context, s.contexts.get? c = some context ∧ context.valid = true ∧
        context.members.count e = 1 ∧
        ∀ c' context', c' ≠ c → s.contexts.get? c' = some context' → e ∉ context'.members)) ∧
    (∀ c context, s.contexts.get? c = some context → ∀ e ∈ context.members,
      ∃ f, s.faults.get? e = some f ∧ f.context = some c) ∧
    (∀ c context, s.contexts.get? c = some context →
      context.live = (s.faults.values.countP fun f => f.context = some c) ∧
      (s.detachRegistry c).2 = context.live ∧
      (s.detachRegistry c).1.contexts.get? c = some { context with registry := [] } ∧
      ∀ e, (s.detachRegistry c).1.faults.get? e = (s.faults.get? e).map fun f =>
        if f.context = some c then { f with context := none } else f)) := by
  have hhooks : ∀ operation ∈ sampleRun, operation.isHook = false := by decide
  exact ⟨hhooks, registration_of_run {} sampleRun hhooks⟩

end Session

end FaultChain

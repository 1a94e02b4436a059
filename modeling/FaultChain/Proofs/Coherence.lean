import FaultChain.Proofs.Accounting
import FaultChain.Proofs.Unread

/-!
# Documents over a run

Who reads an attached error is shown the document of its chain, or a placeholder; the document stays
where it is, for as long as the error is there, and is rendered once for each generation of the
context (`coherence_of_run`).

Of one operation, `Store.Attended` says what it may do to the documents of an error: leave them, or
retire the one in use, if it is of an earlier generation, and have a new one rendered.  What a run
keeps is then said of an error alone: the text of each of its documents (`Store.Faithful`) and the
order of their generations (`Fault.Stamped`).

### What is load-bearing

A generation is counted in a word, so a document of an earlier generation is told from one of the
present by inequality only.  That they do not come round is the bound on attempts; generations are
then ordered by the attempts that came before them (`Cached.age`), also where the last of them is
zero.  A document is never rendered twice for one generation because the slot of an error is emptied
only in another: a retired document is of an earlier generation than the present one even while
there is none in use (`Fault.Stamped.retired`).

### What the bound on attempts is needed for

A generation is a word of 32 bits that starts at one and goes up with every attempt.  Up to
`2 ^ 32 - 1` attempts on a context there is a generation for each number of attempts, so equality of
generations is equality of attempts, and with one more the first generation would come again and its
documents would be taken for present ones.  That is the bound of the law.

Order is a different matter.  The last of these generations is zero, which as a number is below all
others, so stamps fall as numbers only as long as zero has not been reached.  The law says both:
documents are ordered by the attempts before them, without a further condition, and by their stamps
where the generations have not come round.  `rising_of_roundRun` is a run within the bound in which
they have, and whose stamps rise: it takes `2 ^ 32 - 2` refused releases, which are gone through by
one step for all of them (`Session.run_refusals_of_off`).

### Where the document comes from

The text of a new document is what `Backend.rendered` makes of the chain, an equation that holds
whatever rule the backend refuses by.  So which of the two outcomes a reading has is a question of
its two requests alone, and the law states it as such, by their numbers and layouts.
-/

namespace FaultChain

open Memory (Block Backend Layout)

/-! ## One operation

What an operation may do to the documents in a store is stated once (`Attended`), without a session
and without a generation: each error keeps its documents, has one more, or is new.  An operation
that reads nothing falls under the first case, and a reading under the second.
-/

namespace Store

/-- A document was rendered in place of the one in use, or would have been, had its requests been
granted.  In either case the one in use is retired, as it is of another generation. -/
structure Renews (s : Store) (e : FaultId) (f f' : Fault) (c : ContextId) (context : Context)
    (chain : Chain) : Prop where
  attached : f.context = some c
  found : s.contexts.get? c = some context
  told : s.chain? e = some chain
  stale : ∀ cached, f.cache = some cached → cached.generation ≠ context.shownGeneration
  retired : f'.retired = f.cache.toList ++ f.retired
  rendered : ∀ own, f'.cache = some own → own.generation = context.shownGeneration ∧
    own.text.text = Document.document .granted (some chain)

/-- **What an operation may do to documents**, where nobody is let in.  An error keeps its
documents, or it is renewed, or it is new and has none; a link may end on the way, but none comes
up. -/
structure Attended (s₀ s : Store) : Prop where
  quiet : s.Quiet
  faults : ∀ {e f}, s.faults.get? e = some f →
    (∃ f₀, s₀.faults.get? e = some f₀ ∧ (∀ c, f.context = some c → f₀.context = some c) ∧
      ((f.cache = f₀.cache ∧ f.retired = f₀.retired) ∨
        ∃ c context chain, s₀.Renews e f₀ f c context chain)) ∨ f.documents = []

section Attending

variable {s₀ s s' : Store} {e : FaultId} {f : Fault}

/-- An operation that reads nothing attends to no error. -/
theorem Unread.attended (h : s₀.Unread s) : s₀.Attended s where
  quiet := h.quiet
  faults hget := by
    rcases h.faults hget with ⟨f₀, hget₀, hcache, hretired, hlink⟩ | hnone
    · exact .inl ⟨f₀, hget₀, hlink, .inl ⟨hcache, hretired⟩⟩
    · exact .inr hnone

/-- After a reading, nothing more is read: a copy of a document reads first and asks for its buffer
then. -/
theorem Attended.then (h : s₀.Attended s) (h' : s.Unread s') : s₀.Attended s' where
  quiet := h'.quiet
  faults := by
    intro e f' hget'
    rcases h'.faults hget' with ⟨f, hget, hcache, hretired, hlink⟩ | hnone
    · rcases h.faults hget with ⟨f₀, hget₀, hlink₀, hdocuments⟩ | hnone
      · refine .inl ⟨f₀, hget₀, fun c hc => hlink₀ c (hlink c hc), ?_⟩
        rcases hdocuments with ⟨hcache₀, hretired₀⟩ | ⟨c, context, chain, hrenews⟩
        · exact .inl ⟨hcache.trans hcache₀, hretired.trans hretired₀⟩
        · exact .inr ⟨c, context, chain, { hrenews with
            retired := hretired.trans hrenews.retired
            rendered := fun own hown => hrenews.rendered own (hcache.symm.trans hown) }⟩
      · refine .inr ?_
        rw [Fault.documents, hcache, hretired]
        exact hnone
    · exact .inr hnone

/-- **A reading** shows the document that it leaves in use, or a placeholder if it leaves none: it
does nothing, or it renews the document of an attached error. -/
theorem Quiet.read_cases (hs : s.Quiet) (hget : s.faults.get? e = some f) (visit : Visitor) :
    s.readWith visit e {} = (s, .ofCache f.cache) ∨
    ∃ s' own c context chain, s.Served s' ∧
      s.Renews e f { f with cache := own, retired := f.cache.toList ++ f.retired } c context chain ∧
      s.readWith visit e {} =
        (s'.modifyFault e fun f => { f with cache := own, retired := f.cache.toList ++ f.retired },
          .ofCache own) := by
  unfold readWith
  rw [hget]
  dsimp only
  cases hfound : f.context.bind s.contexts.get? with
  | none => exact .inl rfl
  | some context =>
  obtain ⟨c, hlink, hcontext⟩ := Option.bind_eq_some_iff.1 hfound
  obtain ⟨chain, hchain⟩ := exists_chain? hget
  dsimp only
  -- Without a document in use one is rendered; with a stale one it is retired first, and the two
  -- changes of the error are one.
  cases hcache : f.cache with
  | none =>
      obtain ⟨s', own, hserved, hbuild, hgood⟩ :=
        hs.leaves_buildWith hget hcache hchain visit context.backend context.shownGeneration
      refine .inr ⟨s', own, c, context, chain, hserved,
        ⟨hlink, hcontext, hchain, ?_, by rw [hcache], hgood⟩, hbuild.trans (congrArg (·, _) ?_)⟩
      · exact fun cached hcached => nomatch hcache.symm.trans hcached
      · refine congrArg (fun faults => { s' with faults }) (Arena.modify_congr fun f' hget' => ?_)
        rw [hserved.faults] at hget'
        obtain rfl := Option.some.inj (hget.symm.trans hget')
        rw [hcache]
        rfl
  | some cached =>
      dsimp only
      split
      · exact .inl rfl
      next hstale =>
      have hs' : (s.evict e).Quiet := hs
      obtain ⟨s', own, hserved, hbuild, hgood⟩ := hs'.leaves_buildWith (get?_evict hget) rfl
        ((s.chain?_evict e).trans hchain) visit context.backend context.shownGeneration
      refine .inr ⟨{ s with backends := s'.backends }, own, c, context, chain,
        ⟨hserved.quiet, rfl⟩, ⟨hlink, hcontext, hchain, ?_, by rw [hcache], hgood⟩,
        hbuild.trans (congrArg (·, _) ?_)⟩
      · intro cached' hcached'
        obtain rfl := Option.some.inj (hcache.symm.trans hcached')
        exact hstale
      · rw [hserved.same]
        exact congrArg (fun faults => { s with backends := s'.backends, faults })
          (Arena.modify_modify _ _ _ _)

/-- **A reading** attends to the documents of the error. -/
theorem Quiet.attended_read (hs : s.Quiet) (e : FaultId) : s.Attended (s.read e {}).1 := by
  have hsame : s.Attended s := (Unread.refl hs).attended
  rw [Store.read]
  cases hget : s.faults.get? e with
  | none =>
      rw [readWith, hget]
      exact hsame
  | some f =>
  rcases hs.read_cases hget (reader s.waiting) with
    hread | ⟨s', own, c, context, chain, hserved, hrenews, hread⟩
  · rw [hread]
    exact hsame
  · rw [hread]
    constructor
    case quiet => exact hserved.quiet
    case faults =>
      intro e' f' hget'
      rw [modifyFault, Arena.get?_modify, hserved.faults] at hget'
      split at hget'
      · next heq =>
          subst heq
          rw [hget] at hget'
          obtain rfl := Option.some.inj hget'
          exact .inl ⟨f, hget, fun _ hc => hc, .inr ⟨c, context, chain, hrenews⟩⟩
      · exact .inl ⟨f', hget', fun _ hc => hc, .inl ⟨rfl, rfl⟩⟩

/-- A copy of a document is a reading first. -/
theorem Quiet.attended_copyDocument (hs : s.Quiet) (c : ContextId) (e : FaultId) :
    s.Attended (s.copyDocument c e {}).1 := by
  have hsame : s.Attended s := (Unread.refl hs).attended
  have hread := hs.attended_read e
  unfold copyDocument copyDocumentWith
  split
  · exact hsame
  · split
    · exact hread.then ((Unread.refl hread.quiet).copyTextWith _ _ _)
    · exact hsame

/-- The context of an attached error is there, and its backend.  This is what registries are for:
the link of an error is weak, and the context would not be kept alive by it. -/
theorem Registered.context_of_attached {o : Holdings} (h : Registered o s)
    (hfresh : o.fresh = none) (haccounted : Accounted o s) {c : ContextId}
    (hget : s.faults.get? e = some f) (hlink : f.context = some c) :
    ∃ context backend, s.contexts.get? c = some context ∧ context.valid = true ∧
      s.backends.get? context.backend = some backend := by
  have hmem : e ∈ s.members c := by
    rw [h.mem_members_iff hfresh, home, hget, Option.bind_some, hlink]
  cases hcontext : s.contexts.get? c with
  | none =>
      rw [members, hcontext] at hmem
      cases hmem
  | some context =>
      have hvalid := h.valid hcontext hmem
      obtain ⟨backend, hbackend⟩ := haccounted.backend_of_valid hcontext hvalid
      exact ⟨context, backend, rfl, hvalid, hbackend⟩

end Attending

/-- Every document of an error that is there shows the chain of the error, those that were retired
as well.  Nobody is shown a retired document again, but whoever was shown it before still holds its
text. -/
def Faithful (s : Store) : Prop :=
  ∀ e f chain, s.faults.get? e = some f → s.chain? e = some chain → ∀ cached ∈ f.documents,
    cached.text.text = Document.document .granted (some chain)

/-- **Documents stay right**: chains are fixed, and what is rendered meanwhile shows them.  That
chains are fixed is what an error keeps as long as it is there (`Grown`); the texts of documents
never change. -/
theorem Faithful.attended {s₀ s : Store} (h : s₀.Faithful) (hattended : s₀.Attended s)
    (hgrown : s₀.Grown s) {cap : FaultId → Nat} {o : Holdings} (howned : Owned cap o s) :
    s.Faithful := by
  intro e f chain hget hchain cached hmem
  rcases hattended.faults hget with ⟨f₀, hget₀, -, hdocuments⟩ | hnone
  · have hchain₀ : s₀.chain? e = some chain := by
      rw [← hgrown.chain?_eq howned hget (Arena.lt_next_of_get? hget₀), hchain]
    have hbefore := h e f₀ chain hget₀ hchain₀ cached
    rcases hdocuments with ⟨hcache, hretired⟩ | ⟨c, context, chain', hrenews⟩
    · rw [Fault.documents, hcache, hretired] at hmem
      exact hbefore hmem
    · rw [Fault.documents, hrenews.retired] at hmem
      rcases List.mem_append.1 hmem with hown | hmem
      · obtain rfl := Option.some.inj (hchain₀.symm.trans hrenews.told)
        exact (hrenews.rendered cached (Option.mem_toList.1 hown)).2
      · exact hbefore hmem
  · rw [hnone] at hmem
    cases hmem

end Store

/-! ## The order of generations

The stamp of a document is a word of 32 bits and the number of attempts is not, so they are compared
by the age that a stamp stands for, which is exact as long as there were fewer than `2 ^ 32` of
them.  That the ages fall is kept by every operation; a document is only ever added in front, and
only where the one in use is older than the generation of the context.
-/

/-- How many attempts on the context came before a document was rendered.  It is read off the stamp
alone, by going back to the first generation in the arithmetic of the word. -/
def Cached.age (cached : Cached) : Nat :=
  (cached.generation - Context.initialGeneration).toNat

/-- **The documents of an error are of falling generations**, given the attempts on contexts so far.
The error may be detached by now, and then no context says how many attempts there were; that is why
the clauses on the document in use and on retired ones are about attached errors, and the others are
not. -/
structure Fault.Stamped (f : Fault) (past : List ContextId) : Prop where
  falling : (f.documents.map Cached.age).Pairwise (· > ·)
  used : ∀ c cached, f.context = some c → f.cache = some cached → cached.age ≤ past.count c
  /-- Documents are retired in a later generation than their own. -/
  retired : ∀ c cached, f.context = some c → cached ∈ f.retired → cached.age < past.count c
  counted : ∀ cached ∈ f.documents, ∃ c, cached.age ≤ past.count c

section Ages

variable {f f₀ : Fault} {past past' : List ContextId}

/-- A document of the generation after so many attempts has that age.  Below `2 ^ 32` attempts no
two numbers of them have one stamp. -/
theorem Cached.age_eq {cached : Cached} {n : Nat} (hn : n < 2 ^ 32)
    (h : cached.generation = Context.initialGeneration + .ofNat n) : cached.age = n := by
  rw [age, h, UInt32.add_comm, UInt32.add_sub_cancel, UInt32.toNat_ofNat_of_lt' hn]

/-- A generation below the greatest is the number after its age. -/
theorem Cached.toNat_generation {cached : Cached} (h : 1 + cached.age < 2 ^ 32) :
    cached.generation.toNat = 1 + cached.age := by
  have hone : Context.initialGeneration.toNat = 1 := rfl
  rw [← UInt32.sub_add_cancel cached.generation Context.initialGeneration, UInt32.toNat_add, hone,
    Nat.add_comm]
  exact Nat.mod_eq_of_lt h

/-- Without documents there is nothing to be in order. -/
theorem Fault.stamped_of_nil (hnone : f.documents = []) (past : List ContextId) :
    f.Stamped past := by
  obtain ⟨hcache, hretired⟩ := List.append_eq_nil_iff.1 hnone
  constructor
  case falling =>
    rw [hnone]
    exact List.Pairwise.nil
  case used =>
    intro c cached _ hused
    rw [hused] at hcache
    cases hcache
  case retired =>
    intro c cached _ hmem
    rw [hretired] at hmem
    cases hmem
  case counted =>
    intro cached hmem
    rw [hnone] at hmem
    cases hmem

/-- An error that keeps its documents keeps their order, whatever is attempted: attempts only become
more. -/
theorem Fault.Stamped.keep (h : f₀.Stamped past) (hcache : f.cache = f₀.cache)
    (hretired : f.retired = f₀.retired)
    (hlink : ∀ c, f.context = some c → f₀.context = some c)
    (hmore : ∀ c, past.count c ≤ past'.count c) : f.Stamped past' := by
  have hdocuments : f.documents = f₀.documents := by
    rw [documents, hcache, hretired]
    rfl
  constructor
  case falling =>
    rw [hdocuments]
    exact h.falling
  case used =>
    intro c cached hc hused
    exact Nat.le_trans (h.used c cached (hlink c hc) (hcache.symm.trans hused)) (hmore c)
  case retired =>
    intro c cached hc hmem
    exact Nat.lt_of_lt_of_le (h.retired c cached (hlink c hc) (hretired ▸ hmem)) (hmore c)
  case counted =>
    intro cached hmem
    obtain ⟨c, hle⟩ := h.counted cached (hdocuments ▸ hmem)
    exact ⟨c, Nat.le_trans hle (hmore c)⟩

/-- **A new document is later than all others.** Were it of the age of a retired one, that one would
have been retired in its own generation, and were it of the age of the one in use, there would be
nothing to renew. -/
theorem Fault.Stamped.renew {s : Store} {e : FaultId} {c : ContextId} {context : Context}
    {chain : Chain} (h : f₀.Stamped past) (hrenews : s.Renews e f₀ f c context chain)
    (hlink : ∀ c, f.context = some c → f₀.context = some c)
    (hdated : context.shownGeneration = Context.initialGeneration + .ofNat (past.count c))
    (hroom : past.count c < 2 ^ 32) (hmore : ∀ c, past.count c ≤ past'.count c) :
    f.Stamped past' := by
  have hhome : ∀ c', f.context = some c' → c' = c := fun c' hc' =>
    Option.some.inj ((hlink c' hc').symm.trans hrenews.attached)
  have hown : ∀ own, f.cache = some own → own.age = past.count c := fun own hused =>
    Cached.age_eq hroom ((hrenews.rendered own hused).1.trans hdated)
  -- The document that was in use is of another generation than the present one, so of an earlier.
  have hearlier : ∀ cached ∈ f₀.documents, cached.age < past.count c := by
    intro cached hmem
    rcases List.mem_append.1 hmem with hused | hretired
    · have hused := Option.mem_toList.1 hused
      refine Nat.lt_of_le_of_ne (h.used c cached hrenews.attached hused) fun hage => ?_
      refine hrenews.stale cached hused ?_
      rw [hdated, ← hage, Cached.age, UInt32.ofNat_toNat, UInt32.add_comm, UInt32.sub_add_cancel]
    · exact h.retired c cached hrenews.attached hretired
  have hdocuments : f.documents = f.cache.toList ++ f₀.documents := by
    rw [documents, hrenews.retired]
    rfl
  constructor
  case falling =>
    rw [hdocuments]
    cases hcache : f.cache with
    | none => exact h.falling
    | some own =>
        refine List.pairwise_cons.2 ⟨fun age hage => ?_, h.falling⟩
        obtain ⟨cached, hmem, rfl⟩ := List.mem_map.1 hage
        rw [hown own hcache]
        exact hearlier cached hmem
  case used =>
    intro c' cached hc' hused
    rw [hhome c' hc', hown cached hused]
    exact hmore c
  case retired =>
    intro c' cached hc' hmem
    have hold : cached ∈ f₀.documents := by
      rw [hrenews.retired] at hmem
      exact hmem
    rw [hhome c' hc']
    exact Nat.lt_of_lt_of_le (hearlier cached hold) (hmore c)
  case counted =>
    intro cached hmem
    rw [hdocuments] at hmem
    refine ⟨c, Nat.le_trans ?_ (hmore c)⟩
    rcases List.mem_append.1 hmem with hused | hmem
    · exact Nat.le_of_eq (hown cached (Option.mem_toList.1 hused))
    · exact Nat.le_of_lt (hearlier cached hmem)

/-- Documents of different ages have different stamps. -/
theorem Fault.Stamped.nodup (h : f.Stamped past) :
    (f.documents.map Cached.generation).Nodup := by
  refine List.pairwise_map.2 ((List.pairwise_map.1 h.falling).imp fun hlater heq => ?_)
  rw [Cached.age, Cached.age, heq] at hlater
  exact Nat.lt_irrefl _ hlater

/-- Where no context has come round, the stamps fall with the ages. -/
theorem Fault.Stamped.pairwise_generation (h : f.Stamped past)
    (hroom : ∀ c, 1 + past.count c < 2 ^ 32) :
    (f.documents.map Cached.generation).Pairwise (· > ·) := by
  have hsmall : ∀ cached ∈ f.documents, cached.generation.toNat = 1 + cached.age := by
    intro cached hmem
    obtain ⟨c, hle⟩ := h.counted cached hmem
    exact Cached.toNat_generation (Nat.lt_of_le_of_lt (Nat.add_le_add_left hle 1) (hroom c))
  have hfalling := List.pairwise_map.1 h.falling
  refine List.pairwise_map.2 (hfalling.imp_of_mem fun hmem hmem' hlater => ?_)
  rw [gt_iff_lt, UInt32.lt_iff_toNat_lt, hsmall _ hmem, hsmall _ hmem']
  exact Nat.add_lt_add_left hlater 1

end Ages

/-! ## Operations of a session

An operation is told by what it reads.  The two that read may not have readers let in, nor the
frames of their document refused; all others are of no interest to documents.
-/

/-- The handle of the error whose document an operation reads.  Copying a document is reading it
first. -/
def Operation.reads : Operation → Option Handle
  | .read h _ | .copyDocument _ h _ => some h
  | _ => none

/-- Whether an operation lets nobody in, and is granted the frames that it reserves.  With frames
refused the documents of long chains are cut off earlier, so two readings of one error could show
different texts. -/
def Operation.isQuiet : Operation → Bool
  | .letIn .. => false
  | .read _ passes | .copyDocument _ _ passes => decide (passes = {})
  | _ => true

namespace Session

/-- Whether the document that an operation reads is shorter than `2 ^ 63 - 1` bytes.  Longer ones
have no buffer, and a reader is shown a placeholder every time. -/
def Short (s : Session) (operation : Operation) : Prop :=
  ∀ h ∈ operation.reads, ∀ e ∈ s.faults.get? h, ∀ chain ∈ s.store.chain? e,
    (Document.document .granted (some chain)).utf8ByteSize < 2 ^ 63 - 1

instance (s : Session) (operation : Operation) : Decidable (s.Short operation) :=
  inferInstanceAs (Decidable (∀ h ∈ operation.reads, ∀ e ∈ s.faults.get? h,
    ∀ chain ∈ s.store.chain? e,
      (Document.document .granted (some chain)).utf8ByteSize < 2 ^ 63 - 1))

section Attending

variable {s : Session} {operation : Operation}

/-- An operation that reads nothing leaves documents alone. -/
theorem unread_act (hs : s.store.Quiet) (hquiet : operation.isQuiet = true)
    (hreads : operation.reads = none) :
    s.store.Unread (s.act operation).1.store := by
  have h : s.store.Unread s.store := .refl hs
  -- An operation that reads nothing renders nothing: each case is the lemma on the change that it
  -- makes of the store.
  cases operation with
  | openBackend limit rule => exact h.openBackend limit rule
  | failNext b offsets => exact h.modifyBackend b fun _ hquiet => hquiet
  | letIn b readers => cases hquiet
  | createContext settings rule =>
      have hover : s.store.Unread (createOver s.store settings rule).1 := by
        unfold createOver
        split
        · exact h.createContext _ settings
        · exact (h.openBackend none rule).createContext _ settings
      rw [act, (createContext_eq s settings rule).1]
      exact hover
  | retainContext k =>
      exact of_withContext (P := fun s' => s.store.Unread s'.store) h fun c => h.pass rfl rfl
  | releaseContext k diagnostics keep =>
      refine of_withContext (P := fun s' => s.store.Unread s'.store) h fun c => ?_
      rw [(releaseContext_eq s k c diagnostics keep).1]
      exact h.releaseContext c diagnostics
  | dropContext k =>
      refine of_withContext (P := fun s' => s.store.Unread s'.store) h fun c => ?_
      rw [(dropContext_eq s k c).1]
      exact h.dropContext c
  | allocate k layout =>
      refine of_withContext (P := fun s' => s.store.Unread s'.store) h fun c => ?_
      rw [store_allocate]
      exact h.allocate c layout
  | free k l =>
      refine of_withContext (P := fun s' => s.store.Unread s'.store) h fun c => ?_
      unfold withLoan
      split
      · exact h
      next loan _ =>
      rw [store_free]
      exact h.freeThrough c loan.block
  | detachRegistry k =>
      exact of_withContext (P := fun s' => s.store.Unread s'.store) h fun c => h.detachRegistry c
  | track k l =>
      exact of_withContext (P := fun s' => s.store.Unread s'.store) h fun c =>
        of_withFault (P := fun s' => s.store.Unread s'.store) h fun e => h.trackWith _ c e
  | untrack k l =>
      exact of_withContext (P := fun s' => s.store.Unread s'.store) h fun c =>
        of_withFault (P := fun s' => s.store.Unread s'.store) h fun e => h.untrack c e
  | createFault k draft cause =>
      have hcreate : ∀ c cause, s.store.Unread (s.createFault c draft cause).1.store := by
        intro c cause
        rw [store_createFault]
        exact h.create c draft cause
      cases cause with
      | none =>
          exact of_withContext (P := fun s' => s.store.Unread s'.store) h fun c => hcreate c none
      | some l =>
          exact of_withContext (P := fun s' => s.store.Unread s'.store) h fun c =>
            of_withFault (P := fun s' => s.store.Unread s'.store) h fun e => hcreate c (some e)
  | retainFault k =>
      exact of_withFault (P := fun s' => s.store.Unread s'.store) h fun e => h.retain e
  | dropFault k =>
      exact of_withFault (P := fun s' => s.store.Unread s'.store) h fun e => h.release e
  | takeCause k =>
      refine of_withFault (P := fun s' => s.store.Unread s'.store) h fun e => ?_
      unfold takeCause
      split
      · exact h
      · exact h.retain _
  | read k passes => cases hreads
  | copyDocument k l passes => cases hreads
  | copyMessage k l =>
      refine of_withContext (P := fun s' => s.store.Unread s'.store) h fun c =>
        of_withFault (P := fun s' => s.store.Unread s'.store) h fun e => ?_
      rw [onStore_eq, (Store.keepCopy_eq _ _).1]
      exact h.copyMessage c e
  | dropCopy k =>
      rw [act, withCopy]
      split
      · exact h
      · exact h.free _ _

/-- **An operation** leaves documents alone or attends to those of the error that it reads.  There
is one such error at most. -/
theorem attended_act (hs : s.store.Quiet) (hquiet : operation.isQuiet = true) :
    s.store.Attended (s.act operation).1.store := by
  have hsame : s.store.Attended s.store := (Store.Unread.refl hs).attended
  cases hreads : operation.reads with
  | none => exact (unread_act hs hquiet hreads).attended
  | some h =>
      cases operation with
      | read k passes =>
          obtain rfl := of_decide_eq_true hquiet
          exact of_withFault (P := fun s' => s.store.Attended s'.store) hsame hs.attended_read
      | copyDocument k l passes =>
          obtain rfl := of_decide_eq_true hquiet
          refine of_withContext (P := fun s' => s.store.Attended s'.store) hsame fun c =>
            of_withFault (P := fun s' => s.store.Attended s'.store) hsame fun e => ?_
          rw [onStore_eq, (Store.keepCopy_eq _ _).1]
          exact hs.attended_copyDocument c e
      | _ => cases hreads

end Attending

/-! ## Runs

Counts, the ledger and the registries are in order along every run, and documents add to it that
they are right and fall in age.  All of it goes along in one induction, since each operation needs
the rest to be in order before it.
-/

/-- What a run keeps in which nobody is let in.  Most of it is what every run keeps; documents only
add the last two, and need the others to be carried along. -/
structure Coherent (s : Session) (past lost : List ContextId) : Prop where
  balanced : s.Balanced lost
  registered : s.store.Registered s.holdings
  ledger : Store.Ledger (fun _ => 2 ^ 32) s.holdings s.store
  dated : s.aborted = false → s.Dated past
  quiet : s.store.Quiet
  faithful : s.store.Faithful
  stamped : ∀ e f, s.store.faults.get? e = some f → f.Stamped past

section Runs

variable {s : Session} {past lost : List ContextId} {operation : Operation}

/-- What was attempted before is still counted after more attempts. -/
theorem count_le_append (past more : List ContextId) (c : ContextId) :
    past.count c ≤ (past ++ more).count c := by
  rw [List.count_append]
  exact Nat.le_add_right _ _

/-- What is kept of single errors, while the process is running.  A document that is renewed gets
the generation of its context, which is dated by the attempts so far. -/
theorem Coherent.stamped_act (hs : s.Coherent past lost) (hrunning : s.aborted = false)
    (hroom : ∀ c, past.count c < 2 ^ 32) (more : List ContextId) {s' : Store}
    (hattended : s.store.Attended s') :
    ∀ e f, s'.faults.get? e = some f → f.Stamped (past ++ more) := by
  intro e f hget
  rcases hattended.faults hget with ⟨f₀, hget₀, hlink, hdocuments⟩ | hnone
  · have hstamped := hs.stamped e f₀ hget₀
    rcases hdocuments with ⟨hcache, hretired⟩ | ⟨c, context, chain, hrenews⟩
    · exact hstamped.keep hcache hretired hlink (count_le_append past more)
    · obtain ⟨context', backend, hcontext, hvalid, -⟩ :=
        hs.registered.context_of_attached rfl hs.ledger.accounted hget₀ hrenews.attached
      obtain rfl := Option.some.inj (hrenews.found.symm.trans hcontext)
      refine hstamped.renew hrenews hlink ?_ (hroom c) (count_le_append past more)
      rw [Context.shownGeneration, if_pos hvalid]
      exact (hs.dated hrunning).dated hcontext hvalid
  · exact Fault.stamped_of_nil hnone _

/-- **An operation** keeps documents in order. -/
theorem Coherent.perform (hs : s.Coherent past lost) (hhook : operation.isHook = false)
    (hquiet : operation.isQuiet = true) (hfits : s.Fits operation)
    (hreturns : s.Returns operation) (hroom : ∀ c, past.count c < 2 ^ 32) :
    (s.perform operation).1.Coherent (past ++ s.attempts operation)
      (lost ++ s.loses operation) := by
  have hbalanced := hs.balanced.perform hhook hfits
  have hregistered := Store.invariant_registered.perform Store.invariant_registered.toUpheld id
    hhook (Store.takes_registered _) (.inr Store.blind_registered) hs.registered
  have hledger := perform_of_room Store.invariant_ledger Store.takes_ledger
    (fun h => h.owned.within) Store.Ledger.mono hhook hfits.room (.inl hreturns) hs.ledger
  have hgrown := (Store.invariant_grown s.store).perform (Store.invariant_grown s.store).toUpheld id
    hhook (Store.takes_grown _ _) (.inr (Store.blind_grown _)) (.refl s.store)
  cases hended : s.aborted with
  | true =>
      have hsame : (s.perform operation).1 = s := by rw [Session.perform, if_pos hended]
      have hdated : s.aborted = false → s.Dated (past ++ s.attempts operation) := fun hrunning =>
        absurd (hended.symm.trans hrunning) (by decide)
      rw [hsame] at hbalanced hregistered hledger ⊢
      exact ⟨hbalanced, hregistered, hledger, hdated, hs.quiet, hs.faithful, fun e f hget =>
        (hs.stamped e f hget).keep rfl rfl (fun _ hlink => hlink)
          (count_le_append past (s.attempts operation))⟩
  | false =>
      have hdated := (hs.dated hended).perform hs.balanced hended hhook
      have hattended : s.store.Attended (s.perform operation).1.store := by
        rw [Session.perform, if_neg (Bool.eq_false_iff.1 hended)]
        exact attended_act hs.quiet hquiet
      exact ⟨hbalanced, hregistered, hledger, fun _ => hdated, hattended.quiet,
        hs.faithful.attended hattended hgrown hledger.owned,
        hs.stamped_act hended hroom (s.attempts operation) hattended⟩

/-- **A run** keeps documents in order.  The induction is on the run, and its premises are on each
operation at the state that it finds. -/
theorem Coherent.run {operations : List Operation} (hs : s.Coherent past lost)
    (hhooks : ∀ operation ∈ operations, operation.isHook = false)
    (hquiet : ∀ operation ∈ operations, operation.isQuiet = true)
    (hfits : Throughout Fits s operations) (hreturns : Throughout Returns s operations)
    (hroom : ∀ c, (past ++ s.attempted operations).count c < 2 ^ 32) :
    (s.run operations).1.Coherent (past ++ s.attempted operations)
      (lost ++ s.lost operations) := by
  induction operations generalizing s past lost with
  | nil =>
      rw [attempted, Session.lost, List.append_nil, List.append_nil]
      exact hs
  | cons operation rest ih =>
      have hbefore : ∀ c, past.count c < 2 ^ 32 := fun c =>
        Nat.lt_of_le_of_lt (count_le_append past _ c) (hroom c)
      have hnext := hs.perform (hhooks operation List.mem_cons_self)
        (hquiet operation List.mem_cons_self) hfits.1 hreturns.1 hbefore
      rw [attempted, ← List.append_assoc] at hroom ⊢
      rw [Session.lost, ← List.append_assoc]
      exact ih hnext (fun operation hmem => hhooks operation (List.mem_cons_of_mem _ hmem))
        (fun operation hmem => hquiet operation (List.mem_cons_of_mem _ hmem)) hfits.2 hreturns.2
        hroom

/-- Before anything is done there is no error, and nothing to be out of order. -/
theorem coherent_start (log : Log) : (start log).Coherent [] [] where
  balanced := balanced_start log
  registered := registered_start log
  ledger := ledger_start log
  dated _ := dated_start log
  quiet b backend hget := by
    rw [start, Arena.get?_empty] at hget
    cases hget
  faithful e f chain hget := by
    rw [start, Arena.get?_empty] at hget
    cases hget
  stamped e f hget := by
    rw [start, Arena.get?_empty] at hget
    cases hget

/-! ## What a reading shows

So far nothing was said of what is shown.  In a coherent session a reading shows the document in use
if it is current, and what it has just rendered if not; either is on the error afterwards.
-/

section Reading

variable {h : Handle} {e : FaultId} {f : Fault}

/-- Reading through a handle is reading the error. -/
theorem perform_read (hrunning : s.aborted = false) (hh : s.faults.get? h = some e)
    (passes : Document.Passes) :
    s.perform (.read h passes) =
      ({ s with store := (s.store.read e passes).1 }, .reading (s.store.read e passes).2) := by
  rw [Session.perform, if_neg (Bool.eq_false_iff.1 hrunning), act, withFault, hh]
  rfl

/-- **A reading of an attached error** shows the document in use, if it is of the present
generation, and what its backend makes of a new one otherwise. -/
theorem Coherent.read (hs : s.Coherent past lost) (hget : s.store.faults.get? e = some f)
    {c : ContextId} (hlink : f.context = some c)
    (hshort : ∀ chain, s.store.chain? e = some chain →
      (Document.document .granted (some chain)).utf8ByteSize < 2 ^ 63 - 1) :
    ∃ context backend chain, s.store.contexts.get? c = some context ∧ context.valid = true ∧
      s.store.backends.get? context.backend = some backend ∧ s.store.chain? e = some chain ∧
      (∀ cached, f.cache = some cached → cached.generation = context.generation →
        s.store.read e {} = (s.store, .document cached)) ∧
      ((∀ cached, f.cache = some cached → cached.generation ≠ context.generation) →
        s.store.read e {} =
          (s.store.renew e context.backend (backend.rendered context.generation chain),
            .ofCache (backend.rendered context.generation chain).2)) := by
  obtain ⟨context, backend, hcontext, hvalid, hbackend⟩ :=
    hs.registered.context_of_attached rfl hs.ledger.accounted hget hlink
  obtain ⟨chain, hchain⟩ := Store.exists_chain? hget
  have hfound : f.context.bind s.store.contexts.get? = some context := by
    rw [hlink, Option.bind_some, hcontext]
  have hshown : context.shownGeneration = context.generation := if_pos hvalid
  have hgreatest : Layout.greatestSize = 2 ^ 63 - 1 := by decide
  have hroom := hshort chain hchain
  refine ⟨context, backend, chain, hcontext, hvalid, hbackend, hchain,
    fun cached hcache hcurrent => ?_, fun hstale => ?_⟩
  · exact Store.readWith_of_current hget hfound hcache (hcurrent.trans hshown.symm) _ _
  · rw [← hshown] at hstale ⊢
    exact hs.quiet.readWith_of_stale hget hfound hbackend hstale hchain (by omega) _

/-- A document that was shown is on the error right after the reading that showed it.  From there it
is a matter of what lasts. -/
theorem Coherent.mem_documents_of_read (hs : s.Coherent past lost) {cached : Cached}
    (hshort : ∀ chain, s.store.chain? e = some chain →
      (Document.document .granted (some chain)).utf8ByteSize < 2 ^ 63 - 1)
    (hshown : (s.store.read e {}).2 = .document cached) :
    ∃ f, (s.store.read e {}).1.faults.get? e = some f ∧ cached ∈ f.documents := by
  have hused : ∀ {f : Fault}, f.cache = some cached → cached ∈ f.documents := by
    intro f hcache
    rw [Fault.documents, hcache]
    exact List.mem_cons_self
  cases hget : s.store.faults.get? e with
  | none =>
      rw [Store.read, Store.readWith, hget] at hshown
      cases hshown
  | some f =>
  -- A detached error shows what it has. An attached one shows what is current, or what was rendered
  -- for it just now.
  cases hlink : f.context with
  | none =>
      have hread : s.store.read e {} = (s.store, .ofCache f.cache) := by
        rw [Store.read, Store.readWith, hget]
        dsimp only
        rw [hlink]
        rfl
      rw [hread] at hshown ⊢
      cases hcache : f.cache with
      | none =>
          rw [hcache] at hshown
          cases hshown
      | some own =>
          rw [hcache] at hshown
          cases hshown
          exact ⟨f, hget, hused hcache⟩
  | some c =>
  obtain ⟨context, backend, chain, -, -, -, -, hcurrent, hstale⟩ := hs.read hget hlink hshort
  by_cases hexists : ∃ own, f.cache = some own ∧ own.generation = context.generation
  · obtain ⟨own, hcache, hgeneration⟩ := hexists
    rw [hcurrent own hcache hgeneration] at hshown ⊢
    cases hshown
    exact ⟨f, hget, hused hcache⟩
  · rw [hstale fun own hcache hgeneration => hexists ⟨own, hcache, hgeneration⟩] at hshown ⊢
    generalize backend.rendered context.generation chain = answer at hshown
    obtain ⟨backend', _ | own⟩ := answer
    · cases hshown
    · cases hshown
      refine ⟨{ f with cache := some cached, retired := f.cache.toList ++ f.retired }, ?_,
        hused rfl⟩
      rw [Store.renew, Store.modifyFault, Arena.get?_modify, if_pos rfl]
      show (s.store.faults.get? e).map _ = _
      rw [hget, Option.map_some]

/-- **A document that was shown stays**: it is among those of the error after any run, as long as
the error is there.  It is there right after it was shown, and documents only become more. -/
theorem Coherent.mem_documents_of_run (hs : s.Coherent past lost) {cached : Cached}
    (hh : s.faults.get? h = some e) (hshort : s.Short (.read h {}))
    (hshown : (s.perform (.read h {})).2 = .reading (.document cached)) {rest : List Operation}
    (hhooks : ∀ operation ∈ rest, operation.isHook = false)
    (hget : ((s.perform (.read h {})).1.run rest).1.store.faults.get? e = some f) :
    cached ∈ f.documents := by
  have hrunning : s.aborted = false := by
    refine Bool.eq_false_iff.2 fun hended => ?_
    rw [Session.perform, if_pos hended] at hshown
    cases hshown
  have hstore : (s.perform (.read h {})).1.store = (s.store.read e {}).1 := by
    rw [perform_read hrunning hh]
  rw [perform_read hrunning hh] at hshown
  obtain ⟨f₁, hget₁, hmem⟩ :=
    hs.mem_documents_of_read (hshort h rfl e hh) (Outcome.reading.inj hshown)
  rw [← hstore] at hget₁
  have hgrown : (s.perform (.read h {})).1.store.Grown
      ((s.perform (.read h {})).1.run rest).1.store :=
    (Store.invariant_grown _).run (Store.takes_grown _) (Store.blind_grown _) hhooks (.refl _)
  obtain ⟨f₁', hget₁', -, -, hsuffix⟩ := hgrown.faults (Arena.lt_next_of_get? hget₁) hget
  obtain rfl := Option.some.inj (hget₁.symm.trans hget₁')
  exact hsuffix.subset hmem

end Reading

end Runs

/-! ## The law

Assembled from the three parts: what a reading shows, that documents fall in age, and that they stay
what they were.
-/

/-- **Documents are coherent** over every run in which nobody is let in, no object runs out of
references, and there are fewer than `2 ^ 32` attempts on a context.

* A reading of an attached error shows the document of its chain, or a placeholder.  A document of
  the present generation is shown as it is, and nothing else is done.  Otherwise the one in use, if
  there is one, is retired, and what the backend makes of a new one of the present generation is in
  use after: nothing, and the placeholder is shown, if and only if one of the two requests for it is
  refused.
* The documents of an error, the one in use first, were rendered in later and later generations, so
  there is at most one for each.  Where the generations have not come round to zero yet, they fall
  as numbers.
* A document that was shown once is on its error as long as the error is there, with the same bytes,
  in the block that was handed out for it and did not come back. -/
theorem coherence_of_run (log : Log) (operations : List Operation)
    (hhooks : ∀ operation ∈ operations, operation.isHook = false)
    (hquiet : ∀ operation ∈ operations, operation.isQuiet = true)
    (hfits : Throughout Fits (start log) operations)
    (hreturns : Throughout Returns (start log) operations)
    (hshort : Throughout Short (start log) operations)
    (hattempts : ∀ c, ((start log).attempted operations).count c < 2 ^ 32) :
    let s := ((start log).run operations).1
    (s.aborted = false → ∀ h e f c, s.faults.get? h = some e → s.store.faults.get? e = some f →
      f.context = some c → s.Short (.read h {}) →
      ∃ context backend chain, s.store.contexts.get? c = some context ∧
        s.store.backends.get? context.backend = some backend ∧ s.store.chain? e = some chain ∧
        let document := Document.document .granted (some chain)
        document ≠ Document.empty ∧
        (∀ cached, f.cache = some cached → cached.generation = context.generation →
          s.perform (.read h {}) = (s, .reading (.document cached)) ∧
          cached.text.text = document) ∧
        ((∀ cached, f.cache = some cached → cached.generation ≠ context.generation) →
          let answer := backend.rendered context.generation chain
          s.perform (.read h {}) =
            ({ s with store := s.store.renew e context.backend answer },
              .reading (.ofCache answer.2)) ∧
          (answer.2 = none ↔ backend.refuses (backend.requests + 1) .cache = true ∨
            backend.refuses (backend.requests + 2)
              { size := document.utf8ByteSize + 1, align := 1 } = true) ∧
          ∀ own, answer.2 = some own →
            own.generation = context.generation ∧ own.text.text = document)) ∧
    (∀ e f, s.store.faults.get? e = some f →
      (f.documents.map Cached.age).Pairwise (· > ·) ∧
      (f.documents.map Cached.generation).Nodup ∧
      ((∀ c, 1 + ((start log).attempted operations).count c < 2 ^ 32) →
        (f.documents.map Cached.generation).Pairwise (· > ·))) ∧
    (∀ before rest h passes e cached, operations = before ++ .read h passes :: rest →
      let s₀ := ((start log).run before).1
      s₀.faults.get? h = some e →
      (s₀.perform (.read h passes)).2 = .reading (.document cached) →
      ∀ f, s.store.faults.get? e = some f → cached ∈ f.documents ∧
        ∃ backend, s.store.backends.get? f.backend = some backend ∧
          .granted cached.text.block ∈ backend.history ∧
          .freed cached.text.block ∉ backend.history) := by
  intro s
  have hs : s.Coherent ((start log).attempted operations) ((start log).lost operations) :=
    (coherent_start log).run hhooks hquiet hfits hreturns hattempts
  refine ⟨fun hrunning h e f c hh hget hlink hread => ?_, fun e f hget => ?_,
    fun before rest h passes e cached hsplit => ?_⟩
  · have hroom := hread h rfl e hh
    obtain ⟨context, backend, chain, hcontext, -, hbackend, hchain, hcurrent, hstale⟩ :=
      hs.read hget hlink hroom
    have hgreatest : Layout.greatestSize = 2 ^ 63 - 1 := by decide
    have hasked := hroom chain hchain
    refine ⟨context, backend, chain, hcontext, hbackend, hchain,
      Document.document_ne_empty _ _, fun cached hcache hgeneration => ⟨?_, ?_⟩,
      fun hother => ⟨?_, Backend.rendered_eq_none_iff (by omega),
        fun own hown => Backend.text_of_rendered hown⟩⟩
    · rw [perform_read hrunning hh, hcurrent cached hcache hgeneration]
    · refine hs.faithful e f chain hget hchain cached ?_
      rw [Fault.documents, hcache]
      exact List.mem_cons_self
    · rw [perform_read hrunning hh, hstale hother]
  · have hstamped := hs.stamped e f hget
    exact ⟨hstamped.falling, hstamped.nodup, hstamped.pairwise_generation⟩
  · intro s₀ hh hshown f hget
    rw [hsplit] at hhooks hquiet hfits hreturns hshort hattempts
    rw [throughout_append] at hfits hreturns hshort
    have hbefore : ∀ c, ((start log).attempted before).count c < 2 ^ 32 := fun c => by
      have hle := count_le_append ((start log).attempted before)
        (s₀.attempted (.read h passes :: rest)) c
      rw [← attempted_append] at hle
      exact Nat.lt_of_le_of_lt hle (hattempts c)
    have hs₀ : s₀.Coherent ((start log).attempted before) ((start log).lost before) :=
      (coherent_start log).run
        (fun operation hmem => hhooks operation (List.mem_append_left _ hmem))
        (fun operation hmem => hquiet operation (List.mem_append_left _ hmem)) hfits.1 hreturns.1
        hbefore
    obtain rfl : passes = {} :=
      of_decide_eq_true (hquiet (.read h passes) (List.mem_append_right _ List.mem_cons_self))
    have hlast : s = ((s₀.perform (.read h {})).1.run rest).1 := by
      simp only [s, hsplit, run_append]
      rfl
    have hmem : cached ∈ f.documents := by
      refine hs₀.mem_documents_of_run hh hshort.2.1 hshown (fun operation hmem => ?_) (hlast ▸ hget)
      exact hhooks operation (List.mem_append_right _ (List.mem_cons_of_mem _ hmem))
    refine ⟨hmem, hs.ledger.accounted.not_freed hget ?_⟩
    refine List.mem_append_left _ (List.mem_flatMap.2 ⟨cached, hmem, ?_⟩)
    exact List.mem_cons_self

/-- A run to try the law on.  An error is read before and after a release of its context is refused;
of the readings after it, the first has its request for the document refused. -/
def steadyRun : List Operation :=
  let draft : Draft := { domain := .git, code := .notFound, message := .ofText "gone" }
  [.openBackend none, .createContext { backend := some 0 }, .createFault 0 draft none,
    .read 0 {}, .releaseContext 0 false false, .failNext 0 [2], .read 0 {}, .read 0 {}]

/-- After the run the error has one document of each generation, and shows the later of them; the
one that the first reading showed is still there. -/
theorem coherence_of_steadyRun :
    (∀ operation ∈ steadyRun, operation.isHook = false) ∧
    (∀ operation ∈ steadyRun, operation.isQuiet = true) ∧
    Throughout Fits (start { filter := .off }) steadyRun ∧
    Throughout Returns (start { filter := .off }) steadyRun ∧
    Throughout Short (start { filter := .off }) steadyRun ∧
    (∀ c, ((start { filter := .off }).attempted steadyRun).count c < 2 ^ 32) ∧
    (let s := ((start { filter := .off }).run steadyRun).1
    let s₀ := ((start { filter := .off }).run (steadyRun.take 3)).1
    s.aborted = false ∧ ∃ f, s.store.faults.get? 0 = some f ∧
      f.documents.length = 2 ∧ (f.documents.map Cached.generation).Pairwise (· > ·) ∧
      (∃ cached, s.perform (.read 0 {}) = (s, .reading (.document cached))) ∧
      ∃ cached, (s₀.perform (.read 0 {})).2 = .reading (.document cached) ∧
        cached ∈ f.documents) := by
  have hhooks : ∀ operation ∈ steadyRun, operation.isHook = false := by decide
  have hquiet : ∀ operation ∈ steadyRun, operation.isQuiet = true := by decide
  -- The run is evaluated once for its premises, and once for what is found at its end.
  have hall : Throughout (fun s operation =>
      s.Scant operation ∧ s.Returns operation ∧ s.Short operation)
      (start { filter := .off }) steadyRun := by
    decide +kernel
  have hfits : Throughout Fits (start { filter := .off }) steadyRun :=
    hall.mono fun _ _ h => h.1.fits
  have hreturns : Throughout Returns (start { filter := .off }) steadyRun :=
    hall.mono fun _ _ h => h.2.1
  have hshort : Throughout Short (start { filter := .off }) steadyRun :=
    hall.mono fun _ _ h => h.2.2
  have hstate : let s := ((start { filter := .off }).run steadyRun).1
      let s₀ := ((start { filter := .off }).run (steadyRun.take 3)).1
      ((start { filter := .off }).attempted steadyRun).length = 1 ∧
      s.aborted = false ∧ s.faults.get? 0 = some 0 ∧ s.Short (.read 0 {}) ∧
      (s.store.faults.get? 0).any (fun f => f.documents.length = 2 ∧ f.context = some 0 ∧
        (s.store.contexts.get? 0).map Context.generation =
          f.cache.map Cached.generation) = true ∧
      s₀.faults.get? 0 = some 0 ∧
      ((s₀.perform (.read 0 {})).2 matches .reading (.document _)) = true := by
    decide +kernel
  have hone : ∀ c, ((start { filter := .off }).attempted steadyRun).count c ≤ 1 := fun c =>
    List.count_le_length.trans (Nat.le_of_eq hstate.1)
  have hfew : ∀ c, ((start { filter := .off }).attempted steadyRun).count c < 2 ^ 32 := fun c =>
    Nat.lt_of_le_of_lt (hone c) (by decide)
  obtain ⟨hreading, hfalling, hlasting⟩ := coherence_of_run { filter := .off } steadyRun hhooks
    hquiet hfits hreturns hshort hfew
  have hfirst := hlasting (steadyRun.take 3) (steadyRun.drop 4) 0 {} 0
  refine ⟨hhooks, hquiet, hfits, hreturns, hshort, hfew, ?_⟩
  dsimp only at hstate hfirst ⊢
  -- From here on the two states are nothing but what was found of them.
  generalize ((start { filter := .off }).run steadyRun).1 = s at *
  generalize ((start { filter := .off }).run (steadyRun.take 3)).1 = s₀ at *
  obtain ⟨-, hrunning, hh, hread, hfault, hh₀, hdocument⟩ := hstate
  obtain ⟨f, hget, hpresent⟩ := (Option.any_eq_true _ _).1 hfault
  obtain ⟨hlength, hlink, hpresent⟩ := of_decide_eq_true hpresent
  obtain ⟨context, backend, chain, hcontext, -, -, -, hcurrent, -⟩ :=
    hreading hrunning 0 0 f 0 hh hget hlink hread
  refine ⟨hrunning, f, hget, hlength, (hfalling 0 f hget).2.2 fun c => ?_, ?_, ?_⟩
  · exact Nat.lt_of_le_of_lt (Nat.add_le_add_left (hone c) 1) (by decide)
  · cases hcache : f.cache with
    | none =>
        rw [hcontext, hcache] at hpresent
        cases hpresent
    | some own =>
        rw [hcontext, hcache] at hpresent
        exact ⟨own, (hcurrent own hcache (Option.some.inj hpresent).symm).1⟩
  · generalize (s₀.perform (.read 0 {})).2 = outcome at *
    split at hdocument
    · next cached => exact ⟨cached, rfl, (hfirst cached rfl hh₀ rfl f hget).1⟩
    · cases hdocument

/-! ### Where generations come round

A generation has 32 bits, so `2 ^ 32 - 1` attempts on a context are enough for it to come round to
zero.  The documents of an error are still in order then, and still told apart by their stamps, but
the stamps do not fall any more. -/

/-- Whether an operation is one that the law is about: few references, blocks that come back, and a
short document. -/
def Modest (s : Session) (operation : Operation) : Prop :=
  s.Scant operation ∧ s.Returns operation ∧ s.Short operation

instance (s : Session) (operation : Operation) : Decidable (s.Modest operation) :=
  inferInstanceAs (Decidable (_ ∧ _ ∧ _))

/-- The session in which the error of `steadyRun` was created and nothing was read yet. -/
def opened : Session :=
  ((start { filter := .off }).run (steadyRun.take 3)).1

/-- A reading, a refused release, and a reading: the end of a run by which a generation comes
round. -/
def closing : List Operation :=
  [.read 0 {}, .releaseContext 0 false false, .read 0 {}]

/-- A run to take a generation round.  An error is read after a number of refused releases of its
context, and again after one more. -/
def roundRun (n : Nat) : List Operation :=
  steadyRun.take 3 ++ (List.replicate n (.releaseContext 0 false false) ++ closing)

/-- The operations of the run are the same few, however often one of them is repeated. -/
theorem forall_mem_roundRun {P : Operation → Prop} (hP : ∀ operation ∈ roundRun 1, P operation)
    (n : Nat) : ∀ operation ∈ roundRun n, P operation := by
  intro operation hmem
  rcases List.mem_append.1 hmem with hopening | hmem
  · exact hP operation (List.mem_append_left _ hopening)
  rcases List.mem_append.1 hmem with hrefusal | hclosing
  · rw [List.eq_of_mem_replicate hrefusal]
    exact hP _ (List.mem_append_right _ (List.mem_append_left _ List.mem_cons_self))
  · exact hP operation (List.mem_append_right _ (List.mem_append_right _ hclosing))

/-- After any number of refusals the run goes on from where the error was created, with the
generation that much later. -/
theorem roundRun_eq (n : Nat) :
    ((start { filter := .off }).run (roundRun n)).1 =
      ((opened.later 0 n opened.store.log).run closing).1 ∧
    (start { filter := .off }).attempted (roundRun n) =
      List.replicate n 0 ++ (opened.later 0 n opened.store.log).attempted closing ∧
    (Throughout Modest (opened.later 0 n opened.store.log) closing →
      Throughout Modest (start { filter := .off }) (roundRun n)) := by
  have hopening : Throughout Modest (start { filter := .off }) (steadyRun.take 3) ∧
      (start { filter := .off }).attempted (steadyRun.take 3) = [] := by
    decide +kernel
  have hopened : opened.aborted = false ∧ opened.contexts.get? 0 = some 0 ∧
      (opened.store.contexts.get? 0).any (fun context => context.outcome false = .refused) = true ∧
      opened.store.log.filter = .off ∧ opened.handles 0 = 1 ∧
      (opened.holdings.references opened.store).card < 2 ^ 32 ∧
      opened.contexts.values.card < 2 ^ 32 := by
    decide +kernel
  obtain ⟨hrunning, hh, hrefused, hoff, hsole, hfaults, hcontexts⟩ := hopened
  obtain ⟨context, hget, hrefused⟩ := (Option.any_eq_true _ _).1 hrefused
  have hrefused := of_decide_eq_true hrefused
  have hrun := run_refusals_of_off hrunning hh hget hrefused hoff false n
  have hattempts := attempted_refusals hrunning hh hget hrefused hoff false hsole n
  have hmodest : ∀ m, (opened.later 0 m opened.store.log).Modest (.releaseContext 0 false false) :=
    fun m => ⟨scant_refusal hrunning hh hget hrefused hoff false hfaults hcontexts m,
      fun _ hway => (nomatch hway), fun _ hread => (nomatch hread)⟩
  have hthroughout := throughout_refusals hrunning hh hget hrefused hoff false hmodest n
  refine ⟨?_, ?_, fun hclosing => ?_⟩
  · rw [roundRun, run_append, run_append, ← opened, hrun]
  · rw [roundRun, attempted_append, attempted_append, hopening.2, ← opened, hattempts, hrun,
      List.nil_append]
  · rw [roundRun, throughout_append, throughout_append, ← opened, hrun]
    exact ⟨hopening.1, hthroughout, hclosing⟩

/-- After `2 ^ 32 - 1` attempts the document in use is of generation zero, and the retired one is of
the greatest generation that there is. -/
theorem rising_of_roundRun :
    (∀ operation ∈ roundRun (2 ^ 32 - 2), operation.isHook = false) ∧
    (∀ operation ∈ roundRun (2 ^ 32 - 2), operation.isQuiet = true) ∧
    Throughout Fits (start { filter := .off }) (roundRun (2 ^ 32 - 2)) ∧
    Throughout Returns (start { filter := .off }) (roundRun (2 ^ 32 - 2)) ∧
    Throughout Short (start { filter := .off }) (roundRun (2 ^ 32 - 2)) ∧
    ((start { filter := .off }).attempted (roundRun (2 ^ 32 - 2))).length < 2 ^ 32 ∧
    (let s := ((start { filter := .off }).run (roundRun (2 ^ 32 - 2))).1
    s.aborted = false ∧ ∃ f, s.store.faults.get? 0 = some f ∧
      f.documents.map Cached.generation = [0, 4294967295] ∧
      ¬ (f.documents.map Cached.generation).Pairwise (· > ·)) := by
  obtain ⟨hrun, hattempted, hmodest⟩ := roundRun_eq (2 ^ 32 - 2)
  -- The number of refusals is in the generation only, where it is one of 32 bits.
  have hclosed : let s := opened.later 0 (2 ^ 32 - 2) opened.store.log
      Throughout Modest s closing ∧ (s.attempted closing).length = 1 ∧
      (s.run closing).1.aborted = false ∧ ((s.run closing).1.store.faults.get? 0).map
        (fun f => f.documents.map Cached.generation) = some [0, 4294967295] := by
    decide +kernel
  obtain ⟨hclosing, hone, hrunning, hdocuments⟩ := hclosed
  have hall := hmodest hclosing
  obtain ⟨f, hget, hgenerations⟩ := Option.map_eq_some_iff.1 hdocuments
  refine ⟨forall_mem_roundRun (by decide) _, forall_mem_roundRun (by decide) _,
    hall.mono fun _ _ h => h.1.fits, hall.mono fun _ _ h => h.2.1, hall.mono fun _ _ h => h.2.2,
    ?_, ?_, f, ?_, hgenerations, ?_⟩
  · rw [hattempted, List.length_append, List.length_replicate, hone]
    decide
  · rw [hrun]
    exact hrunning
  · rw [hrun]
    exact hget
  · rw [hgenerations]
    decide

end Session

end FaultChain

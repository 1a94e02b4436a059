import FaultChain.Proofs.Handles
import FaultChain.Proofs.Lasting

/-!
# What an error shows does not change

An error gets its link and its cause when it is created (`Store.account_of_create`), and no
operation changes either as long as there is a reference on it: not the release of other references,
not the end of a context, not a reader who is let in.  The same goes for whatever explains it, which
is there as long as it is, so everything that is shown of an error is fixed: its line, its
diagnostic records, its document, and what a visitor meets who follows its causes
(`immutability_of_run`).

That a store tells of an error what an earlier one told is `Grown`, which every change keeps.  A
visitor is handed the whole error, references and documents included, which do change; what is fixed
is the walk of a visitor who looks at accounts only.

### What is load-bearing

Nothing that is shown of an error is stored with it except its link and the key of its cause.  Its
line is made of the link; its document, of the links along its causes; a walk, of the same.  So it
is enough that links and causes last (`Grown`) and that the errors along the chain are there as long
as the first one is (`Owned`, which is where the bound on references comes in).  Flags are the one
part of a link that is not handed in by whoever creates an error; they are those of its domain and
code from the start (`Classified`).
-/

namespace FaultChain

open Memory (Block Layout)

/-! ## Flags

Flags are set when an error is created and nowhere else, by its domain and its code.
-/

/-- Whether the flags of a link are those of its domain and code.  They could be anything as far as
a link is concerned. -/
def Link.Classified (l : Link) : Prop :=
  l.flags = .defaultFor l.domain l.code

namespace Store

/-- Every error has the flags of its domain and code. -/
def Classified (s : Store) : Prop :=
  ∀ e f, s.faults.get? e = some f → f.link.Classified

section Classifying

variable {s s' : Store}

/-- A change that leaves the errors alone. -/
theorem Classified.pass (h : s.Classified) (hfaults : s'.faults = s.faults) : s'.Classified :=
  fun e f hget => h e f (hfaults ▸ hget)

/-- Links keep their flags. -/
theorem Classified.modifyFault (h : s.Classified) (e : FaultId) {g : Fault → Fault}
    (hg : ∀ f, (g f).link = f.link) : (s.modifyFault e g).Classified := by
  intro e' f' hget
  rw [Store.modifyFault, Arena.get?_modify] at hget
  split at hget
  · obtain ⟨f, hfault, rfl⟩ := Option.map_eq_some_iff.1 hget
    rw [hg]
    exact h e' f hfault
  · exact h e' f' hget

/-- An error that goes takes its link along. -/
theorem Classified.erase (h : s.Classified) {e : FaultId} (hfaults : s'.faults = s.faults.erase e) :
    s'.Classified := by
  intro e' f' hget
  rw [hfaults, Arena.get?_erase] at hget
  split at hget
  · cases hget
  · exact h e' f' hget

/-- Detached errors keep their links. -/
theorem Classified.detachAll (h : s.Classified) (es : List FaultId) :
    (s.detachAll es).Classified := by
  induction es generalizing s with
  | nil => exact h
  | cons e es ih => exact ih (h.modifyFault e fun _ => rfl)

/-- And so do those whose context goes. -/
theorem Classified.detachRegistry (h : s.Classified) (c : ContextId) :
    (s.detachRegistry c).1.Classified := by
  cases hget : s.contexts.get? c with
  | none =>
      rw [Store.detachRegistry, hget]
      exact h
  | some context =>
      rw [detachRegistry_eq s hget]
      have hemptied : (s.modifyContext c fun context =>
          { context with registry := [] }).Classified := h.pass rfl
      exact (hemptied.detachAll _).pass (faults_freeAll _ _ _)

/-- **Every change keeps flags what they are by default.** -/
theorem invariant_classified : Invariant fun _ s => s.Classified where
  enter h _ := h.pass rfl
  settle _ _ h _ _ := h.pass rfl
  free h := h.pass rfl
  absent h _ := h
  lessen {_ _ e _} h _ _ := h.modifyFault e fun _ => rfl
  destroy {_ s e f} h _ _ := h.erase (faults_destroyed s e f)
  evict e h := h.modifyFault e fun _ => rfl
  install {_ _ e _ _} h _ _ _ _ _ := h.modifyFault e fun _ => rfl
  emit _ _ _ h := h.pass rfl
  openBackend _ _ h := h.pass rfl
  failNext _ _ h := h.pass rfl
  arrange h _ := h.pass rfl
  add {_ s _ _ _ _ _ _} h _ _ _ _ _ := by
    intro e f hget
    rw [addFault, Arena.get?_insert] at hget
    split at hget
    · obtain rfl := Option.some.inj hget
      rfl
    · exact h e f hget
  enlist h _ _ _ _ _ := h.pass rfl
  dismiss {_ _ e} h _ := h.modifyFault e fun _ => rfl
  detachRegistry c h _ := h.detachRegistry c
  addContext h _ := h.pass rfl
  adjust h _ := h.pass rfl
  close h _ _ _ _ _ := h.pass rfl

/-- Nobody looks at the backends for it. -/
theorem blind_classified : Blind fun _ s => s.Classified :=
  fun _ _ _ _ _ h => h.pass rfl

/-- A reference more or less is no part of a link. -/
theorem takes_classified (es : List FaultId) :
    Takes (fun _ s => s.Classified) (fun _ s => s.Classified) es :=
  fun _ _ h _ _ => foldl_retain (fun _ e h => h.modifyFault e fun _ => rfl) es h

end Classifying

/-! ## Creation

What a new error tells is what it was created from.  The readers who are let in on the way do not
change that: they find errors that tell of themselves already.
-/

section Creation

variable {s s' : Store} {n : Nat} {c : ContextId} {draft : Draft} {cause : Option FaultId}
  {e : FaultId}

/-- Asking for an entry changes no error that is there, whoever is let in.  References and documents
come and go, which is not what an error tells. -/
theorem grown_trackWith (hwait : s.waiting ≤ n) (c : ContextId) (e : FaultId) :
    s.Grown (s.trackWith (reader n) c e).1 := by
  have hgrown := (invariant_grown s).toKept
  have hrequest : ∀ b, s.Grown (s.requestWith (reader n) b .node).1 := fun b =>
    hgrown.requestWith (o := {}) (hgrown.keeps_reader n) (framed_reader n) hwait (.refl s) b .node
  exact of_trackWith (.refl s) hrequest fun _ _ h => h.pass rfl

/-- An error that is added gets the next key, and tells what it was given to tell.  Its account is
the same whether or not it is entered. -/
theorem account_of_registerWith (hwait : s.waiting ≤ n) (c : ContextId) (fault : Fault) :
    (s.registerWith (reader n) c fault).2 = s.faults.next ∧
      ∀ f, (s.registerWith (reader n) c fault).1.faults.get? s.faults.next = some f →
        f.account = fault.account := by
  have hnext := next_foldl_retain fault.cause.toList s
  have hwaiting := waiting_foldl_retain fault.cause.toList s
  rw [registerWith_eq]
  dsimp only
  generalize fault.cause.toList.foldl Store.retain s = s₁ at hnext hwaiting
  rw [← hnext]
  have hadded : (s₁.addFault fault).faults.get? s₁.faults.next = some fault := by
    rw [addFault, Arena.get?_insert, if_pos rfl]
  have hkey : s₁.faults.next < (s₁.addFault fault).faults.next := Arena.lt_next_of_get? hadded
  have hwait₁ : (s₁.addFault fault).waiting ≤ n := Nat.le_trans (Nat.le_of_eq hwaiting) hwait
  have htracked := grown_trackWith hwait₁ c s₁.faults.next
  have htold : ∀ {s₂ : Store}, (s₁.addFault fault).Grown s₂ → ∀ f,
      s₂.faults.get? s₁.faults.next = some f → f.account = fault.account := by
    intro s₂ hgrown f hget
    obtain ⟨f₀, hget₀, haccount, -, -⟩ := hgrown.faults hkey hget
    rw [haccount, Option.some.inj (hget₀.symm.trans hadded)]
  split
  · next s₂ heq =>
      rw [heq] at htracked
      exact ⟨rfl, htold htracked⟩
  · next s₂ heq =>
      rw [heq] at htracked
      have hwarned : (s₁.addFault fault).Grown (s₂.emit .warn faultOrigin
          ("registry node allocation failed, " ++ fault.link.kind ++ " error left detached")) :=
        htracked.pass rfl
      exact ⟨rfl, htold (hwarned.modifyFault _ fun _ _ => ⟨rfl, rfl, List.suffix_refl _⟩)⟩

/-- A message is what two passes leave in a buffer of the length that was measured. -/
theorem stored_of_formatWith {visit : Visitor} {b : BackendId} {argument : Message.Argument}
    {message : Memory.Buffer} (h : s.formatWith visit b argument = (s', .ok message)) :
    ∃ length block, Message.measure argument.first = some length ∧
      message = Message.stored argument (.zeroed block length) ∧
      length + 1 ≤ Layout.greatestSize ∧ block.layout = { size := length + 1, align := 1 } := by
  unfold formatWith at h
  split at h
  · cases h
  next length hmeasure =>
  split at h
  · cases h
  next buffer hrequest =>
  cases h
  obtain ⟨hblank, -⟩ := blank_of_requestBufferWith hrequest
  obtain ⟨hsize, hlayout⟩ := layout_of_requestBufferWith hrequest
  exact ⟨length, buffer.block, hmeasure, congrArg _ hblank, hsize, hlayout⟩

/-- **A new error** has a new key, and tells what it was created from.  The message it tells is the
one in its buffer, which may be a part of what was asked for. -/
theorem account_of_create (h : s.create c draft cause = (s', .ok e)) :
    s.faults.get? e = none ∧ ∃ length block, Message.measure draft.message.first = some length ∧
      ∀ f, s'.faults.get? e = some f → f.cause = cause ∧ f.link =
        { domain := draft.domain, code := draft.code
          flags := .defaultFor draft.domain draft.code
          message := (Message.stored draft.message (.zeroed block length)).text
          location := draft.location } := by
  have hframed := framed_reader s.waiting
  rw [create, createWith] at h
  split at h
  · cases h
  next context _ =>
  split at h
  case isFalse => cases h
  have hrequest := hframed.requestWith s context.backend .fault
  dsimp only at h
  split at h
  · cases h
  next s₁ block heq =>
  rw [heq] at hrequest
  have hformat := hframed.formatWith s₁ context.backend draft.message
  split at h
  · cases h
  next s₂ message heq' =>
  rw [heq'] at hformat
  have hlater := hrequest.trans hformat
  obtain ⟨hkey, htold⟩ := account_of_registerWith hlater.waiting c
    (ofDraft c context.backend block message draft cause)
  obtain ⟨length, block', hmeasure, rfl, -⟩ := stored_of_formatWith heq'
  generalize s₂.registerWith (reader s.waiting) c _ = result at h hkey htold
  cases h
  rw [hkey]
  refine ⟨Arena.get?_eq_none_of_next_le (Nat.le_of_eq hlater.next.symm), length, block', hmeasure,
    fun f hget => ?_⟩
  have haccount := htold f hget
  exact ⟨congrArg Prod.snd haccount, congrArg Prod.fst haccount⟩

end Creation

/-! ## Walks

A visitor may look at references and documents, which do change.  One who looks at accounts alone
makes the same of two stores that tell the same.
-/

section Walks

variable {s s' : Store} {P : FaultId → Prop} {e : FaultId}

/-- Stores that tell the same of an error and of whatever explains it are walked through alike, by a
visitor who looks at accounts only. -/
theorem walkFrom_congr {σ : Type} (look : σ → FaultId → Link × Option FaultId → σ × Bool)
    (hsame : ∀ e, P e →
      (s'.faults.get? e).map Fault.account = (s.faults.get? e).map Fault.account)
    (hclosed : ∀ {e f cause}, P e → s.faults.get? e = some f → f.cause = some cause → P cause)
    (bound : Nat) {top : Option FaultId} (htop : ∀ e, top = some e → P e) (state : σ) :
    s'.walkFrom (fun state e f => look state e f.account) bound top state =
      s.walkFrom (fun state e f => look state e f.account) bound top state := by
  induction bound generalizing top state with
  | zero => rw [walkFrom, walkFrom]
  | succ bound ih =>
      cases top with
      | none => rw [walkFrom, walkFrom] <;> simp
      | some e =>
          have htold := hsame e (htop e rfl)
          rw [walkFrom, walkFrom]
          cases hget : s.faults.get? e with
          | none =>
              rw [hget, Option.map_none, Option.map_eq_none_iff] at htold
              rw [htold]
          | some f =>
              rw [hget, Option.map_some, Option.map_eq_some_iff] at htold
              obtain ⟨f', hget', haccount⟩ := htold
              have hcause : f'.cause = f.cause := congrArg Prod.snd haccount
              rw [hget']
              dsimp only
              rw [haccount, hcause]
              split
              · exact ih (fun cause hcause => hclosed (htop e rfl) hget hcause) _
              · rfl

end Walks

/-! ## Errors that last

What was told of an error before is told of it as long as it is there, and so it is with everything
that it leads to.
-/

section Lasting

variable {s₀ s : Store} {cap : FaultId → Nat} {o : Holdings} {e : FaultId} {f₀ f : Fault}

/-- The link and the cause of an error that is still there. -/
theorem Grown.account_of_get (h : s₀.Grown s) (hget₀ : s₀.faults.get? e = some f₀)
    (hget : s.faults.get? e = some f) : f.account = f₀.account := by
  have haccount := h.account_eq ⟨Arena.lt_next_of_get? hget₀, f, hget⟩
  rw [hget, hget₀, Option.map_some, Option.map_some] at haccount
  exact Option.some.inj haccount

/-- What explains an error that is still there has the same link.  It is still there as well, as the
error holds a reference on it. -/
theorem Grown.link?_cause (h : s₀.Grown s) (hs : Owned cap o s) (he : s₀.Lasts s e)
    (hget₀ : s₀.faults.get? e = some f₀) : f₀.cause.bind s.link? = f₀.cause.bind s₀.link? := by
  cases hcause₀ : f₀.cause with
  | none => rfl
  | some cause =>
      have htold := congrArg (Option.map Prod.fst)
        (h.account_eq (h.lasts_cause hs he hget₀ hcause₀))
      rw [Option.map_map, Option.map_map] at htold
      exact htold

end Lasting

end Store

/-! ## Runs

From a creation on, along any run after it.
-/

namespace Session

section Creation

variable {s : Session} {h k : Handle} {draft : Draft} {cause : Option Handle}

/-- Creating an error with a handle in the answer is creating it in the store, with the cause that
is held. -/
theorem create_of_perform (hkey : (s.perform (.createFault h draft cause)).2 = .key k) :
    ∃ c e store, s.store.create c draft (cause.bind s.faults.get?) = (store, .ok e) ∧
      (s.perform (.createFault h draft cause)).1.store = store ∧
      (s.perform (.createFault h draft cause)).1.faults.get? k = some e ∧
      ∀ l ∈ cause, ∃ e, s.faults.get? l = some e := by
  have hcreate : ∀ c causeId, (s.createFault c draft causeId).2 = .key k →
      ∃ e store, s.store.create c draft causeId = (store, .ok e) ∧
        (s.createFault c draft causeId).1.store = store ∧
        (s.createFault c draft causeId).1.faults.get? k = some e := by
    intro c causeId hkey
    rw [createFault, onStore_eq] at hkey ⊢
    rcases hresult : s.store.create c draft causeId with ⟨store, _ | e⟩ <;> rw [hresult] at hkey
    · cases hkey
    · cases hkey
      refine ⟨e, store, rfl, rfl, ?_⟩
      show (s.faults.insert e).get? s.faults.next = some e
      rw [Arena.get?_insert, if_pos rfl]
  -- A key is the answer of a creation alone, so the session was running and everything that is
  -- named was held.
  unfold perform at hkey ⊢
  split at hkey
  · cases hkey
  next hrunning =>
  rw [if_neg hrunning]
  cases cause with
  | none =>
      rw [act, withContext] at hkey ⊢
      split at hkey
      · cases hkey
      next c _ =>
      obtain ⟨e, store, hresult⟩ := hcreate c none hkey
      exact ⟨c, e, store, hresult.1, hresult.2.1, hresult.2.2,
        fun l hmem => absurd hmem (Option.not_mem_none l)⟩
  | some l =>
      rw [act, withContext] at hkey ⊢
      split at hkey
      · cases hkey
      next c _ =>
      rw [withFault] at hkey ⊢
      split at hkey
      · cases hkey
      next e₀ hget =>
      obtain ⟨e, store, hresult⟩ := hcreate c (some e₀) hkey
      refine ⟨c, e, store, ?_, hresult.2.1, hresult.2.2, fun l' hl' => ?_⟩
      · rw [Option.bind_some, hget]
        exact hresult.1
      · obtain rfl := Option.some.inj hl'
        exact ⟨e₀, hget⟩

end Creation

/-- **Errors are immutable** over every run that does not run out of references.

* An error that is created gets a new key and a handle.  Its link and its cause are those that it
  was created from: its flags are those of its domain and code, and its message is what the second
  pass wrote into a buffer that the first one measured.
* As long as there is a reference on an error, whatever was performed since, it has the same link
  and the same cause, and so has every error that explains it, along the same lineage.  Hence it is
  shown as before: in one line, with its location, as a record on one line or several, as a document
  in any window, and to a visitor who follows its causes. -/
theorem immutability_of_run (log : Log) (before rest : List Operation)
    (hhooks : ∀ operation ∈ before ++ rest, operation.isHook = false)
    (hfits : Throughout Fits (start log) (before ++ rest)) :
    let s₀ := ((start log).run before).1
    let s := (s₀.run rest).1
    (∀ earlier h draft cause k, before = earlier ++ [.createFault h draft cause] →
      let s₁ := ((start log).run earlier).1
      (s₁.perform (.createFault h draft cause)).2 = .key k →
      ∃ e f length block, s₁.store.faults.get? e = none ∧ s₀.faults.get? k = some e ∧
        s₀.store.faults.get? e = some f ∧ f.cause = cause.bind s₁.faults.get? ∧
        (cause.isSome → f.cause.isSome) ∧
        Message.measure draft.message.first = some length ∧
        f.link =
          { domain := draft.domain, code := draft.code
            flags := .defaultFor draft.domain draft.code
            message := (Message.stored draft.message (.zeroed block length)).text
            location := draft.location }) ∧
    (∀ e f₀, s₀.store.faults.get? e = some f₀ → e ∈ s.holdings.references s.store →
      ∃ f, s.store.faults.get? e = some f ∧ f.link = f₀.link ∧ f.cause = f₀.cause ∧
        s.store.lineage e = s₀.store.lineage e ∧
        (∀ x ∈ s₀.store.lineage e, ∃ g₀ g, s₀.store.faults.get? x = some g₀ ∧
          s.store.faults.get? x = some g ∧ g.link = g₀.link ∧ g.cause = g₀.cause ∧
          g.flags = .defaultFor g.domain g.code) ∧
        f.link.display = f₀.link.display ∧ f.link.displayLocated = f₀.link.displayLocated ∧
        f.link.debug (f.cause.bind s.store.link?) =
          f₀.link.debug (f₀.cause.bind s₀.store.link?) ∧
        f.link.debugBlock (f.cause.bind s.store.link?) =
          f₀.link.debugBlock (f₀.cause.bind s₀.store.link?) ∧
        (∀ bytes, Document.render .granted (s.store.chain? e) bytes =
          Document.render .granted (s₀.store.chain? e) bytes) ∧
        ∀ (σ : Type) (look : σ → FaultId → Link × Option FaultId → σ × Bool) (state : σ),
          s.store.walk (some e) (fun state e f => look state e f.account) state =
            s₀.store.walk (some e) (fun state e f => look state e f.account) state) := by
  intro s₀ s
  have hlast : s = ((start log).run (before ++ rest)).1 := (run_append _ _ _).symm
  have howned₀ : Store.Owned (fun _ => 2 ^ 32) s₀.holdings s₀.store :=
    ((balanced_start log).run (fun operation hmem => hhooks operation (List.mem_append_left _ hmem))
      (throughout_append.1 hfits).1).owned
  have howned : Store.Owned (fun _ => 2 ^ 32) s.holdings s.store := by
    rw [hlast]
    exact ((balanced_start log).run hhooks hfits).owned
  refine ⟨?_, fun e f₀ hget₀ hmem => ?_⟩
  · intro earlier h draft cause k hsplit s₁ hkey
    have hs₀ : s₀ = (s₁.perform (.createFault h draft cause)).1 := by
      simp only [s₀, hsplit, run_append]
      rfl
    obtain ⟨c, e, store, hcreate, hstore, hhandle, hheld⟩ := create_of_perform hkey
    rw [← hs₀] at hstore hhandle
    obtain ⟨hnew, length, block, hmeasure, htold⟩ := Store.account_of_create hcreate
    -- The handle in the answer is a reference, so the new error is there.
    obtain ⟨f, hget⟩ := howned₀.live.1
      (Store.mem_references_of_mem_faults (Arena.mem_values hhandle))
    obtain ⟨hcause, hlink⟩ := htold f (hstore ▸ hget)
    refine ⟨e, f, length, block, hnew, hhandle, hget, hcause, fun hsome => ?_, hmeasure, hlink⟩
    obtain ⟨l, rfl⟩ := Option.isSome_iff_exists.1 hsome
    obtain ⟨e', hget'⟩ := hheld l rfl
    rw [hcause, Option.bind_some, hget']
    rfl
  · obtain ⟨f, hget⟩ := howned.live.1 hmem
    have hgrown : s₀.store.Grown s.store :=
      (Store.invariant_grown s₀.store).run (Store.takes_grown s₀.store) (Store.blind_grown s₀.store)
        (fun operation hmem => hhooks operation (List.mem_append_right _ hmem)) (.refl s₀.store)
    have hclassified : s.store.Classified := by
      rw [hlast]
      refine Store.invariant_classified.run (s := start log) Store.takes_classified
        Store.blind_classified hhooks fun e f hget => ?_
      rw [start, Arena.get?_empty] at hget
      cases hget
    have hlasts : s₀.store.Lasts s.store e := ⟨Arena.lt_next_of_get? hget₀, f, hget⟩
    obtain ⟨hlineage, hmembers⟩ :=
      Store.lineage_congr (fun _ => hgrown.account_eq) (hgrown.lasts_cause howned) hlasts
    have haccount := hgrown.account_of_get hget₀ hget
    have hlink : f.link = f₀.link := congrArg Prod.fst haccount
    have hcause : f.cause = f₀.cause := congrArg Prod.snd haccount
    have hnamed : f.cause.bind s.store.link? = f₀.cause.bind s₀.store.link? := by
      rw [hcause]
      exact hgrown.link?_cause howned hlasts hget₀
    refine ⟨f, hget, hlink, hcause, hlineage, fun x hx => ?_, ?_, ?_, ?_, ?_, fun bytes => ?_,
      fun σ look state => ?_⟩
    · obtain ⟨hx, g, hg⟩ := hmembers x hx
      obtain ⟨g₀, hg₀, haccount, -, -⟩ := hgrown.faults hx hg
      exact ⟨g₀, g, hg₀, hg, congrArg Prod.fst haccount, congrArg Prod.snd haccount,
        hclassified x g hg⟩
    · rw [hlink]
    · rw [hlink]
    · rw [hlink, hnamed]
    · rw [hlink, hnamed]
    · rw [hgrown.chain?_eq howned hget hlasts.1]
    · refine Store.walkFrom_congr look (fun _ => hgrown.account_eq) (hgrown.lasts_cause howned) _
        (fun e' he' => ?_) state
      obtain rfl := Option.some.inj he'
      exact hlasts

/-- A run to try it on, up to the creation of an error over a cause in another context. -/
def outlivedRun : List Operation :=
  let draft (text : String) : Draft :=
    { domain := .policy, code := .conflict, message := .ofText text }
  [.openBackend none, .createContext { backend := some 0 }, .createContext { backend := some 0 },
    .createFault 0 (draft "stale ref") none, .createFault 1 (draft "push") (some 0)]

/-- How it goes on.  The handle on the cause is dropped; its context is refused, and goes when its
errors are detached; the other context is lost. -/
def outlivedRest : List Operation :=
  [.dropFault 0, .releaseContext 0 false false, .detachRegistry 0, .releaseContext 0 false false,
    .dropContext 1]

/-- The error outlives the handle on its cause and both contexts, and shows what it showed. -/
theorem immutability_of_outlivedRun :
    (∀ operation ∈ outlivedRun ++ outlivedRest, operation.isHook = false) ∧
    Throughout Fits (start { filter := .off }) (outlivedRun ++ outlivedRest) ∧
    let s₀ := ((start { filter := .off }).run outlivedRun).1
    let s := (s₀.run outlivedRest).1
    (s.store.contexts.get? 0).map Context.valid = some false ∧ s.contexts.values = 0 ∧
    s.faults.values = {1} ∧
    ∃ f, s.store.faults.get? 1 = some f ∧ f.cause = some 0 ∧ s.store.lineage 1 = [1, 0] ∧
      f.link.display = "[POLICY/CONFLICT] push" ∧ f.link.flags = .onlyPermanent ∧
      ∀ bytes, Document.render .granted (s.store.chain? 1) bytes =
        Document.render .granted (s₀.store.chain? 1) bytes := by
  have hhooks : ∀ operation ∈ outlivedRun ++ outlivedRest, operation.isHook = false := by decide
  have hscant : Throughout Scant (start { filter := .off }) (outlivedRun ++ outlivedRest) := by
    decide +kernel
  have hfits := hscant.mono fun _ _ => Scant.fits
  have hstate : let s₀ := ((start { filter := .off }).run outlivedRun).1
      let s := (s₀.run outlivedRest).1
      (s.store.contexts.get? 0).map Context.valid = some false ∧ s.contexts.values = 0 ∧
      s.faults.values = {1} ∧ s₀.store.lineage 1 = [1, 0] ∧
      (s₀.store.faults.get? 1).any (fun f => f.cause = some 0 ∧
        f.link.display = "[POLICY/CONFLICT] push" ∧ f.link.flags = .onlyPermanent) = true := by
    decide +kernel
  obtain ⟨-, hlasting⟩ := immutability_of_run { filter := .off } outlivedRun outlivedRest hhooks
    hfits
  refine ⟨hhooks, hfits, ?_⟩
  dsimp only at hstate hlasting ⊢
  generalize ((start { filter := .off }).run outlivedRun).1 = s₀ at *
  generalize (s₀.run outlivedRest).1 = s at *
  obtain ⟨hvalid, hcontexts, hfaults, hlineage₀, hfault⟩ := hstate
  obtain ⟨f₀, hget₀, hshown⟩ := (Option.any_eq_true _ _).1 hfault
  obtain ⟨hcause₀, hdisplay₀, hflags₀⟩ := of_decide_eq_true hshown
  -- One handle is left, which is a reference.
  have hheld : 1 ∈ s.holdings.references s.store := by
    refine Store.mem_references_of_mem_faults ?_
    rw [holdings, hfaults]
    exact Multiset.mem_singleton_self 1
  obtain ⟨f, hget, hlink, hcause, hlineage, -, hdisplay, -, -, -, hrender, -⟩ :=
    hlasting 1 f₀ hget₀ hheld
  exact ⟨hvalid, hcontexts, hfaults, f, hget, hcause.trans hcause₀, hlineage.trans hlineage₀,
    hdisplay.trans hdisplay₀, hlink ▸ hflags₀, hrender⟩

end Session

end FaultChain

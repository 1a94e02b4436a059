import FaultChain.Proofs.Formatting
import FaultChain.Proofs.Immutability
import FaultChain.Proofs.Seniority

/-!
# The message of a new error

An error that is created has the message that its second pass left in a buffer of the length that
its first one measured (`Store.message_of_create`), whoever is let in meanwhile.  What is stored and
what is seen of it follows for every run: where an argument stops at the first text that is cut, the
message is the longest prefix of what it offers (`Session.message_of_run`); where it goes on, the
message need not be a prefix of anything (`Session.overrun_of_run`).

### What is load-bearing

A new error is there before its entry is asked for, and that request lets readers in, who release
errors.  They cannot reach this one: all references that anybody holds are on errors that were there
before (`Known`), and following causes leads to older errors only.  `Sheltered` carries this past
the readers.

### Three laws and what separates them

* `Session.message_of_run` is what holds of every argument: the bytes, the capacity, and the text as
  what was kept of the second pass; and of an argument that stops it says which prefix that is.
* `Session.overrun_of_run` is what holds of an argument that goes on, with the bytes behind the cut
  bounded.
* `Session.not_leads_of_overrunDraft` is a message that is not a prefix of what was offered, so that
  the second law cannot be strengthened to the first.

All three are about every run before the creation, and readers may come in during it.  What the
message is is decided while the error is still in the making, by a function of the draft and the
buffer alone (`Message.stored`), so the only thing to be shown of the run is that nobody changes it
before the creation returns.
-/

namespace FaultChain

open Memory (Block Backend Layout)

namespace Store

/-! ## An error that nobody knows

Between the moment at which an error is there and the answer to the request for its entry, readers
may come in.  None of them has a reference on it, so none can take it down.
-/

/-- An error is there, and all references are on errors that were there before it.  So nobody can
name it but whoever creates it. -/
structure Sheltered (e : FaultId) (o : Holdings) (s : Store) : Prop where
  older : ∀ e' ∈ o.references s, e' < e
  present : (s.faults.get? e).isSome

section Sheltering

variable {e : FaultId} {o o' : Holdings} {s s' : Store}

/-- What leaves errors alone and adds no references keeps one sheltered. -/
theorem Sheltered.congr (h : Sheltered e o s) (hfaults : s'.faults = s.faults)
    (href : o'.references s' ≤ o.references s) : Sheltered e o' s' where
  older e' hmem := h.older e' (Multiset.mem_of_le href hmem)
  present := hfaults ▸ h.present

/-- So does a change of another error that keeps its cause. -/
theorem Sheltered.modifyFault (h : Sheltered e o s) (e' : FaultId) {g : Fault → Fault}
    (hcause : ∀ f, (g f).cause = f.cause) : Sheltered e o (s.modifyFault e' g) where
  older e' hmem := h.older e' (references_modifyFault o s _ hcause ▸ hmem)
  present := by
    rw [Store.modifyFault, Arena.get?_modify]
    split
    · rw [Option.isSome_map]
      exact h.present
    · exact h.present

/-- **What readers do** does not reach an error on which nobody has a reference.  Readers release
what was held for them, and a release goes down a chain, from an error to older ones. -/
theorem kept_sheltered (e : FaultId) : Kept (Sheltered e) where
  enter h hget := h.congr rfl (references_enter hget).le
  settle _ _ h hget _ := h.congr rfl (references_settle hget _ _).le
  free h := h.congr rfl (references_free _ _ _ _).le
  absent h _ := h.congr rfl (references_le_hold _ _ _)
  lessen {o s e' _} h _ _ := by
    have hless : Sheltered e o s := h.congr rfl (references_le_hold o e' s)
    exact hless.modifyFault e' fun _ => rfl
  destroy {o s e' f} h hget _ := by
    have hmem : e' ∈ (o.hold e').references s := by
      rw [references_hold]
      exact Multiset.mem_cons_self _ _
    refine ⟨fun x hx => h.older x (Multiset.mem_of_le
      ((references_destroyed_le hget).trans (references_le_hold o e' s)) hx), ?_⟩
    rw [faults_destroyed, Arena.get?_erase, if_neg (Nat.ne_of_lt (h.older e' hmem))]
    exact h.present
  evict e' h := h.modifyFault e' fun _ => rfl
  install {o s e' _ _} h _ _ _ _ _ := by
    have hown : Sheltered e o s := h.congr rfl (le_refl _)
    exact hown.modifyFault e' fun _ => rfl

/-- A new error is known to nobody while its entry is asked for. -/
theorem sheltered_addFault (h : Known o s) {f : Fault}
    (hcause : ∀ e ∈ f.cause.toList, e ∈ o.faults) :
    Sheltered s.faults.next o (s.addFault f) where
  older e hmem := by
    have href : o.references (s.addFault f) =
        (f.cause.toList : Multiset FaultId) + o.references s := by
      rw [Holdings.references, Holdings.references, causes_addFault]
      show o.faults + _ + s.pending + _ = _
      abel
    rw [href, Multiset.mem_add, Multiset.mem_coe] at hmem
    rcases hmem with hmem | hmem
    · exact h.created e (mem_references_of_mem_faults (hcause e hmem))
    · exact h.created e hmem
  present := by
    rw [addFault, Arena.get?_insert, if_pos rfl]
    rfl

/-- Asking for the entry of an error that nobody knows leaves it there.  This is what lets a
creation hand out the error that it added before its last request. -/
theorem Sheltered.trackWith {n : Nat} (h : Sheltered e o s) (hwait : s.waiting ≤ n)
    (c : ContextId) : ((s.trackWith (reader n) c e).1.faults.get? e).isSome := by
  have hkept := kept_sheltered e
  have hrequest := hkept.requestWith (hkept.keeps_reader n) (framed_reader n) hwait h
  exact of_trackWith (P := fun s => (s.faults.get? e).isSome) h.present
    (fun b => (hrequest b .node).present) fun _ _ h => h

end Sheltering

/-! ## Creation

The message is stored before the error is there, and stays what it is.
-/

section Creation

variable {o : Holdings} {s s' : Store} {n : Nat} {c : ContextId} {draft : Draft}
  {cause : Option FaultId} {e : FaultId}

/-- An error that is added is there afterwards, with its message. -/
theorem message_of_registerWith (hknown : Known o s) (hwait : s.waiting ≤ n) (c : ContextId)
    (fault : Fault) (hcause : ∀ e ∈ fault.cause.toList, e ∈ o.faults) :
    ∃ f, (s.registerWith (reader n) c fault).1.faults.get? s.faults.next = some f ∧
      f.message = fault.message := by
  have hnext := next_foldl_retain fault.cause.toList s
  have hwaiting := waiting_foldl_retain fault.cause.toList s
  have hknown₁ : Known o (fault.cause.toList.foldl Store.retain s) :=
    foldl_retain (fun _ e h => h.modifyFault e fun _ => rfl) _ hknown
  rw [registerWith_eq]
  dsimp only
  generalize fault.cause.toList.foldl Store.retain s = s₁ at hnext hwaiting hknown₁
  rw [← hnext]
  have hadded : (s₁.addFault fault).faults.get? s₁.faults.next = some fault := by
    rw [addFault, Arena.get?_insert, if_pos rfl]
  have hsheltered : Sheltered s₁.faults.next o (s₁.addFault fault) :=
    sheltered_addFault hknown₁ hcause
  have hthere := hsheltered.trackWith (n := n)
    (Nat.le_trans (Nat.le_of_eq hwaiting) hwait) c
  have hsame := (framed_reader n).trackWith (s₁.addFault fault) c s₁.faults.next
  obtain ⟨f, hget⟩ := Option.isSome_iff_exists.1 hthere
  obtain ⟨f₀, hget₀, hbare⟩ := hsame.faults hget
  obtain rfl : f₀ = fault := Option.some.inj (hget₀.symm.trans hadded)
  have hmessage : f.message = f₀.message := (congrArg Fault.message hbare :)
  split
  · next s₂ heq =>
      rw [heq] at hget
      exact ⟨f, hget, hmessage⟩
  · next s₂ heq =>
      rw [heq] at hget
      refine ⟨{ f with context := none }, ?_, hmessage⟩
      rw [detach, modifyFault, Arena.get?_modify, if_pos rfl]
      exact congrArg (Option.map _) hget

/-- **A new error** is there, and its message is what two passes left in a buffer of its own. -/
theorem message_of_create (hknown : Known o s) (hcause : ∀ e ∈ cause.toList, e ∈ o.faults)
    (h : s.create c draft cause = (s', .ok e)) :
    ∃ f length block, s'.faults.get? e = some f ∧
      Message.measure draft.message.first = some length ∧
      f.message = Message.stored draft.message (.zeroed block length) ∧
      length + 1 ≤ Layout.greatestSize ∧ block.layout = { size := length + 1, align := 1 } := by
  have hframed := framed_reader s.waiting
  have hkept := invariant_known.toKept
  have hvisit := hkept.keeps_reader s.waiting
  -- The three requests in turn; the key is known once the last one is answered.
  rw [create, createWith] at h
  split at h
  · cases h
  next context _ =>
  split at h
  case isFalse => cases h
  have hrequest := hkept.requestWith hvisit hframed (Nat.le_refl _) hknown context.backend .fault
  have hframe := hframed.requestWith s context.backend .fault
  dsimp only at h
  split at h
  · cases h
  next s₁ block heq =>
  rw [heq] at hrequest hframe
  have hformat := hkept.formatWith hvisit hframed hframe.waiting hrequest context.backend
    draft.message
  have hframe' := hframe.trans (hframed.formatWith s₁ context.backend draft.message)
  split at h
  · cases h
  next s₂ message heq' =>
  rw [heq'] at hformat hframe'
  obtain ⟨hkey, -⟩ := account_of_registerWith hframe'.waiting c
    (ofDraft c context.backend block message draft cause)
  obtain ⟨f, hget, hmessage⟩ := message_of_registerWith hformat hframe'.waiting c
    (ofDraft c context.backend block message draft cause) hcause
  obtain ⟨length, block', hmeasure, hstored, hsize, hlayout⟩ := stored_of_formatWith heq'
  generalize s₂.registerWith (reader s.waiting) c _ = result at h hkey hget
  cases h
  rw [hkey]
  exact ⟨f, length, block', hget, hmeasure, hmessage.trans hstored, hsize, hlayout⟩

end Creation

end Store

namespace Session

section Creating

variable {s : Session} {h k : Handle} {draft : Draft} {cause : Option Handle}

/-- What is stored of a message when an error is created through a handle.  A key in the answer says
that it came to that. -/
theorem stored_of_perform (hknown : Store.Known s.holdings s.store)
    (hkey : (s.perform (.createFault h draft cause)).2 = .key k) :
    ∃ e f block, (s.perform (.createFault h draft cause)).1.faults.get? k = some e ∧
      (s.perform (.createFault h draft cause)).1.store.faults.get? e = some f ∧
      .fail ∉ draft.message.first ∧
      f.message = Message.stored draft.message
        (.zeroed block (Message.offered draft.message.first).utf8ByteSize) ∧
      block.layout =
        { size := (Message.offered draft.message.first).utf8ByteSize + 1, align := 1 } := by
  obtain ⟨c, e, store, hcreate, hstore, hhandle, -⟩ := create_of_perform hkey
  have hcause : ∀ x ∈ (cause.bind s.faults.get?).toList, x ∈ s.holdings.faults := by
    intro x hmem
    obtain ⟨l, -, hget⟩ := Option.bind_eq_some_iff.1 (Option.mem_toList.1 hmem)
    exact Arena.mem_values hget
  obtain ⟨f, length, block, hget, hmeasure, hstored, hsize, hlayout⟩ :=
    Store.message_of_create hknown hcause hcreate
  obtain ⟨haccepted, hmin⟩ := Message.measure_eq_some_iff.1 hmeasure
  -- A buffer is never as long as the greatest length that can be counted.
  have hless : Layout.greatestSize ≤ Message.greatestLength := by decide
  have hlength : length = (Message.offered draft.message.first).utf8ByteSize := by omega
  rw [← hstore] at hget
  rw [← hlength]
  exact ⟨e, f, block, hhandle, hget, haccepted, hstored, hlayout⟩

end Creating

/-- **Messages** over every run: an error that is created has the message that two passes leave in a
buffer of its own, whatever they offer, and whoever is let in while it is created. -/
theorem message_of_run (log : Log) (before : List Operation) (h : Handle) (draft : Draft)
    (cause : Option Handle) (k : Handle) :
    let s := ((start log).run before).1
    let s' := (s.perform (.createFault h draft cause)).1
    (s.perform (.createFault h draft cause)).2 = .key k →
    ∃ e f, s'.faults.get? k = some e ∧ s'.store.faults.get? e = some f ∧
      Message.Formatted draft.message f.message ∧ f.link.message = f.message.text := by
  intro s s' hkey
  obtain ⟨e, f, block, hhandle, hget, haccepted, hstored, hlayout⟩ :=
    stored_of_perform (known_of_run log before) hkey
  refine ⟨e, f, hhandle, hget, ?_, rfl⟩
  rw [hstored]
  exact Message.formatted_stored haccepted hlayout

/-- A message whose second pass is longer than the first, and is cut inside of a character. -/
def clippedDraft : Draft where
  domain := .git
  code := .notFound
  message := { first := [.write "ref ", .write "v1"], second := [.write "ref ", .write "€"] }

/-- The second pass is cut before the character that does not fit, and the message is what stands
before it. -/
theorem message_of_clippedDraft :
    let s := ((start { filter := .off }).run [.createContext {}]).1
    let s' := (s.perform (.createFault 0 clippedDraft none)).1
    (s.perform (.createFault 0 clippedDraft none)).2 = .key 0 ∧
    ∃ e f, s'.faults.get? 0 = some e ∧ s'.store.faults.get? e = some f ∧
      Message.Formatted clippedDraft.message f.message ∧ f.link.message = f.message.text := by
  have hkey : (((start { filter := .off }).run [.createContext {}]).1.perform
      (.createFault 0 clippedDraft none)).2 = .key 0 := by
    decide +kernel
  exact ⟨hkey, message_of_run { filter := .off } [.createContext {}] 0 clippedDraft none 0 hkey⟩

/-- **What an argument that goes on may put behind a cut**, over every run.  The message starts with
the longest prefix of what the second pass offers, and behind it there may be characters of what was
dropped. -/
theorem overrun_of_run (log : Log) (before : List Operation) (h : Handle) (draft : Draft)
    (cause : Option Handle) (k : Handle) :
    let s := ((start log).run before).1
    let s' := (s.perform (.createFault h draft cause)).1
    let offered := Message.offered draft.message.second
    (s.perform (.createFault h draft cause)).2 = .key k →
    ∃ e f front more, s'.faults.get? k = some e ∧ s'.store.faults.get? e = some f ∧
      f.link.message = front ++ more ∧
      Message.LongestPrefix (Message.offered draft.message.first).utf8ByteSize front offered ∧
      (more ≠ "" → ∃ c dropped, offered.toList = front.toList ++ c :: dropped ∧
        more.toList.Sublist dropped ∧ more.utf8ByteSize < c.utf8Size) ∧
      (f.link.message.toList <+: offered.toList ↔ more = "") ∧
      (draft.message.persistent = false → more = "") := by
  intro s s' offered hkey
  obtain ⟨e, f, block, hhandle, hget, -, hstored, -⟩ :=
    stored_of_perform (known_of_run log before) hkey
  obtain ⟨front, more, htext, hrest⟩ := Message.exists_overrun draft.message block
    (Message.offered draft.message.first).utf8ByteSize
  rw [← hstored] at htext hrest
  exact ⟨e, f, front, more, hhandle, hget, htext, hrest⟩

/-- A message whose second pass goes on after a character that does not fit. -/
def overrunDraft : Draft where
  domain := .git
  code := .notFound
  message := { first := [.write "abc"], second := [.write "a", .write "日", .write "b"],
               persistent := true }

/-- The last character is kept although the one before it did not fit.  The argument did not look at
whether its writes succeeded. -/
theorem created_overrunDraft :
    let s := ((start { filter := .off }).run [.createContext {}]).1
    let s' := (s.perform (.createFault 0 overrunDraft none)).1
    (s.perform (.createFault 0 overrunDraft none)).2 = .key 0 ∧ s'.faults.get? 0 = some 0 ∧
      (s'.store.faults.get? 0).any (fun f => f.link.message = "ab") = true := by
  decide +kernel

/-- The law holds of it, with one character behind the cut. -/
theorem overrun_of_overrunDraft :
    let s := ((start { filter := .off }).run [.createContext {}]).1
    let s' := (s.perform (.createFault 0 overrunDraft none)).1
    (s.perform (.createFault 0 overrunDraft none)).2 = .key 0 ∧
    ∃ e f front more, s'.faults.get? 0 = some e ∧ s'.store.faults.get? e = some f ∧
      f.link.message = front ++ more ∧ Message.LongestPrefix 3 front "a日b" ∧
      f.link.message = "ab" ∧ more ≠ "" := by
  obtain ⟨hkey, hnew, hany⟩ := created_overrunDraft
  obtain ⟨e, f, front, more, hhandle, hget, htext, hlongest, -, hleads, -⟩ :=
    overrun_of_run { filter := .off } [.createContext {}] 0 overrunDraft none 0 hkey
  obtain rfl : 0 = e := Option.some.inj (hnew.symm.trans hhandle)
  rw [hget, Option.any_some] at hany
  have hmessage : f.link.message = "ab" := of_decide_eq_true hany
  refine ⟨hkey, 0, f, front, more, hhandle, hget, htext, hlongest, hmessage, fun hnone => ?_⟩
  have hfalse := hleads.2 hnone
  rw [hmessage] at hfalse
  exact absurd hfalse (by decide +kernel)

/-- **A message need not be a prefix** of what its second pass offers.  One argument that goes on is
enough to show it. -/
theorem not_leads_of_overrunDraft :
    ¬ ∀ (log : Log) (before : List Operation) (h : Handle) (draft : Draft) (cause : Option Handle)
      (k : Handle) (e : FaultId) (f : Fault),
      let s := ((start log).run before).1
      let s' := (s.perform (.createFault h draft cause)).1
      (s.perform (.createFault h draft cause)).2 = .key k → s'.faults.get? k = some e →
      s'.store.faults.get? e = some f →
      f.link.message.toList <+: (Message.offered draft.message.second).toList := by
  intro hleading
  obtain ⟨hkey, hhandle, hany⟩ := created_overrunDraft
  obtain ⟨f, hget, hmessage⟩ := (Option.any_eq_true _ _).1 hany
  have hleads := hleading { filter := .off } [.createContext {}] 0 overrunDraft none 0 0 f hkey
    hhandle hget
  rw [of_decide_eq_true hmessage] at hleads
  exact absurd hleads (by decide +kernel)

end Session

end FaultChain

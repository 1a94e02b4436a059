import FaultChain.Proofs.Accounting
import FaultChain.Proofs.Creation
import FaultChain.Proofs.Lasting
import FaultChain.Proofs.Requests

/-!
# Copies on their own

A copy of a document or a message is made of a text and of one request, through the context that it
is asked for with.  From then on nothing that happens to the error, to its context or to that one
touches it, and dropping it gives its block back to where it came from, whether or not anything else
is still there (`Session.copies_of_run`).

### What is load-bearing

A copy holds its bytes and the key of a backend, and neither is looked up again:
`Session.copies_act` says that operations add copies and drop them and do nothing else to them.
That the bytes are safe as well, since nobody else gives the block back, is a matter of the ledger:
the block has an owner, and no other (`Session.sole_owner`).

### One request, with readers on it

A copy makes one request, and a backend may let readers in on it: these make requests of their own,
leave documents and release errors before the copy is answered.  So the store in which the answer is
given is not the one in which the copy was asked for (`Store.entered`), and what is said of the
request is said between the two.  The text was looked up before, and the readers cannot touch it: it
is a value of the caller's by then.
-/

namespace FaultChain

open Memory (Block Backend Layout Event)

namespace Memory.Buffer

/-- A terminator is one zero more. -/
theorem append_zeros_one (bytes : ByteArray) : bytes ++ zeros 1 = bytes.push 0 := by
  apply ByteArray.ext
  rw [ByteArray.data_append, ByteArray.data_push]
  rfl

/-- A blank buffer that is filled holds its bytes and a terminator. -/
theorem whole_filled (block : Block) (bytes : ByteArray) :
    ((zeroed block bytes.size).overwrite 0 bytes).whole = bytes.push 0 := by
  show bytes.copySlice 0 (zeros (bytes.size + 1)) 0 bytes.size = bytes.push 0
  rw [ByteArray.copySlice_eq_append, ByteArray.extract_same, ByteArray.empty_append, Nat.zero_add,
    Nat.zero_add, ByteArray.extract_zero_size, Nat.sub_zero, ByteArray.size_data, Nat.min_self,
    ByteArray.size_data, size_zeros, Message.zeros_extract, Nat.add_sub_cancel_left,
    append_zeros_one]

/-- With its terminator the content is what was written and one zero. -/
theorem contentWithEnd_filled (block : Block) (bytes : ByteArray) :
    ((zeroed block bytes.size).overwrite 0 bytes).contentWithEnd = bytes.push 0 := by
  have hsize : (bytes.push 0).size = bytes.size + 1 := ByteArray.size_push
  show ((zeroed block bytes.size).overwrite 0 bytes).whole.extract 0 (bytes.size + 1) = _
  rw [whole_filled, ← hsize, ByteArray.extract_zero_size]

/-- And it is the text that was written. -/
theorem text_filled (block : Block) (text : String) :
    ((zeroed block text.toUTF8.size).overwrite 0 text.toUTF8).text = text := by
  have hcontent : (text.toUTF8.push 0).extract 0 text.toUTF8.size = text.toUTF8 := by
    rw [← append_zeros_one, ByteArray.extract_append_eq_left rfl]
  show (String.fromUTF8? (((zeroed block text.toUTF8.size).overwrite 0 text.toUTF8).whole.extract 0
    text.toUTF8.size)).getD "" = text
  rw [whole_filled, hcontent, Document.fromUTF8?_toUTF8, Option.getD_some]

end Memory.Buffer

namespace Store

/-! ## One request

A request of which nothing is known but that it is made: who is let in on it is up to the backend,
and what is kept of the store in between is what readers leave as it is.
-/

/-- The store in which a backend answers a request: the request has entered, and the readers who
were let in on it are done. -/
def entered (visit : Visitor) (s : Store) (b : BackendId) : Store :=
  match s.backends.get? b with
  | none => s
  | some backend =>
    backend.enter.2.foldl (fun s r => visit r s) (s.modifyBackend b fun _ => backend.enter.1)

section Requests

variable {visit : Visitor} {s : Store} {b : BackendId} {backend : Backend}

theorem modifyBackend_congr {g g' : Backend → Backend}
    (h : ∀ backend, s.backends.get? b = some backend → g backend = g' backend) :
    s.modifyBackend b g = s.modifyBackend b g' := by
  rw [modifyBackend, modifyBackend, Arena.modify_congr h]

/-- A request is answered in the store that the readers leave. -/
theorem requestWith_eq (hget : s.backends.get? b = some backend) (layout : Layout) :
    s.requestWith visit b layout = (s.entered visit b).settle b (backend.requests + 1) layout := by
  rw [requestWith, entered, hget]
  rfl

/-- Where nobody is waiting, a request that enters is only counted. -/
theorem entered_of_reentries (hget : s.backends.get? b = some backend)
    (hcalm : backend.reentries = []) : s.entered visit b = s.modifyBackend b (·.after 1 []) := by
  have hentered : backend.enter = (backend.after 1 [], []) := by
    rw [Backend.enter, Backend.after, hcalm]
    rfl
  have hcounted : s.entered visit b = s.modifyBackend b fun _ => backend.after 1 [] := by
    rw [entered, hget]
    dsimp only
    rw [hentered]
    rfl
  rw [hcounted]
  refine modifyBackend_congr fun backend' hget' => ?_
  rw [Option.some.inj (hget.symm.trans hget')]

theorem hasBackend_entered (hv : Frugal visit) (h : s.HasBackend b) :
    (s.entered visit b).HasBackend b := by
  obtain ⟨backend, hget⟩ := h
  rw [entered, hget]
  exact (hv.visits backend.enter.2 ((Sized.refl s).enter hget)).backends ⟨backend, hget⟩

/-- A request that has entered is granted or refused, and that is all. -/
theorem settle_cases (h : s.HasBackend b) (serial : Nat) (layout : Layout) :
    s.settle b serial layout =
        (s.modifyBackend b (·.after 0 [.refused serial layout]), none) ∨
      s.settle b serial layout =
        (s.modifyBackend b (·.after 0 [.granted { serial, layout }]), some { serial, layout }) := by
  obtain ⟨backend, hget⟩ := h
  have hrecord : ∀ event, s.modifyBackend b (·.after 0 [event]) =
      s.modifyBackend b fun _ => backend.after 0 [event] := by
    intro event
    refine modifyBackend_congr fun backend' hget' => ?_
    rw [Option.some.inj (hget.symm.trans hget')]
  rw [settle, hget, hrecord, hrecord]
  dsimp only
  unfold Backend.settle
  split
  · exact .inl rfl
  · exact .inr rfl

end Requests

/-! ## One copy

Either there is a copy, in a block that was granted for it, or nothing has come of it.  The text was
settled before the request.
-/

/-- The layout of the block that a text is copied into. -/
def copyLayout (text : String) : Layout where
  size := text.utf8ByteSize + 1
  align := 1

/-- A backend records an event between two stores, when a request has entered and the readers who
were let in on it are done; where nobody was waiting, this is all there is between them. -/
structure Answered (visit : Visitor) (s : Store) (b : BackendId) (event : Event) (s' : Store) :
    Prop where
  store : s' = (s.entered visit b).modifyBackend b (·.after 0 [event])
  calm : ∀ backend, s.backends.get? b = some backend → backend.reentries = [] →
    s' = s.modifyBackend b (·.after 1 [event])

/-- **A text is copied**: one request is made, for its bytes and a terminator, and granted. -/
structure Copied (visit : Visitor) (s : Store) (b : BackendId) (text : String) (copy : Copy)
    (s' : Store) : Prop where
  backend : copy.backend = b
  reads : copy.text = text
  bytes : copy.bytesWithEnd = text.toUTF8.push 0
  layout : copy.buffer.block.layout = copyLayout text
  answered : Answered visit s b (.granted copy.buffer.block) s'

/-- **A text is not copied**: the one request for it is refused, or it is longer than any block and
there is none. -/
def Uncopied (visit : Visitor) (s : Store) (b : BackendId) (text : String) (s' : Store) : Prop :=
  (∃ serial, Answered visit s b (.refused serial (copyLayout text)) s') ∨
    (Layout.greatestSize < (copyLayout text).size ∧ s' = s)

section Copying

variable {visit : Visitor} {s : Store} {b : BackendId}

/-- An event is recorded where nothing but the history of a backend changes. -/
theorem answered_of_store {event : Event} {s' : Store}
    (h : s' = (s.entered visit b).modifyBackend b (·.after 0 [event])) :
    Answered visit s b event s' where
  store := h
  calm backend hget hcalm := by
    rw [h, entered_of_reentries hget hcalm, modifyBackend_modifyBackend]
    rfl

/-- A copy of a text in a block that was obtained for it, over the backend that it goes back to. -/
def copyIn (b : BackendId) (block : Block) (text : String) : Copy where
  buffer := (Memory.Buffer.zeroed block text.toUTF8.size).overwrite 0 text.toUTF8
  backend := b

theorem copyTextWith_of_layout {text : String}
    (hlayout : Layout.buffer? text.toUTF8.size = some (copyLayout text)) :
    s.copyTextWith visit b text =
      match s.requestWith visit b (copyLayout text) with
      | (s, none) => (s, .error (.alloc .copy))
      | (s, some block) => (s, .ok (copyIn b block text)) := by
  rw [copyTextWith, requestCopyWith, requestBufferWith, hlayout]
  dsimp only
  rcases s.requestWith visit b (copyLayout text) with ⟨s', _ | block⟩ <;> rfl

/-- A text is copied or not. -/
theorem copyTextWith_cases (hv : Frugal visit) (h : s.HasBackend b) (text : String) :
    (∃ s', s.copyTextWith visit b text = (s', .error (.alloc .copy)) ∧
        Uncopied visit s b text s') ∨
      ∃ s' copy, s.copyTextWith visit b text = (s', .ok copy) ∧ Copied visit s b text copy s' := by
  obtain ⟨backend, hget⟩ := h
  cases hlayout : Layout.buffer? text.toUTF8.size with
  | none =>
      refine .inl ⟨s, ?_, .inr ⟨?_, rfl⟩⟩
      · rw [copyTextWith, requestCopyWith, requestBufferWith, hlayout]
      · rw [Layout.buffer?] at hlayout
        split at hlayout
        · cases hlayout
        · next hlong => exact Nat.lt_of_not_le hlong
  | some layout =>
      obtain rfl : layout = copyLayout text := (Layout.buffer?_eq_some_iff.1 hlayout).2
      rw [copyTextWith_of_layout hlayout, requestWith_eq hget]
      rcases settle_cases (hasBackend_entered hv ⟨backend, hget⟩) (backend.requests + 1)
        (copyLayout text) with hsettle | hsettle
      · rw [hsettle]
        exact .inl ⟨_, rfl, .inl ⟨_, answered_of_store rfl⟩⟩
      · rw [hsettle]
        refine .inr ⟨_, _, rfl, ?_⟩
        exact
          { backend := rfl
            reads := Memory.Buffer.text_filled _ text
            bytes := Memory.Buffer.contentWithEnd_filled _ text.toUTF8
            layout := rfl
            answered := answered_of_store rfl }

end Copying

end Store

/-! ## Copies along a run

Copies have keys of their own, and no operation looks a copy up but the one that drops it.
-/

/-- What may be copied of an error. -/
inductive Source
  | document (passes : Document.Passes)
  | message

namespace Source

/-- The operation that copies it through a context. -/
def copying (context fault : Handle) : Source → Operation
  | .document passes => .copyDocument context fault passes
  | .message => .copyMessage context fault

/-- Looks it up: the store afterwards, and the text. -/
def look (s : Store) (e : FaultId) : Source → Store × String
  | .document passes => ((s.read e passes).1, (s.read e passes).2.text)
  | .message => (s, ((s.faults.get? e).map fun f => f.message.text).getD "")

end Source

namespace Session

section Copies

variable {s : Session} {h l k : Handle} {c : ContextId} {e : FaultId} {context : Context}
  {copy : Copy}

/-- Copying through handles is copying in the store, of what was looked up first. -/
theorem perform_copying (hrunning : s.aborted = false) (hh : s.contexts.get? h = some c)
    (hl : s.faults.get? l = some e) (hget : s.store.contexts.get? c = some context)
    (hvalid : context.valid = true) (source : Source) :
    s.perform (source.copying h l) =
      keepCopy (s.onStore fun store =>
        (source.look store e).1.copyTextWith (Store.reader store.waiting) context.backend
          (source.look store e).2) := by
  cases source with
  | document passes =>
      rw [Source.copying, perform_eq hrunning, act, withContext_of_get? hh, withFault_of_get? hl,
        onStore_eq, onStore_eq, Store.copyDocument, Store.copyDocumentWith, hget]
      dsimp only
      rw [if_pos hvalid]
      rfl
  | message =>
      rw [Source.copying, perform_eq hrunning, act, withContext_of_get? hh, withFault_of_get? hl,
        onStore_eq, onStore_eq, Store.copyMessage, Store.copyMessageWith, hget]
      dsimp only
      rw [if_pos hvalid, Store.link?, Option.map_map]
      rfl

/-- Operations leave a copy alone, unless it is dropped; and a key that was given out is not given
out again. -/
theorem copies_perform (hk : k < s.copies.next) (operation : Operation) :
    k < (s.perform operation).1.copies.next ∧
      ((s.perform operation).1.copies.get? k = s.copies.get? k ∨
        operation = .dropCopy k ∧ (s.perform operation).1.copies.get? k = none) := by
  cases hrunning : s.aborted with
  | true =>
      rw [perform, if_pos hrunning]
      exact ⟨hk, .inl rfl⟩
  | false =>
      rw [perform_eq hrunning]
      rcases s.copies_act operation with hsame | ⟨copy, -, hinsert⟩ | ⟨k', hdrop, herase⟩
      · rw [hsame]
        exact ⟨hk, .inl rfl⟩
      · rw [hinsert, Arena.next_insert, Arena.get?_insert, if_neg (Nat.ne_of_lt hk)]
        exact ⟨Nat.lt_succ_of_lt hk, .inl rfl⟩
      · rw [herase, Arena.next_erase, Arena.get?_erase]
        refine ⟨hk, ?_⟩
        split
        · next heq => exact .inr ⟨heq ▸ hdrop, rfl⟩
        · exact .inl rfl

/-- **A copy stays** as it is until it is dropped.  The induction is on the run, and needs nothing
of the store. -/
theorem copies_run {rest : List Operation} (hcopy : s.copies.get? k = some copy)
    (hkept : .dropCopy k ∉ rest) : (s.run rest).1.copies.get? k = some copy := by
  induction rest generalizing s with
  | nil => exact hcopy
  | cons operation rest ih =>
      rw [List.mem_cons, not_or] at hkept
      obtain ⟨-, hsame | ⟨hdrop, -⟩⟩ := copies_perform (Arena.lt_next_of_get? hcopy) operation
      · exact ih (s := (s.perform operation).1) (hsame.trans hcopy) hkept.2
      · exact absurd hdrop.symm hkept.1

/-- A copy that was dropped is gone for good. -/
theorem dropped_run (hk : k < s.copies.next) (hgone : s.copies.get? k = none)
    (rest : List Operation) : (s.run rest).1.copies.get? k = none := by
  induction rest generalizing s with
  | nil => exact hgone
  | cons operation rest ih =>
      obtain ⟨hk', hsame | ⟨-, hnone⟩⟩ := copies_perform hk operation
      · exact ih (s := (s.perform operation).1) hk' (hsame.trans hgone)
      · exact ih (s := (s.perform operation).1) hk' hnone

/-- Dropping a copy is one event at its backend. -/
theorem perform_dropCopy (hrunning : s.aborted = false) (hcopy : s.copies.get? k = some copy) :
    s.perform (.dropCopy k) =
      ({ s with
          store := s.store.modifyBackend copy.backend (·.after 0 [.freed copy.buffer.block])
          copies := s.copies.erase k }, .done) := by
  rw [perform_eq hrunning, act, withCopy, hcopy]
  rfl

/-- **The block of a copy** is outstanding, and has no other owner.  So nobody else can give it
back, and nobody else writes into it. -/
theorem sole_owner (h : s.store.Accounted s.holdings) (hcopy : s.copies.get? k = some copy) :
    (∃ backend, s.store.backends.get? copy.backend = some backend ∧
      .granted copy.buffer.block ∈ backend.history ∧
      .freed copy.buffer.block ∉ backend.history) ∧
    (s.store.owned + s.holdings.blocks).count (copy.backend, copy.buffer.block) = 1 := by
  have hheld : (copy.backend, copy.buffer.block) ∈ s.holdings.blocks :=
    Multiset.mem_add.2 (.inl (Multiset.mem_map_of_mem _ (Arena.mem_values hcopy)))
  have howned : (copy.backend, copy.buffer.block) ∈ s.store.owned + s.holdings.blocks :=
    Multiset.mem_add.2 (.inr hheld)
  obtain ⟨backend, hbackend, hout⟩ := h.exists_backend howned
  exact ⟨⟨backend, hbackend, Memory.granted_of_mem_outstanding hout,
    (h.orderly hbackend).honest.not_freed hout⟩,
    Multiset.count_eq_one_of_mem h.nodup_owned howned⟩

/-- Looking a text up, and whatever an operation or a run does, leaves backends where they are. -/
theorem hasBackend_look {store : Store} {b : BackendId} (hb : store.HasBackend b) (source : Source)
    (e : FaultId) : (source.look store e).1.HasBackend b := by
  cases source with
  | document passes => exact ((Store.Sized.refl store).read e passes).backends hb
  | message => exact hb

/-- Backends are never closed. -/
theorem hasBackend_run {b : BackendId} (hs : s.store.Backed) (hb : s.store.HasBackend b)
    (operations : List Operation) : (s.run operations).1.store.HasBackend b :=
  (sized_run hs operations).backends hb

/-- What copying comes to: a copy and one granted request, or none and a request that was refused,
if one was made at all. -/
theorem copying_cases (hrunning : s.aborted = false) (hh : s.contexts.get? h = some c)
    (hl : s.faults.get? l = some e) (hget : s.store.contexts.get? c = some context)
    (hvalid : context.valid = true) (hb : s.store.HasBackend context.backend) (source : Source) :
    let looked := source.look s.store e
    let visit := Store.reader s.store.waiting
    (∃ store, s.perform (source.copying h l) = ({ s with store }, .failed (.alloc .copy)) ∧
        Store.Uncopied visit looked.1 context.backend looked.2 store) ∨
      ∃ store copy, s.perform (source.copying h l) =
          ({ s with store, copies := s.copies.insert copy }, .key s.copies.next) ∧
        Store.Copied visit looked.1 context.backend looked.2 copy store := by
  intro looked visit
  have hperform := perform_copying hrunning hh hl hget hvalid source
  rw [onStore_eq] at hperform
  have hlook := hasBackend_look hb source e
  rcases Store.copyTextWith_cases (Store.frugal_reader _) hlook looked.2 with
    ⟨store, heq, huncopied⟩ | ⟨store, copy, heq, hcopied⟩
  · rw [heq] at hperform
    exact .inl ⟨store, hperform, huncopied⟩
  · rw [heq] at hperform
    exact .inr ⟨store, copy, hperform, hcopied⟩

end Copies

open Store (Copied Uncopied)

/-- **Copies are independent**, over every run, of what their error, its context and their own
context come to.

* Copying through a valid context looks up the text first: for a document this is a reading, which
  may leave a document on the error.  Then the copy fails for want of a block, and nothing is made
  of it, or there is one more copy; in both cases the context's backend was asked for one block, for
  the bytes of the text and a terminator, unless that is more than any block can hold.
* The copy is the same text and the same bytes after every run that does not drop it.  Its block was
  handed out and did not come back, and nobody else owns it.
* Dropping the copy gives its block back to its backend, once, and does nothing else, whether or not
  a context is left.  From then on there is no such copy. -/
theorem copies_of_run (log : Log) (before : List Operation) (h l : Handle) (source : Source)
    (c : ContextId) (e : FaultId) (context : Context) :
    let s := ((start log).run before).1
    s.aborted = false → s.contexts.get? h = some c → s.faults.get? l = some e →
    s.store.contexts.get? c = some context → context.valid = true →
    let visit := Store.reader s.store.waiting
    let s' := (s.perform (source.copying h l)).1
    let outcome := (s.perform (source.copying h l)).2
    let looked := source.look s.store e
    (outcome = .failed (.alloc .copy) ∧ s' = { s with store := s'.store } ∧
      Uncopied visit looked.1 context.backend looked.2 s'.store) ∨
    ∃ copy k, outcome = .key k ∧ s.copies.get? k = none ∧
      s' = { s with store := s'.store, copies := s.copies.insert copy } ∧
      Copied visit looked.1 context.backend looked.2 copy s'.store ∧
      ∀ rest, .dropCopy k ∉ rest →
        let s'' := (s'.run rest).1
        s''.copies.get? k = some copy ∧
        ((∀ operation ∈ before ++ source.copying h l :: rest, operation.isHook = false) →
          Throughout Fits (start log) (before ++ source.copying h l :: rest) →
          Throughout Returns (start log) (before ++ source.copying h l :: rest) →
          (∃ backend, s''.store.backends.get? copy.backend = some backend ∧
            .granted copy.buffer.block ∈ backend.history ∧
            .freed copy.buffer.block ∉ backend.history) ∧
          (s''.store.owned + s''.holdings.blocks).count (copy.backend, copy.buffer.block) = 1) ∧
        (s''.aborted = false → s''.store.HasBackend copy.backend ∧
          s''.perform (.dropCopy k) =
            ({ s'' with
                store := s''.store.modifyBackend copy.backend (·.after 0 [.freed copy.buffer.block])
                copies := s''.copies.erase k }, .done) ∧
          ∀ later, ((s''.perform (.dropCopy k)).1.run later).1.copies.get? k = none) := by
  intro s hrunning hh hl hget hvalid visit s' outcome looked
  have hbacked : s.store.Backed :=
    Store.Backed.sized (backed_start log) (sized_run (backed_start log) before)
  -- What comes of the request is settled at once; the rest is about the copy along the run.
  rcases copying_cases hrunning hh hl hget hvalid (hbacked hget) source with
    ⟨store, hperform, huncopied⟩ | ⟨store, copy, hperform, hcopied⟩
  · have hs' : s' = { s with store } := congrArg Prod.fst hperform
    have houtcome : outcome = .failed (.alloc .copy) := congrArg Prod.snd hperform
    rw [hs']
    exact .inl ⟨houtcome, rfl, huncopied⟩
  · have hs' : s' = { s with store, copies := s.copies.insert copy } := congrArg Prod.fst hperform
    have houtcome : outcome = .key s.copies.next := congrArg Prod.snd hperform
    have hcopy : s'.copies.get? s.copies.next = some copy := by
      rw [hs', Arena.get?_insert, if_pos rfl]
    have hsized := sized_perform hbacked (source.copying h l)
    have hbackend : s'.store.HasBackend copy.backend :=
      hcopied.backend ▸ hsized.backends (hbacked hget)
    refine .inr ⟨copy, s.copies.next, houtcome, Arena.get?_eq_none_of_next_le (Nat.le_refl _),
      by rw [hs'], by rw [hs']; exact hcopied, fun rest hkept => ?_⟩
    intro s''
    have hstays : s''.copies.get? s.copies.next = some copy := copies_run hcopy hkept
    refine ⟨hstays, fun hhooks hfits hreturns => ?_, fun hrunning'' => ⟨?_, ?_, fun later => ?_⟩⟩
    -- That nobody else owns the block is the only part that needs the ledger.
    · have hledger := ledger_run (ledger_start log) hhooks hfits hreturns
      rw [run_append] at hledger
      exact sole_owner hledger.accounted hstays
    · exact hasBackend_run (hbacked.sized hsized) hbackend rest
    · exact perform_dropCopy hrunning'' hstays
    · rw [perform_dropCopy hrunning'' hstays]
      refine dropped_run ?_ ?_ later
      · rw [Arena.next_erase]
        exact Arena.lt_next_of_get? hstays
      · rw [Arena.get?_erase, if_pos rfl]

/-- A run to try it on, up to an error whose message has a zero byte inside. -/
def foreignRun : List Operation :=
  let draft : Draft := {
    domain := .trust, code := .trustViolation, message := .ofText "bad\x00sig" }
  [.openBackend none, .openBackend none, .createContext { backend := some 0 },
    .createContext { backend := some 1 }, .createFault 0 draft none]

/-- How it goes on: the error is read and dropped, and so are both contexts. -/
def bereftOfAll : List Operation :=
  [.read 0 {}, .dropFault 0, .dropContext 1, .dropContext 0]

/-- A copy through the other context outlives the error and both contexts. -/
theorem copies_of_foreignRun :
    let s := ((start { filter := .off }).run foreignRun).1
    let s' := (s.perform (Source.message.copying 1 0)).1
    let s'' := (s'.run bereftOfAll).1
    s.aborted = false ∧ s.contexts.get? 1 = some 1 ∧ s.faults.get? 0 = some 0 ∧
    (∃ context, s.store.contexts.get? 1 = some context ∧ context.valid = true) ∧
    s''.contexts.values = 0 ∧ s''.faults.values = 0 ∧ s''.aborted = false ∧
    ∃ copy, s''.copies.get? 0 = some copy ∧ copy.backend = 1 ∧ copy.text = "bad\x00sig" ∧
      copy.bytesWithEnd = "bad\x00sig\x00".toUTF8 ∧
      (s''.store.owned + s''.holdings.blocks).count (copy.backend, copy.buffer.block) = 1 ∧
      s''.perform (.dropCopy 0) =
        ({ s'' with
            store := s''.store.modifyBackend 1 (·.after 0 [.freed copy.buffer.block])
            copies := s''.copies.erase 0 }, .done) := by
  have hhooks : ∀ operation ∈ foreignRun ++ Source.message.copying 1 0 :: bereftOfAll,
      operation.isHook = false := by
    decide
  have hscant : Throughout Scant (start { filter := .off })
      (foreignRun ++ Source.message.copying 1 0 :: bereftOfAll) := by
    decide +kernel
  have hreturns : Throughout Returns (start { filter := .off })
      (foreignRun ++ Source.message.copying 1 0 :: bereftOfAll) := by
    decide +kernel
  have hfits := hscant.mono fun _ _ => Scant.fits
  have hstate : let s := ((start { filter := .off }).run foreignRun).1
      let s' := (s.perform (Source.message.copying 1 0)).1
      let s'' := (s'.run bereftOfAll).1
      s.aborted = false ∧ s.contexts.get? 1 = some 1 ∧ s.faults.get? 0 = some 0 ∧
      (s.store.contexts.get? 1).any (fun context => context.valid ∧ context.backend = 1) = true ∧
      s''.contexts.values = 0 ∧ s''.faults.values = 0 ∧ s''.aborted = false ∧
      (s.perform (Source.message.copying 1 0)).2 = .key 0 ∧
      (Source.message.look s.store 0).2 = "bad\x00sig" := by
    decide +kernel
  have hcopies := copies_of_run { filter := .off } foreignRun 1 0 .message 1 0
  dsimp only at hstate hcopies ⊢
  generalize ((start { filter := .off }).run foreignRun).1 = s at *
  obtain ⟨hrunning, hh, hl, hcontext, hcontexts, hfaults, hrunning'', hkey, htext⟩ := hstate
  obtain ⟨context, hget, hown⟩ := (Option.any_eq_true _ _).1 hcontext
  obtain ⟨hvalid, hbackend⟩ := of_decide_eq_true hown
  refine ⟨hrunning, hh, hl, ⟨context, hget, hvalid⟩, hcontexts, hfaults, hrunning'', ?_⟩
  rcases hcopies context hrunning hh hl hget hvalid with
    ⟨hfailed, -, -⟩ | ⟨copy, k, houtcome, -, -, hcopied, hstays⟩
  · rw [hkey] at hfailed
    cases hfailed
  · obtain rfl : 0 = k := by
      rw [hkey] at houtcome
      injection houtcome
    obtain ⟨hcopy, hsole, hdrop⟩ := hstays bereftOfAll (by simp [bereftOfAll])
    have hone : copy.backend = 1 := hcopied.backend.trans hbackend
    have hbytes : ("bad\x00sig".toUTF8).push 0 = "bad\x00sig\x00".toUTF8 := by decide
    have hdropped := (hdrop hrunning'').2.1
    rw [hone] at hdropped
    refine ⟨copy, hcopy, hone, hcopied.reads.trans htext, ?_, (hsole hhooks hfits hreturns).2,
      hdropped⟩
    rw [hcopied.bytes, htext, hbytes]

end Session

end FaultChain

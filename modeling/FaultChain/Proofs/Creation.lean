import FaultChain.Proofs.Messages
import FaultChain.Proofs.Quiet
import FaultChain.Proofs.Requests

/-!
# What comes of a creation

Creating an error asks a backend three times, and each answer decides what comes next: without a
block there is no error, without a buffer neither, and without an entry the error is detached.
Where nobody is let in, these answers are all that a creation depends on, so it can be written down
what it leaves in each case (`Store.create_cases`).  Either nothing is changed but the history of
the backend, which has everything back (`Session.Unmade`), or there is exactly one more error,
entered or detached (`Session.Made`).  `Session.creation_of_run` says which, over every run.

### Why nobody waits

A reader that came in with one of the three requests could read other errors, ask the backend for
more, and be refused by what was meant for the creation.  What a creation comes to would then depend
on the whole store.  The law is for a context at whose backend nobody is waiting, and in return it
is exact: which of the three requests is refused is asked of the backend as it was before, by number
and layout, and the store afterwards is written down field by field.

### What is load-bearing

* **Backends are followed by events.** A backend after three requests is the backend before with
  more numbers used and more events recorded (`Backend.after`), and nothing else about it has
  changed, so the question whether it refuses the third request can be asked of it before the first
  (`Backend.request_of_refuses`).
* **What was taken is given back.** A creation that fails over its buffer has taken a block and a
  reference on the cause.  The session is then equal to the one before but for the record of the
  backend, on which that block stands as handed out and come back (`Session.Unmade`).
* **Detached is not failed.** Without a block for its entry the error is there and can be held, but
  its context does not list it.  The law separates this case from the one in which everything was
  granted, by the third request.
-/

namespace FaultChain

open Memory (Block Backend Layout Event)

namespace Memory.Backend

/-! ## Backends that nobody waits at

Where nobody is let in, what a backend becomes can be written down in full: so many requests more,
and so many events.  `Backend.after` is that, and `Backend.upcoming` is the block that it would hand
out.
-/

/-- A backend after some more requests, and what happened since, the latest first. -/
def after (b : Backend) (n : Nat) (events : List Event) : Backend :=
  { b with requests := b.requests + n, history := events ++ b.history }

/-- The block that the request with a given distance from now obtains if it is granted.  Its number
is known before it is asked for. -/
def upcoming (b : Backend) (n : Nat) (layout : Layout) : Block :=
  { serial := b.requests + n, layout }

section Requests

variable {b : Backend}

/-- More requests after some are more requests, with the events of the later ones in front. -/
theorem after_after (b : Backend) (n m : Nat) (before events : List Event) :
    (b.after n before).after m events = b.after (n + m) (events ++ before) := by
  rw [after, after, after, Nat.add_assoc, List.append_assoc]

/-- A request that is refused. -/
theorem request_of_refuses (hcalm : b.reentries = []) {layout : Layout}
    (h : b.refuses (b.requests + 1) layout = true) :
    b.request layout = (b.after 1 [.refused (b.requests + 1) layout], none) := by
  have hsame : b.enter.1 = b.after 1 [] := by
    rw [enter, after, hcalm]
    rfl
  have hrefused : (b.after 1 []).refuses (b.requests + 1) layout = true := h
  show b.enter.1.settle (b.requests + 1) layout = _
  rw [hsame, settle, if_pos hrefused]
  rfl

/-- A request that is granted. -/
theorem request_of_not_refuses (hcalm : b.reentries = []) {layout : Layout}
    (h : b.refuses (b.requests + 1) layout = false) :
    b.request layout = (b.after 1 [.granted (b.upcoming 1 layout)],
      some (b.upcoming 1 layout)) := by
  have hsame : b.enter.1 = b.after 1 [] := by
    rw [enter, after, hcalm]
    rfl
  have hgranted : (b.after 1 []).refuses (b.requests + 1) layout = false := h
  show b.enter.1.settle (b.requests + 1) layout = _
  rw [hsame, settle, hgranted, if_neg Bool.false_ne_true]
  rfl

end Requests

end Memory.Backend

namespace Store

/-! ## Creation where nobody is let in

Each part of a creation is computed to the store that it leaves.  There is one equation for a
request that is refused and one for a request that is granted, and the parts are put together in
their order (`create_cases`).
-/

/-- The store with one more error and its entry in the registry of a context, or detached without
one. -/
def receive (s : Store) (c : ContextId) (fault : Fault) (entry : Option Block) : Store :=
  let e := s.faults.next
  let s := (fault.cause.toList.foldl Store.retain s).addFault fault
  match entry with
  | some node =>
    s.modifyContext c fun context =>
      { context with registry := { fault := e, node } :: context.registry }
  | none =>
    (s.emit .warn faultOrigin
      ("registry node allocation failed, " ++ fault.link.kind ++ " error left detached")).detach e

section Admission

variable {s : Store} {c : ContextId} {fault : Fault} {e : FaultId}

/-- Taking a reference on an error, if there is one to take it on. -/
theorem get?_foldl_retain (s : Store) (cause : Option FaultId) (e : FaultId) :
    (cause.toList.foldl Store.retain s).faults.get? e =
      (s.faults.get? e).map fun f =>
        if cause = some e then { f with refs := f.refs + 1 } else f := by
  cases cause with
  | none => simp only [Option.toList_none, List.foldl_nil, reduceCtorEq, if_false, Option.map_id']
  | some cause =>
      show (s.retain cause).faults.get? e = _
      rw [retain, modifyFault, Arena.get?_modify]
      by_cases heq : cause = e
      · simp only [heq, if_true]
      · simp only [heq, if_false, Option.some.injEq, Option.map_id']

/-- The errors there are once one more is received: the new one under the next key, its cause with
one reference more, and the others as they were. -/
theorem get?_receive (s : Store) (c : ContextId) (fault : Fault) (entry : Option Block)
    (e : FaultId) :
    (s.receive c fault entry).faults.get? e =
      if e = s.faults.next then
        some { fault with context := if entry.isSome then fault.context else none }
      else (s.faults.get? e).map fun f =>
        if fault.cause = some e then { f with refs := f.refs + 1 } else f := by
  have hnext := next_foldl_retain fault.cause.toList s
  have hadded : ((fault.cause.toList.foldl Store.retain s).addFault fault).faults.get? e =
      if e = s.faults.next then some fault
      else (s.faults.get? e).map fun f =>
        if fault.cause = some e then { f with refs := f.refs + 1 } else f := by
    rw [addFault, Arena.get?_insert, hnext, get?_foldl_retain]
  cases entry with
  | some node => exact hadded
  | none =>
      refine (Arena.get?_modify _ _ _ _).trans ?_
      show (if s.faults.next = e then Option.map _
          (((fault.cause.toList.foldl Store.retain s).addFault fault).faults.get? e)
        else ((fault.cause.toList.foldl Store.retain s).addFault fault).faults.get? e) = _
      rw [hadded]
      by_cases heq : e = s.faults.next
      · rw [if_pos heq, if_pos heq.symm, if_pos heq]
        rfl
      · rw [if_neg heq, if_neg (Ne.symm heq), if_neg heq]

/-- What else there is then. -/
theorem receive_eq (s : Store) (c : ContextId) (fault : Fault) (entry : Option Block) :
    (s.receive c fault entry).backends = s.backends ∧
      (s.receive c fault entry).contexts = (match entry with
        | some node => s.contexts.modify c fun context =>
          { context with registry := { fault := s.faults.next, node } :: context.registry }
        | none => s.contexts) ∧
      (entry.isSome → (s.receive c fault entry).log = s.log) := by
  unfold receive
  cases entry with
  | none => cases fault.cause <;> exact ⟨rfl, rfl, nofun⟩
  | some node => cases fault.cause <;> exact ⟨rfl, rfl, fun _ => rfl⟩

end Admission

/-- The buffer for a message is asked for in the length that the message has.  Where the length
could not be counted there is no layout for it either. -/
theorem buffer?_of_measure {pass : List Message.Action} {length : Nat}
    (h : Message.measure pass = some length) :
    Layout.buffer? length = Layout.buffer? (Message.offered pass).utf8ByteSize := by
  have hless : Layout.greatestSize ≤ Message.greatestLength := by decide
  obtain ⟨-, hlength⟩ := Message.measure_eq_some_iff.1 h
  rcases Nat.le_total (Message.offered pass).utf8ByteSize Message.greatestLength with hle | hge
  · rw [hlength, Nat.min_eq_left hle]
  · -- There is no buffer of the greatest length, nor of any length beyond.
    rw [hlength, Nat.min_eq_right hge, Layout.buffer?, Layout.buffer?, if_neg (by omega),
      if_neg (by omega)]

section Creation

variable {s : Store} {c : ContextId} {context : Context} {b : BackendId} {backend : Backend}
  {draft : Draft} {cause : Option FaultId} {visit : Visitor}

/-- A request that the backend refuses leaves the number used and the refusal recorded.  Nobody is
let in, so this is all. -/
theorem requestWith_of_refuses (hb : s.backends.get? b = some backend)
    (hcalm : backend.reentries = []) {layout : Layout}
    (h : backend.refuses (backend.requests + 1) layout = true) :
    s.requestWith visit b layout =
      (s.modifyBackend b fun _ => backend.after 1 [.refused (backend.requests + 1) layout],
        none) := by
  rw [requestWith_of_reentries hb hcalm, Backend.request_of_refuses hcalm h]

/-- Any other request is granted, with a block of that number. -/
theorem requestWith_of_not_refuses (hb : s.backends.get? b = some backend)
    (hcalm : backend.reentries = []) {layout : Layout}
    (h : backend.refuses (backend.requests + 1) layout = false) :
    s.requestWith visit b layout =
      (s.modifyBackend b fun _ => backend.after 1 [.granted (backend.upcoming 1 layout)],
        some (backend.upcoming 1 layout)) := by
  rw [requestWith_of_reentries hb hcalm, Backend.request_of_not_refuses hcalm h]

/-- A backend that changes twice changes once. -/
theorem modifyBackend_after (s : Store) (b : BackendId) (backend : Backend) (n m : Nat)
    (before events : List Event) :
    ((s.modifyBackend b fun _ => backend.after n before).modifyBackend b fun _ =>
        (backend.after n before).after m events) =
      s.modifyBackend b fun _ => backend.after (n + m) (events ++ before) := by
  rw [modifyBackend_modifyBackend, Backend.after_after]
  rfl

/-- A block that comes back is recorded. -/
theorem free_after (s : Store) (b : BackendId) (backend : Backend) (n : Nat)
    (events : List Event) (block : Block) :
    (s.modifyBackend b fun _ => backend.after n events).free b block =
      s.modifyBackend b fun _ => backend.after n (.freed block :: events) := by
  rw [free, modifyBackend_modifyBackend]
  rfl

/-- Entering an error through a backend at which nobody is waiting, as one equation for both
answers. -/
theorem trackWith_of_reentries (visit : Visitor) (hget : s.contexts.get? c = some context)
    (hvalid : context.valid = true) (hb : s.backends.get? context.backend = some backend)
    (hcalm : backend.reentries = []) (e : FaultId) :
    s.trackWith visit c e =
      if backend.refuses (backend.requests + 1) .node = true then
        (s.modifyBackend context.backend fun _ =>
          backend.after 1 [.refused (backend.requests + 1) .node], false)
      else
        let node := backend.upcoming 1 .node
        ((s.modifyBackend context.backend fun _ => backend.after 1 [.granted node]).modifyContext c
          fun context => { context with registry := { fault := e, node } :: context.registry },
          true) := by
  unfold trackWith
  rw [hget]
  dsimp only
  rw [if_pos hvalid]
  by_cases hrefused : backend.refuses (backend.requests + 1) .node = true
  · rw [if_pos hrefused, requestWith_of_refuses hb hcalm hrefused]
  · rw [if_neg hrefused, requestWith_of_not_refuses hb hcalm (Bool.eq_false_iff.2 hrefused)]

/-- **Registering** an error through such a backend. -/
theorem registerWith_of_reentries (visit : Visitor) (fault : Fault)
    (hget : s.contexts.get? c = some context) (hvalid : context.valid = true)
    (hb : s.backends.get? context.backend = some backend) (hcalm : backend.reentries = []) :
    s.registerWith visit c fault =
      (if backend.refuses (backend.requests + 1) .node = true then
        (s.modifyBackend context.backend fun _ =>
          backend.after 1 [.refused (backend.requests + 1) .node]).receive c fault none
      else
        let node := backend.upcoming 1 .node
        (s.modifyBackend context.backend fun _ => backend.after 1 [.granted node]).receive c fault
          (some node), s.faults.next) := by
  have hnext := next_foldl_retain fault.cause.toList s
  have hcontexts := contexts_foldl_retain fault.cause.toList s
  have hbackends := backends_foldl_retain fault.cause.toList s
  -- A reference is taken before or after the backend has answered, which is the same.
  have hswap : ∀ g, fault.cause.toList.foldl Store.retain (s.modifyBackend context.backend g) =
      (fault.cause.toList.foldl Store.retain s).modifyBackend context.backend g := by
    cases fault.cause <;> exact fun _ => rfl
  rw [registerWith_eq]
  dsimp only
  unfold receive
  dsimp only
  simp only [hswap]
  generalize fault.cause.toList.foldl Store.retain s = s₁ at hnext hcontexts hbackends ⊢
  rw [← hbackends] at hb
  have hadded : (s₁.addFault fault).contexts.get? c = some context := by
    rw [← hget, ← hcontexts]
    rfl
  have htrack := trackWith_of_reentries visit hadded hvalid hb hcalm s₁.faults.next
  by_cases hrefused : backend.refuses (backend.requests + 1) .node = true
  · rw [if_pos hrefused] at htrack ⊢
    rw [htrack]
    dsimp only
    rw [hnext]
    rfl
  · rw [if_neg hrefused] at htrack ⊢
    rw [htrack]
    dsimp only
    rw [hnext]
    rfl

/-- The error that a draft describes, in given blocks. -/
def drafted (c : ContextId) (b : BackendId) (block text : Block) (length : Nat) (draft : Draft)
    (cause : Option FaultId) : Fault :=
  ofDraft c b block (Message.stored draft.message (.zeroed text length)) draft cause

/-- **All that a creation can come to** through a valid context at whose backend nobody is waiting.
-/
theorem create_cases (hget : s.contexts.get? c = some context) (hvalid : context.valid = true)
    (hb : s.backends.get? context.backend = some backend) (hcalm : backend.reentries = [])
    (draft : Draft) (cause : Option FaultId) :
    let record (n : Nat) (events : List Event) :=
      s.modifyBackend context.backend fun _ => backend.after n events
    let block := backend.upcoming 1 .fault
    (backend.refuses (backend.requests + 1) .fault = true ∧
      s.create c draft cause =
        (record 1 [.refused (backend.requests + 1) .fault], .error (.alloc .errorBlock))) ∨
    (backend.refuses (backend.requests + 1) .fault = false ∧
      Message.measure draft.message.first = none ∧
      s.create c draft cause = (record 1 [.freed block, .granted block], .error .format)) ∨
    ∃ length, backend.refuses (backend.requests + 1) .fault = false ∧
      Message.measure draft.message.first = some length ∧
      ((Layout.buffer? length = none ∧
        s.create c draft cause =
          (record 1 [.freed block, .granted block], .error (.alloc .message))) ∨
      ∃ layout, Layout.buffer? length = some layout ∧
        ((backend.refuses (backend.requests + 2) layout = true ∧
          s.create c draft cause =
            (record 2 [.freed block, .refused (backend.requests + 2) layout, .granted block],
              .error (.alloc .message))) ∨
        (backend.refuses (backend.requests + 2) layout = false ∧
          let text := backend.upcoming 2 layout
          let fault := drafted c context.backend block text length draft cause
          s.create c draft cause =
            (if backend.refuses (backend.requests + 3) .node = true then
              (record 3 [.refused (backend.requests + 3) .node, .granted text,
                .granted block]).receive c fault none
            else
              let node := backend.upcoming 3 .node
              (record 3 [.granted node, .granted text, .granted block]).receive c fault (some node),
              .ok s.faults.next)))) := by
  intro record block
  have hcreate : s.create c draft cause = s.createWith (reader s.waiting) c draft cause := rfl
  unfold createWith at hcreate
  rw [hget] at hcreate
  dsimp only at hcreate
  rw [if_pos hvalid] at hcreate
  -- The requests in the order in which they are made; each refusal ends the proof where it ends the
  -- creation.
  cases hblock : backend.refuses (backend.requests + 1) .fault with
  | true =>
      rw [requestWith_of_refuses hb hcalm hblock] at hcreate
      exact .inl ⟨rfl, hcreate⟩
  | false =>
  rw [requestWith_of_not_refuses hb hcalm hblock] at hcreate
  refine .inr ?_
  dsimp only at hcreate
  unfold formatWith at hcreate
  have hb₁ : (record 1 [.granted block]).backends.get? context.backend =
      some (backend.after 1 [.granted block]) := get?_modifyBackend hb _
  cases hmeasure : Message.measure draft.message.first with
  | none =>
      rw [hmeasure] at hcreate
      dsimp only at hcreate
      rw [free_after] at hcreate
      exact .inl ⟨rfl, rfl, hcreate⟩
  | some length =>
  rw [hmeasure] at hcreate
  dsimp only at hcreate
  unfold requestBufferWith at hcreate
  refine .inr ⟨length, rfl, rfl, ?_⟩
  cases hlayout : Layout.buffer? length with
  | none =>
      rw [hlayout] at hcreate
      dsimp only at hcreate
      rw [free_after] at hcreate
      exact .inl ⟨rfl, hcreate⟩
  | some layout =>
  rw [hlayout] at hcreate
  dsimp only at hcreate
  refine .inr ⟨layout, rfl, ?_⟩
  cases htext : backend.refuses (backend.requests + 2) layout with
  | true =>
      rw [requestWith_of_refuses hb₁ hcalm htext] at hcreate
      dsimp only at hcreate
      rw [modifyBackend_after, free_after] at hcreate
      exact .inl ⟨rfl, hcreate⟩
  | false =>
      rw [requestWith_of_not_refuses hb₁ hcalm htext] at hcreate
      dsimp only at hcreate
      rw [modifyBackend_after] at hcreate
      let text := backend.upcoming 2 layout
      have hget₂ : (record 2 [.granted text, .granted block]).contexts.get? c = some context := hget
      -- The entry is asked for last, and its refusal does not undo the error.
      have hregister := registerWith_of_reentries (reader s.waiting)
        (drafted c context.backend block text length draft cause) hget₂ hvalid
        (get?_modifyBackend hb _) hcalm
      dsimp only [record] at hregister
      rw [modifyBackend_after, modifyBackend_after] at hregister
      exact .inr ⟨rfl, hcreate.trans (congrArg (fun r => (r.1, Except.ok r.2)) hregister)⟩

end Creation

end Store

namespace Session

/-! ## Sessions after a creation

What is said of a creation is said of the whole session: that nothing has changed but a history, or
that there is one more error and everything else is as it was.
-/

/-- **Nothing comes of a creation that fails**: the session is as it was, except for what a backend
recorded, and this backend has handed out the same blocks as before. -/
structure Unmade (s s' : Session) (b : BackendId) (backend backend' : Backend) : Prop where
  same : s' = { s with store := s.store.modifyBackend b fun _ => backend' }
  kept : backend' = { backend with requests := backend'.requests, history := backend'.history }
  outstanding : Memory.outstanding backend'.history = Memory.outstanding backend.history
  number : backend'.tally.allocs - backend'.tally.frees = backend.tally.allocs - backend.tally.frees
  bytes : backend'.tally.bufferBytes = backend.tally.bufferBytes

/-- **One more error comes of a creation that succeeds**, with one reference on it, and one more on
its cause.  It is at the head of the registry of its context if it is to be listed, and detached
otherwise. -/
structure Made (s s' : Session) (c : ContextId) (b : BackendId) (backend : Backend) (draft : Draft)
    (length : Nat) (cause : Option FaultId) (listed : Bool) : Prop where
  fresh : s.store.faults.get? s.store.faults.next = none
  fault : s'.store.faults.get? s.store.faults.next = some
    { Store.drafted c b (backend.upcoming 1 .fault)
        (backend.upcoming 2 { size := length + 1, align := 1 }) length draft cause with
      refs := 1
      context := if listed then some c else none }
  others : ∀ e, e ≠ s.store.faults.next → s'.store.faults.get? e =
    (s.store.faults.get? e).map fun f => if cause = some e then { f with refs := f.refs + 1 } else f
  contexts : s'.store.contexts = if listed then
      s.store.contexts.modify c fun context => { context with registry :=
        { fault := s.store.faults.next, node := backend.upcoming 3 .node } :: context.registry }
    else s.store.contexts
  /-- Besides the blocks of the error its backend has handed out one for the entry, if there is one.
  -/
  backends : ∃ history, s'.store.backends = s.store.backends.modify b (fun _ =>
      { backend with requests := backend.requests + 3, history }) ∧
    Memory.outstanding history = (if listed then [backend.upcoming 3 .node] else []) ++
      backend.upcoming 2 { size := length + 1, align := 1 } :: backend.upcoming 1 .fault ::
        Memory.outstanding backend.history
  log : listed = true → s'.store.log = s.store.log
  held : s' = { s with store := s'.store, faults := s.faults.insert s.store.faults.next }

section Creating

variable {s : Session} {h : Handle} {c : ContextId} {draft : Draft} {cause : Option Handle}
  {b : BackendId} {backend : Backend}

/-- Creating an error through a handle, over a cause that is held, if one is named. -/
theorem perform_createFault (hrunning : s.aborted = false) (hh : s.contexts.get? h = some c)
    (hcause : ∀ l ∈ cause, ∃ e, s.faults.get? l = some e) (draft : Draft) :
    s.perform (.createFault h draft cause) = s.createFault c draft (cause.bind s.faults.get?) := by
  rw [perform_eq hrunning]
  cases cause with
  | none => rw [act, withContext_of_get? hh, Option.bind_none]
  | some l =>
      obtain ⟨e, hget⟩ := hcause l rfl
      rw [act, withContext_of_get? hh, withFault_of_get? hget, Option.bind_some, hget]

/-- An operation that fails leaves nothing if its backend got everything back.  What a backend
recorded is looked at as a list of events, so that this can be seen by matching it. -/
theorem unmade_of_perform {operation : Operation} {n : Nat} {events : List Event} {why : Failure}
    (hfailed : s.perform operation =
      ({ s with store := s.store.modifyBackend b fun _ => backend.after n events }, .failed why))
    (hevents : events = [.refused (backend.requests + 1) .fault] ∨
      ∃ block, events = [.freed block, .granted block] ∨
        ∃ layout, events = [.freed block, .refused (backend.requests + 2) layout, .granted block])
    (hformat : why = .format → n = 1) :
    (s.perform operation).2 = .failed why ∧
      ∀ why', (s.perform operation).2 = .failed why' →
        ∃ backend', Unmade s (s.perform operation).1 b backend backend' ∧
          (why' = .format → backend'.requests = backend.requests + 1) := by
  rw [hfailed]
  refine ⟨rfl, fun why' hwhy => ⟨backend.after n events, ?_, fun heq => ?_⟩⟩
  · rcases hevents with rfl | ⟨block, rfl | ⟨layout, rfl⟩⟩
    · exact ⟨rfl, rfl, rfl, rfl, rfl⟩
    · exact ⟨rfl, rfl, List.erase_cons_head _ _, Nat.add_sub_add_right _ _ _,
        Nat.add_sub_cancel _ _⟩
    · exact ⟨rfl, rfl, List.erase_cons_head _ _, Nat.add_sub_add_right _ _ _,
        Nat.add_sub_cancel _ _⟩
  · obtain rfl : why = why' := Outcome.failed.inj hwhy
    rw [hformat heq]
    rfl

/-- An error that was received is one that was made: what stands in the store is what the law asks
for. -/
theorem made_of_receive {length : Nat} {layout : Layout} {cause : Option FaultId}
    (hlayout : Layout.buffer? length = some layout) (refused : Bool) :
    let text := backend.upcoming 2 layout
    let block := backend.upcoming 1 .fault
    let node := backend.upcoming 3 .node
    let fault := Store.drafted c b block text length draft cause
    let record (events : List Event) := s.store.modifyBackend b fun _ => backend.after 3 events
    let store := if refused = true then
        (record [.refused (backend.requests + 3) .node, .granted text, .granted block]).receive c
          fault none
      else
        (record [.granted node, .granted text, .granted block]).receive c fault (some node)
    Made s { s with store, faults := s.faults.insert s.store.faults.next } c b backend draft length
      cause !refused := by
  intro text block node fault record store
  obtain ⟨-, rfl⟩ := Layout.buffer?_eq_some_iff.1 hlayout
  have hfresh : s.store.faults.get? s.store.faults.next = none :=
    Arena.get?_eq_none_of_next_le (Nat.le_refl _)
  -- An entry or none: the error is the same but for its link.
  cases refused with
  | true =>
      obtain ⟨hbackends, hcontexts, -⟩ := Store.receive_eq
        (record [.refused (backend.requests + 3) .node, .granted text, .granted block]) c fault none
      have hget := Store.get?_receive
        (record [.refused (backend.requests + 3) .node, .granted text, .granted block]) c fault none
      exact {
        fresh := hfresh
        fault := (hget _).trans (if_pos rfl)
        others := fun e hne => (hget e).trans (if_neg hne)
        contexts := hcontexts
        backends := ⟨_, hbackends, rfl⟩
        log := nofun
        held := rfl }
  | false =>
      obtain ⟨hbackends, hcontexts, hlog⟩ := Store.receive_eq
        (record [.granted node, .granted text, .granted block]) c fault (some node)
      have hget := Store.get?_receive
        (record [.granted node, .granted text, .granted block]) c fault (some node)
      exact {
        fresh := hfresh
        fault := (hget _).trans (if_pos rfl)
        others := fun e hne => (hget e).trans (if_neg hne)
        contexts := hcontexts
        backends := ⟨_, hbackends, rfl⟩
        log := fun _ => hlog rfl
        held := rfl }

/-- Creating an error through a handle, given what comes of it in the store.  A failure is passed on
and nothing is held. -/
theorem createFault_of_error {store : Store} {why : Failure} {cause : Option FaultId}
    (hcreate : s.store.create c draft cause = (store, .error why)) :
    s.createFault c draft cause = ({ s with store }, .failed why) := by
  rw [createFault, onStore_eq, hcreate]

/-- Where an error comes of it in the store, it is held. -/
theorem createFault_of_ok {store : Store} {e : FaultId} {cause : Option FaultId}
    (hcreate : s.store.create c draft cause = (store, .ok e)) :
    s.createFault c draft cause =
      ({ s with store, faults := s.faults.insert e }, .key s.faults.next) := by
  rw [createFault, onStore_eq, hcreate]
  rfl

end Creating

/-- **Creation** over every run, through a valid context at whose backend nobody is waiting.

* It fails for want of a block if and only if the first request is refused.  It fails for the
  message if and only if that request is granted and the first pass reports an error; then nothing
  else was asked for.  It fails for want of a buffer if and only if both went well and the buffer
  for the message cannot be had.  In every other case it succeeds.
* Nothing comes of a creation that fails.
* A creation that succeeds leaves exactly one more error, which is at the head of the registry if
  the request for its entry is granted, and detached if it is refused. -/
theorem creation_of_run (log : Log) (before : List Operation) (h : Handle) (draft : Draft)
    (cause : Option Handle) (c : ContextId) (context : Context) :
    let s := ((start log).run before).1
    s.aborted = false → s.contexts.get? h = some c → s.store.contexts.get? c = some context →
    context.valid = true → (∀ l ∈ cause, ∃ e, s.faults.get? l = some e) →
    (∀ backend, s.store.backends.get? context.backend = some backend → backend.reentries = []) →
    ∃ backend, s.store.backends.get? context.backend = some backend ∧
      let s' := (s.perform (.createFault h draft cause)).1
      let outcome := (s.perform (.createFault h draft cause)).2
      let length := (Message.offered draft.message.first).utf8ByteSize
      let blockless := backend.refuses (backend.requests + 1) .fault = true
      let rejected := .fail ∈ draft.message.first
      let bufferless := ∀ layout ∈ Layout.buffer? length,
        backend.refuses (backend.requests + 2) layout = true
      (outcome = .failed (.alloc .errorBlock) ↔ blockless) ∧
      (outcome = .failed .format ↔ ¬blockless ∧ rejected) ∧
      (outcome = .failed (.alloc .message) ↔ ¬blockless ∧ ¬rejected ∧ bufferless) ∧
      (outcome = .key s.faults.next ↔ ¬blockless ∧ ¬rejected ∧ ¬bufferless) ∧
      (∀ why, outcome = .failed why → ∃ backend',
        Unmade s s' context.backend backend backend' ∧
          (why = .format → backend'.requests = backend.requests + 1)) ∧
      (∀ k, outcome = .key k →
        Made s s' c context.backend backend draft length (cause.bind s.faults.get?)
          !backend.refuses (backend.requests + 3) .node) := by
  intro s hrunning hh hget hvalid hcause hcalm
  -- A valid context has a backend, after every run.
  have hbacked : s.store.Backed :=
    Store.Backed.sized (backed_start log) (sized_run (backed_start log) before)
  obtain ⟨backend, hb⟩ := hbacked hget
  refine ⟨backend, hb, ?_⟩
  intro s' outcome length blockless rejected bufferless
  have hperform := perform_createFault hrunning hh hcause draft
  have hcases := Store.create_cases hget hvalid hb (hcalm backend hb) draft
    (cause.bind s.faults.get?)
  dsimp only at hcases
  -- One case for each end of a creation. Each settles all four equivalences at once, as it says
  -- which of the refusals took place.
  rcases hcases with ⟨hblock, hcreate⟩ | ⟨hblock, hmeasure, hcreate⟩ | ⟨n, hblock, hmeasure, hrest⟩
  · obtain ⟨houtcome, hnothing⟩ := unmade_of_perform
      (hperform.trans (createFault_of_error hcreate)) (.inl rfl) nofun
    have hrefused : blockless := hblock
    refine ⟨?_, ?_, ?_, ?_, hnothing, ?_⟩ <;> simp [outcome, houtcome, hrefused]
  · obtain ⟨houtcome, hnothing⟩ := unmade_of_perform
      (hperform.trans (createFault_of_error hcreate)) (.inr ⟨_, .inl rfl⟩) fun _ => rfl
    have hgranted : ¬blockless := Bool.eq_false_iff.1 hblock
    have hrejected : rejected := by
      refine Decidable.byContradiction fun haccepted => ?_
      have hsome := Message.measure_eq_some_iff.2 ⟨haccepted, rfl⟩
      rw [hmeasure] at hsome
      cases hsome
    refine ⟨?_, ?_, ?_, ?_, hnothing, ?_⟩ <;> simp [outcome, houtcome, hgranted, hrejected]
  have hgranted : ¬blockless := Bool.eq_false_iff.1 hblock
  have haccepted : ¬rejected := (Message.measure_eq_some_iff.1 hmeasure).1
  have hbuffer : Layout.buffer? n = Layout.buffer? length := Store.buffer?_of_measure hmeasure
  rcases hrest with ⟨hlayout, hcreate⟩ | ⟨layout, hlayout, ⟨htext, hcreate⟩ | ⟨htext, hcreate⟩⟩
  · obtain ⟨houtcome, hnothing⟩ := unmade_of_perform
      (hperform.trans (createFault_of_error hcreate)) (.inr ⟨_, .inl rfl⟩) nofun
    have hwithheld : bufferless := fun layout hmem => by
      rw [← hbuffer, hlayout] at hmem
      cases hmem
    refine ⟨?_, ?_, ?_, ?_, hnothing, ?_⟩ <;>
      simp [outcome, houtcome, hgranted, haccepted, hwithheld]
  · obtain ⟨houtcome, hnothing⟩ := unmade_of_perform
      (hperform.trans (createFault_of_error hcreate)) (.inr ⟨_, .inr ⟨_, rfl⟩⟩) nofun
    have hwithheld : bufferless := fun layout' hmem => by
      rw [← hbuffer, hlayout] at hmem
      obtain rfl := Option.some.inj hmem
      exact htext
    refine ⟨?_, ?_, ?_, ?_, hnothing, ?_⟩ <;>
      simp [outcome, houtcome, hgranted, haccepted, hwithheld]
  · have hmade := hperform.trans (createFault_of_ok hcreate)
    have houtcome : outcome = .key s.faults.next := congrArg Prod.snd hmade
    have hobtained : ¬bufferless := fun hwithheld => by
      have hrefused := hwithheld layout (hbuffer ▸ hlayout)
      rw [htext] at hrefused
      cases hrefused
    refine ⟨?_, ?_, ?_, ?_, ?_, fun k _ => ?_⟩
    · simp [houtcome, hgranted]
    · simp [houtcome, haccepted]
    · simp [houtcome, hobtained]
    · simp [houtcome, hgranted, haccepted, hobtained]
    · simp [houtcome]
    -- The length that was measured is the length of the buffer, since both have one layout.
    · have hsame : n = length := by
        obtain ⟨-, hn⟩ := Layout.buffer?_eq_some_iff.1 hlayout
        obtain ⟨-, hlength⟩ := Layout.buffer?_eq_some_iff.1 (hbuffer ▸ hlayout)
        exact Nat.succ.inj (congrArg Layout.size (hn.symm.trans hlength))
      have hs' : s' = _ := congrArg Prod.fst hmade
      rw [hs', ← hsame]
      exact made_of_receive hlayout _

/-- A run to try it on: a backend is to refuse the third request from now. -/
def refusingRun : List Operation :=
  [.openBackend none, .createContext { backend := some 0 },
    .createFault 0 { domain := .io, code := .ioError, message := .ofText "disk full" } none,
    .failNext 0 [3]]

/-- An error over a cause, for which there is no entry. -/
def unlistedDraft : Draft where
  domain := .git
  code := .conflict
  message := .ofText "push"

/-- The error is there and detached, its cause has one more reference, and the registry of the
context is what it was. -/
theorem creation_of_refusingRun :
    let s := ((start { filter := .off }).run refusingRun).1
    let s' := (s.perform (.createFault 0 unlistedDraft (some 0))).1
    ∃ context backend, s.store.contexts.get? 0 = some context ∧ context.valid = true ∧
      s.store.backends.get? context.backend = some backend ∧ backend.reentries = [] ∧
      Made s s' 0 context.backend backend unlistedDraft 4 (some 0) false := by
  have hstate : let s := ((start { filter := .off }).run refusingRun).1
      s.aborted = false ∧ s.contexts.get? 0 = some 0 ∧ s.faults.get? 0 = some 0 ∧
      (s.store.contexts.get? 0).any (fun context => context.valid = true ∧
        (s.store.backends.get? context.backend).any (fun backend => backend.reentries = [] ∧
          backend.refuses (backend.requests + 3) .node = true) = true) = true ∧
      (s.perform (.createFault 0 unlistedDraft (some 0))).2 = .key 1 := by
    decide +kernel
  have hcreation := creation_of_run { filter := .off } refusingRun 0 unlistedDraft (some 0) 0
  intro s s'
  obtain ⟨hrunning, hh, hheld, hany, hkey⟩ := hstate
  obtain ⟨context, hget, hcontext⟩ := (Option.any_eq_true _ _).1 hany
  obtain ⟨hvalid, hbackend⟩ := of_decide_eq_true hcontext
  obtain ⟨backend, hb, hcalm⟩ := (Option.any_eq_true _ _).1 hbackend
  obtain ⟨hreentries, hrefused⟩ := of_decide_eq_true hcalm
  obtain ⟨backend', hb', -, -, -, -, -, hmade⟩ := hcreation context hrunning hh hget hvalid
    (fun l hl => ⟨0, Option.some.inj hl ▸ hheld⟩)
    (fun other hother => Option.some.inj (hb.symm.trans hother) ▸ hreentries)
  obtain rfl : backend = backend' := Option.some.inj (hb.symm.trans hb')
  have hone := hmade 1 hkey
  rw [hrefused] at hone
  have hcause : (some 0 : Option Handle).bind s.faults.get? = some 0 := hheld
  rw [hcause] at hone
  exact ⟨context, backend, hget, hvalid, hb, hreentries, hone⟩

end Session

end FaultChain

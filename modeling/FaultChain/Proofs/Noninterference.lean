import FaultChain.Proofs.Generations
import FaultChain.Proofs.Silence

/-!
# Diagnostics do not interfere

Which lines pass the filter of the log changes nothing but the log.  An operation reports the same
lines whatever log is in place, at the same points and in the same order (`tells_perform`); the
filter then takes out what it does not allow.  So two runs from one state at two levels have the
same outcomes, leave the same behind, and the lines of each step at one level are those of the step
at `trace` that the level allows (`noninterference_of_run`).

### What is load-bearing

`Store.Tells` says of a change of the store that its lines are fixed before a log is chosen.  That
everything between two reports commutes with the choice is `FaultChain.Proofs.Silence`.

### Why lines are told before they are kept

To run an operation twice, with two logs, and to compare what is left, one would have to follow two
runs at once, through every branch.  Instead one run is followed, and what is shown is that it does
not look at its log: there are lines which the operation would report to any log (`Tells`), and the
store it leaves is the same but for having them reported.  The two levels come in at the very end,
where the lines of one run are filtered by each (`recorded_filtered`).

That `report` ends in the log and not in the store is what makes the filter harmless: nothing reads
a log but whoever captures one.
-/

namespace FaultChain

open Memory (Backend)

/-- What any level allows, `trace` allows. -/
theorem Level.allows_trace {filter message : Level} (h : filter.allows message = true) :
    trace.allows message = true := by
  cases message with
  | off => rw [not_allows_off] at h; cases h
  | _ => rfl

namespace Log

/-- The lines that pass a filter. -/
def allowed (filter : Level) (lines : List Line) : List Line :=
  lines.filter fun line => filter.allows line.level

/-- Reports lines in turn. -/
def report (log : Log) (lines : List Line) : Log :=
  lines.foldl (fun log line => log.emit line.level line.origin line.message) log

section Report

variable (log : Log) (lines : List Line)

/-- Lines are reported one after the other. -/
theorem report_append (more : List Line) :
    log.report (lines ++ more) = (log.report lines).report more :=
  List.foldl_append

/-- The first of them is reported first. -/
theorem report_cons (line : Line) :
    log.report (line :: lines) = (log.emit line.level line.origin line.message).report lines := rfl

/-- What a level allows is left when `trace` has taken out what it does not allow. -/
theorem allowed_trace (filter : Level) :
    allowed filter (allowed .trace lines) = allowed filter lines := by
  rw [allowed, allowed, allowed, List.filter_filter]
  refine List.filter_congr fun line _ => ?_
  cases hallows : filter.allows line.level with
  | false => rfl
  | true => exact Level.allows_trace hallows

/-- While a capture is running, reported lines are in it as far as they pass the filter, in
order. -/
theorem report_of_capture {captured : List Line} (h : log.capture = some captured) :
    log.report lines =
      { log with capture := some ((allowed log.filter lines).reverse ++ captured) } := by
  induction lines generalizing log captured with
  | nil =>
      rw [allowed, List.filter_nil, List.reverse_nil, List.nil_append, ← h]
      rfl
  | cons line rest ih =>
      rw [report_cons, emit, allowed, List.filter_cons]
      by_cases hallows : log.filter.allows line.level = true
      · rw [if_pos hallows, if_pos hallows, h, List.reverse_cons, List.append_assoc]
        exact ih _ rfl
      · rw [if_neg hallows, if_neg hallows]
        exact ih log h

/-- What `trace` does not allow is dropped by every log. -/
theorem report_allowed_trace : log.report (allowed .trace lines) = log.report lines := by
  induction lines generalizing log with
  | nil => rfl
  | cons line rest ih =>
      rw [allowed, List.filter_cons]
      by_cases hallows : Level.trace.allows line.level = true
      · rw [if_pos hallows]
        exact ih _
      · have hdropped : log.emit line.level line.origin line.message = log := by
          rw [emit, if_neg fun h => hallows (Level.allows_trace h)]
        rw [if_neg hallows, report_cons, hdropped]
        exact ih log

end Report

end Log

namespace Store

/-- **A change of a store reports** the same lines to every log, and does the same with it.  The
lines stand before the log, so they cannot depend on it. -/
def Tells {α : Type} (f : Store → Store × α) (s : Store) : Prop :=
  ∃ lines : List Log.Line, ∀ log, f (s.withLog log) = ((f s).1.withLog (log.report lines), (f s).2)

/-- What is silent reports nothing. -/
theorem tells_of_silent {α : Type} {f : Store → Store × α} {s : Store}
    (h : ∀ log, f (s.withLog log) = ((f s).1.withLog log, (f s).2)) : Tells f s :=
  ⟨[], h⟩

section Telling

variable {visit : Visitor} (s : Store)

/-- An error that cannot be registered is reported. -/
theorem Silent.tells_registerWith (hv : Silent visit) (c : ContextId) (fault : Fault) :
    Tells (·.registerWith visit c fault) s := by
  unfold Tells
  simp only [registerWith_eq]
  have hretained : ∀ log, fault.cause.toList.foldl Store.retain (s.withLog log) =
      (fault.cause.toList.foldl Store.retain s).withLog log :=
    fun log => foldl_withLog s log (fun _ _ => rfl) _
  simp only [hretained]
  generalize fault.cause.toList.foldl Store.retain s = s₁
  have htrack : ∀ log, ((s₁.withLog log).addFault fault).trackWith visit c s₁.faults.next =
      (((s₁.addFault fault).trackWith visit c s₁.faults.next).1.withLog log,
        ((s₁.addFault fault).trackWith visit c s₁.faults.next).2) :=
    fun log => hv.trackWith (s₁.addFault fault) log c s₁.faults.next
  simp only [faults_withLog, htrack]
  rcases (s₁.addFault fault).trackWith visit c s₁.faults.next with ⟨s₂, _ | _⟩
  · exact ⟨[{ level := .warn, origin := faultOrigin, message := _ }], fun _ => rfl⟩
  · exact ⟨[], fun _ => rfl⟩

/-- Creating an error reports nothing but a missing entry. -/
theorem tells_create (c : ContextId) (draft : Draft) (cause : Option FaultId) :
    Tells (·.create c draft cause) s := by
  unfold Tells
  simp only [Store.create, createWith, contexts_withLog, waiting_withLog]
  cases s.contexts.get? c with
  | none => exact ⟨[], fun _ => rfl⟩
  | some context =>
      dsimp only
      cases context.valid with
      | false => exact ⟨[], fun _ => rfl⟩
      | true =>
          have hv := silent_reader s.waiting
          simp only [if_true, hv.requestWith]
          rcases s.requestWith (reader s.waiting) context.backend .fault with ⟨s₁, _ | block⟩
          · exact ⟨[], fun _ => rfl⟩
          simp only [hv.formatWith]
          rcases s₁.formatWith (reader s.waiting) context.backend draft.message
            with ⟨s₂, why | message⟩
          · exact ⟨[], fun _ => rfl⟩
          obtain ⟨lines, hlines⟩ := hv.tells_registerWith s₂ c
            (ofDraft c context.backend block message draft cause)
          exact ⟨lines, fun log => by simp only [hlines]⟩

/-- A new context is reported, and one that is refused is not. -/
theorem tells_createContext (b : BackendId) (settings : Settings) :
    Tells (·.createContext b settings) s := by
  unfold Tells
  simp only [Store.createContext, createContextWith, waiting_withLog]
  cases settings.validate with
  | error failure => exact ⟨[], fun _ => rfl⟩
  | ok _ =>
      simp only [(silent_reader s.waiting).requestWith]
      rcases s.requestWith (reader s.waiting) b .context with ⟨s₁, _ | block⟩
      · exact ⟨[], fun _ => rfl⟩
      · exact ⟨[{ level := .debug, origin := contextOrigin, message := _ }], fun _ => rfl⟩

/-- What a release reports is decided by its answer. -/
theorem tells_releaseContext (c : ContextId) (diagnostics : Bool) :
    Tells (·.releaseContext c diagnostics) s := by
  unfold Tells
  cases hget : s.contexts.get? c with
  | none =>
      have hnone : ∀ s : Store, s.contexts.get? c = none →
          s.releaseContext c diagnostics = (s, .invalid) := by
        intro s hget
        rw [releaseContext, hget]
      simp only [hnone s hget, fun log => hnone (s.withLog log) hget]
      exact ⟨[], fun _ => rfl⟩
  | some context =>
      have hreleased : ∀ log, (s.withLog log).releaseContext c diagnostics =
          ((s.withLog log).released c context (context.outcome diagnostics),
            context.outcome diagnostics) :=
        fun log => releaseContext_released (s := s.withLog log) hget diagnostics
      simp only [hreleased, releaseContext_released hget]
      cases context.outcome diagnostics with
      | invalid => exact ⟨[], fun _ => rfl⟩
      | retained => exact ⟨[], fun _ => rfl⟩
      | refused =>
          exact ⟨[{ level := .error, origin := contextOrigin, message := _ },
            { level := .warn, origin := contextOrigin, message := _ }], fun _ => rfl⟩
      | aborted =>
          exact ⟨[{ level := .error, origin := contextOrigin, message := _ }], fun _ => rfl⟩
      | destroyed =>
          exact ⟨[{ level := .debug, origin := contextOrigin, message := _ }], fun _ => rfl⟩

/-- A handle that is dropped and refused is reported once more. -/
theorem tells_dropContext (c : ContextId) : Tells (·.dropContext c) s := by
  obtain ⟨lines, hlines⟩ := tells_releaseContext s c Verdict.diagnosing
  unfold Tells
  simp only [dropContext, hlines]
  rcases s.releaseContext c Verdict.diagnosing with ⟨s₁, _ | _ | _ | _ | _⟩
  case refused =>
    refine ⟨lines ++ [{
      level := .warn
      origin := contextOrigin
      message := "context dropped with live errors, leaking it" }], fun log => ?_⟩
    rw [Log.report_append]
    rfl
  all_goals exact ⟨lines, fun _ => rfl⟩

end Telling

end Store

namespace Session

/-- The session with another log. -/
def withLog (s : Session) (log : Log) : Session :=
  { s with store := s.store.withLog log }

/-- An operation reports the same lines to every log, and does the same with it. -/
def Tells (act : Session → Session × Outcome) (s : Session) : Prop :=
  ∃ lines : List Log.Line, ∀ log,
    act (s.withLog log) = ((act s).1.withLog (log.report lines), (act s).2)

section Telling

variable {s : Session} {h : Handle}

/-- An operation that is silent reports nothing either. -/
theorem tells_of_silent {act : Session → Session × Outcome}
    (h : ∀ log, act (s.withLog log) = ((act s).1.withLog log, (act s).2)) : Tells act s :=
  ⟨[], h⟩

/-- The store of a session with another log. -/
@[simp]
theorem store_withLog (s : Session) (log : Log) : (s.withLog log).store = s.store.withLog log := rfl

/-- Acting on something that is held, or doing nothing. -/
theorem tells_held {β : Type} {g : Session → Option β} {f : Session → Session × Outcome}
    {act : Session → β → Session × Outcome} (hg : ∀ log, g (s.withLog log) = g s)
    (habsent : ∀ s, g s = none → f s = (s, .absent))
    (hheld : ∀ s x, g s = some x → f s = act s x) (hact : ∀ x, Tells (act · x) s) : Tells f s := by
  cases hx : g s with
  | none =>
      refine tells_of_silent fun log => ?_
      rw [habsent s hx, habsent _ ((hg log).trans hx)]
  | some x =>
      obtain ⟨lines, hlines⟩ := hact x
      refine ⟨lines, fun log => ?_⟩
      rw [hheld s x hx, hheld _ x ((hg log).trans hx)]
      exact hlines log

/-- Acting on a context that is held. -/
theorem tells_withContext {act : Session → ContextId → Session × Outcome}
    (hact : ∀ c, Tells (act · c) s) : Tells (·.withContext h act) s :=
  tells_held (g := (·.contexts.get? h)) (fun _ => rfl) (fun s hh => by rw [withContext, hh])
    (fun s _ hh => by rw [withContext, hh]) hact

/-- Acting on an error that is held. -/
theorem tells_withFault {act : Session → FaultId → Session × Outcome}
    (hact : ∀ e, Tells (act · e) s) : Tells (·.withFault h act) s :=
  tells_held (g := (·.faults.get? h)) (fun _ => rfl) (fun s hh => by rw [withFault, hh])
    (fun s _ hh => by rw [withFault, hh]) hact

/-- Acting on a copy that is held. -/
theorem tells_withCopy {act : Session → Copy → Session × Outcome}
    (hact : ∀ copy, Tells (act · copy) s) : Tells (·.withCopy h act) s :=
  tells_held (g := (·.copies.get? h)) (fun _ => rfl) (fun s hh => by rw [withCopy, hh])
    (fun s _ hh => by rw [withCopy, hh]) hact

/-- Acting on a block that is on loan. -/
theorem tells_withLoan {act : Session → Loan → Session × Outcome}
    (hact : ∀ loan, Tells (act · loan) s) : Tells (·.withLoan h act) s :=
  tells_held (g := (·.loans.get? h)) (fun _ => rfl) (fun s hh => by rw [withLoan, hh])
    (fun s _ hh => by rw [withLoan, hh]) hact

/-- What is made of a change of the store and its answer. -/
theorem tells_onStore {α : Type} {f : Store → Store × α} {act : Session → Session × Outcome}
    (hf : Store.Tells f s.store)
    (hact : ∀ (s' : Session) log,
      s'.onStore f = ((s.onStore f).1.withLog log, (s.onStore f).2) →
      act s' = ((act s).1.withLog log, (act s).2)) : Tells act s := by
  obtain ⟨lines, hlines⟩ := hf
  refine ⟨lines, fun log => hact (s.withLog log) (log.report lines) ?_⟩
  simp only [onStore_eq, store_withLog, hlines]
  rfl

/-- A context over a backend of its own has that one opened first. -/
theorem tells_createOver (store : Store) (settings : Settings) (rule : Memory.Rule) :
    Store.Tells (createOver · settings rule) store := by
  unfold Store.Tells createOver
  cases settings.backend with
  | some b => exact store.tells_createContext b settings
  | none => exact (store.openBackend none rule).1.tells_createContext store.backends.next settings

/-- **Every operation** reports the same lines to every log.  There is one case for each operation,
and each is that of the change of the store that it makes. -/
theorem tells_act (operation : Operation) : Tells (·.act operation) s := by
  cases operation with
  -- Each case finds what is acted on, then has the store change, and lastly shows that the session
  -- makes the same of the answer whatever log is in place.
  | openBackend limit rule =>
      refine tells_onStore (f := (·.openBackend limit rule)) ⟨[], fun _ => rfl⟩ fun s' log hs' => ?_
      simp only [act, hs']
  | failNext b offsets => exact tells_of_silent fun _ => rfl
  | letIn b readers =>
      refine tells_of_silent fun log => ?_
      simp only [act, store_withLog, Store.backends_withLog]
      cases s.store.backends.get? b with
      | none => rfl
      | some backend =>
          dsimp only [changeStore, store_withLog]
          rw [Store.letIn_withLog]
          rfl
  | createContext settings rule =>
      refine tells_onStore (tells_createOver s.store settings rule) fun s' log hs' => ?_
      simp only [act, createContext, hs']
      rcases s.onStore (createOver · settings rule) with ⟨s₁, _ | _⟩ <;> rfl
  | retainContext h => exact tells_withContext fun c => tells_of_silent fun _ => rfl
  | releaseContext h diagnostics keep =>
      refine tells_withContext fun c => ?_
      refine tells_onStore (s.store.tells_releaseContext c diagnostics) fun s' log hs' => ?_
      simp only [releaseContext, hs']
      rcases s.onStore (·.releaseContext c diagnostics) with ⟨s₁, _ | _ | _ | _ | _⟩ <;>
        cases keep <;> rfl
  | dropContext h =>
      refine tells_withContext fun c => ?_
      refine tells_onStore (s.store.tells_dropContext c) fun s' log hs' => ?_
      simp only [dropContext, hs']
      rcases s.onStore (·.dropContext c) with ⟨s₁, _ | _ | _ | _ | _⟩ <;> rfl
  | allocate h layout =>
      refine tells_withContext fun c => ?_
      refine tells_onStore (f := (·.allocate c layout))
        (Store.tells_of_silent fun log => s.store.allocate_withLog log c layout)
        fun s' log hs' => ?_
      simp only [allocate, hs']
      rcases s.onStore (·.allocate c layout) with ⟨s₁, _ | _⟩ <;> rfl
  | free h l =>
      refine tells_withContext fun c => tells_withLoan fun loan => ?_
      refine tells_onStore (f := (·.freeThrough c loan.block))
        (Store.tells_of_silent fun log => s.store.freeThrough_withLog log c loan.block)
        fun s' log hs' => ?_
      simp only [free, hs']
      rcases s.onStore (·.freeThrough c loan.block) with ⟨s₁, _ | _⟩ <;> rfl
  | detachRegistry h =>
      refine tells_withContext fun c => ?_
      refine tells_onStore (f := (·.detachRegistry c))
        (Store.tells_of_silent fun log => s.store.detachRegistry_withLog log c)
        fun s' log hs' => ?_
      simp only [hs']
  | track h k =>
      refine tells_withContext fun c => tells_withFault fun e => ?_
      refine tells_onStore (f := (·.track c e))
        (Store.tells_of_silent fun log => s.store.track_withLog log c e) fun s' log hs' => ?_
      simp only [hs']
  | untrack h k =>
      refine tells_withContext fun c => tells_withFault fun e => tells_of_silent fun log => ?_
      dsimp only [changeStore, store_withLog]
      rw [Store.untrack_withLog]
      rfl
  | createFault h draft cause =>
      have hcreate : ∀ c cause, Tells (·.createFault c draft cause) s := fun c cause => by
        refine tells_onStore (s.store.tells_create c draft cause) fun s' log hs' => ?_
        simp only [createFault, hs']
        rcases s.onStore (·.create c draft cause) with ⟨s₁, _ | _⟩ <;> rfl
      cases cause with
      | none => exact tells_withContext fun c => hcreate c none
      | some k => exact tells_withContext fun c => tells_withFault fun e => hcreate c (some e)
  | retainFault h => exact tells_withFault fun e => tells_of_silent fun _ => rfl
  | dropFault h =>
      refine tells_withFault fun e => tells_of_silent fun log => ?_
      dsimp only [changeStore, store_withLog]
      rw [Store.release_withLog]
      rfl
  | takeCause h =>
      refine tells_withFault fun e => tells_of_silent fun log => ?_
      simp only [takeCause, store_withLog, Store.faults_withLog]
      cases (s.store.faults.get? e).bind Fault.cause <;> rfl
  | read h passes =>
      refine tells_withFault fun e => ?_
      refine tells_onStore (f := (·.read e passes))
        (Store.tells_of_silent fun log => s.store.read_withLog log e passes) fun s' log hs' => ?_
      simp only [hs']
  | copyDocument h k passes =>
      refine tells_withContext fun c => tells_withFault fun e => ?_
      refine tells_onStore (f := (·.copyDocument c e passes))
        (Store.tells_of_silent fun log => s.store.copyDocument_withLog log c e passes)
        fun s' log hs' => ?_
      simp only [hs']
      rcases s.onStore (·.copyDocument c e passes) with ⟨s₁, _ | _⟩ <;> rfl
  | copyMessage h k =>
      refine tells_withContext fun c => tells_withFault fun e => ?_
      refine tells_onStore (f := (·.copyMessage c e))
        (Store.tells_of_silent fun log => s.store.copyMessage_withLog log c e) fun s' log hs' => ?_
      simp only [hs']
      rcases s.onStore (·.copyMessage c e) with ⟨s₁, _ | _⟩ <;> rfl
  | dropCopy h => exact tells_withCopy fun copy => tells_of_silent fun _ => rfl

/-- An aborted session reports nothing, and every other does as its operation does. -/
theorem tells_perform (s : Session) (operation : Operation) : ∃ lines : List Log.Line, ∀ log,
    (s.withLog log).perform operation =
      ((s.perform operation).1.withLog (log.report lines), (s.perform operation).2) := by
  simp only [perform, show ∀ log, (s.withLog log).aborted = s.aborted from fun _ => rfl]
  cases s.aborted with
  | true => exact ⟨[], fun _ => rfl⟩
  | false => exact tells_act operation

end Telling

/-! ## Runs with a capture for each step

Captures are how lines are looked at step by step.  A capture holds what passes the filter, so the
lines of a step at one level are those at another, filtered once more.
-/

/-- The session at another level of the log. -/
def filtered (s : Session) (level : Level) : Session :=
  s.withLog (s.store.log.setFilter level)

/-- Performs an operation with a capture running, and hands over what was captured. -/
def record (s : Session) (operation : Operation) : Session × Outcome × List Log.Line :=
  let (s, outcome) := (s.withLog s.store.log.beginCapture).perform operation
  let (log, lines) := s.store.log.takeCapture
  (s.withLog log, outcome, lines)

/-- Performs operations in turn, with the outcome of each and the lines that it logged.  The capture
is ended after each step, so no line shows up in two of them. -/
def recorded (s : Session) : List Operation → Session × List (Outcome × List Log.Line)
  | [] => (s, [])
  | operation :: rest =>
    let (s, step) := s.record operation
    let (s, steps) := s.recorded rest
    (s, step :: steps)

section Runs

variable {s : Session}

/-- A step at any level is the same step, less the lines that the level does not allow. -/
theorem record_filtered (operation : Operation) : ∃ lines : List Log.Line,
    (∀ log, (s.withLog log).perform operation =
      ((s.perform operation).1.withLog (log.report lines), (s.perform operation).2)) ∧
    ∀ level, (s.filtered level).record operation =
      (((s.perform operation).1.withLog { s.store.log with capture := none }).filtered level,
        (s.perform operation).2, Log.allowed level lines) := by
  obtain ⟨lines, hlines⟩ := s.tells_perform operation
  refine ⟨lines, hlines, fun level => ?_⟩
  have hbegun : (s.filtered level).withLog (s.filtered level).store.log.beginCapture =
      s.withLog { s.store.log with filter := level, capture := some [] } := rfl
  have hcaptured := Log.report_of_capture
    { s.store.log with filter := level, capture := some [] } lines rfl
  rw [record, hbegun, hlines, hcaptured, List.append_nil]
  simp only [store_withLog, Log.takeCapture, Store.withLog, Option.getD_some, List.reverse_reverse]
  rfl

/-- **A run at any level is the same run**, with captures or without, less the lines that the level
does not allow. -/
theorem recorded_filtered (operations : List Operation) :
    ∃ (last : Session) (steps : List (Outcome × List Log.Line)),
      (∀ level, (s.filtered level).recorded operations =
        (last.filtered level, steps.map fun step => (step.1, Log.allowed level step.2))) ∧
      ∀ log, (s.withLog log).run operations =
        (last.withLog (log.report (steps.flatMap Prod.snd)), steps.map Prod.fst) := by
  induction operations generalizing s with
  | nil => exact ⟨s, [], fun _ => rfl, fun _ => rfl⟩
  | cons operation rest ih =>
      obtain ⟨lines, hperform, hrecord⟩ := record_filtered (s := s) operation
      obtain ⟨last, steps, hrecorded, hrun⟩ :=
        ih (s := (s.perform operation).1.withLog { s.store.log with capture := none })
      refine ⟨last, ((s.perform operation).2, lines) :: steps, fun level => ?_, fun log => ?_⟩
      · rw [recorded, hrecord]
        dsimp only
        rw [hrecorded]
        rfl
      · rw [run, hperform]
        rw [List.flatMap_cons, Log.report_append]
        exact congrArg (fun r => (r.1, (s.perform operation).2 :: r.2)) (hrun (log.report lines))

/-- **Diagnostics do not interfere.** Any operations are performed from any state, at two levels of
the log and at `trace`, with the lines of each step captured:

* at both levels every step has the same outcome;
* what is left is the same but for the level itself, the statistics of every backend included;
* the lines of each step at a level are those of the step at `trace` that the level allows, in
  order;
* without captures the outcomes and what is left are the same again, and the log has been told, from
  whatever it held before, the lines of all steps in turn. -/
theorem noninterference_of_run (s : Session) (a b : Level) (operations : List Operation) :
    let atA := (s.filtered a).recorded operations
    let atB := (s.filtered b).recorded operations
    let full := (s.filtered .trace).recorded operations
    atA.2.map Prod.fst = atB.2.map Prod.fst ∧
    atA.1.filtered b = atB.1 ∧
    (∀ k, (atA.1.store.backends.get? k).map Backend.tally =
      (atB.1.store.backends.get? k).map Backend.tally) ∧
    atA.2.map Prod.snd = full.2.map (fun step => Log.allowed a step.2) ∧
    (s.filtered a).run operations =
      (atA.1.withLog ((s.store.log.setFilter a).report (full.2.flatMap Prod.snd)),
        atA.2.map Prod.fst) := by
  obtain ⟨last, steps, hrecorded, hrun⟩ := recorded_filtered (s := s) operations
  intro atA atB full
  have hA : atA = (last.filtered a, steps.map fun step => (step.1, Log.allowed a step.2)) :=
    hrecorded a
  have hB : atB = (last.filtered b, steps.map fun step => (step.1, Log.allowed b step.2)) :=
    hrecorded b
  have hfull : full =
      (last.filtered .trace, steps.map fun step => (step.1, Log.allowed .trace step.2)) :=
    hrecorded .trace
  rw [hA, hB, hfull]
  refine ⟨?_, rfl, fun _ => rfl, ?_, ?_⟩
  · simp only [List.map_map, Function.comp_def]
  · simp only [List.map_map, Function.comp_def, Log.allowed_trace]
  · have hlines : ∀ log : Log, log.report ((steps.map fun step =>
        (step.1, Log.allowed .trace step.2)).flatMap Prod.snd) =
          log.report (steps.flatMap Prod.snd) := by
      intro log
      rw [List.flatMap_map, ← Log.report_allowed_trace log (steps.flatMap Prod.snd), Log.allowed,
        List.filter_flatMap]
      rfl
    rw [hlines, List.map_map]
    exact hrun (s.store.log.setFilter a)

end Runs

end Session

end FaultChain

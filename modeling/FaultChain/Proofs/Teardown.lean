import FaultChain.Store.Teardown

/-!
# What giving up a reference on a context comes to

The code asks three questions in a row: whether the context is valid, whether the reference was the
last one, and what the verdict on the registered errors is.  `Context.outcome` asks them of the
context alone, and `Context.after` says what each answer leaves of it; together they are all that a
release does to the contexts of a store (`releaseContext_eq`).

### What is load-bearing

A release gives a block back and says things to the log as well.  None of this is looked at by the
answer, which is given by what the context was when the code came to it.  So the answers can be told
apart by one case split each, and the modules on contexts need none of what happens elsewhere.

Which errors are registered does not matter: the registry is empty or it is not.
-/

namespace FaultChain

namespace Context

/-- What giving up a reference on a context comes to.  A caller who is diagnosing aborts where
others are refused. -/
def outcome (context : Context) (diagnostics : Bool) : Release :=
  if context.valid then
    if context.refs = 1 then
      match Verdict.ofLive diagnostics context.live with
      | .proceed => .destroyed
      | .abort => .aborted
      | .refuse => .refused
    else .retained
  else .invalid

/-- What is left of a context, by the answer.  One that is refused is left with a generation more,
and its one reference. -/
def after (context : Context) : Release → Context
  | .invalid => context
  | .retained => { context with refs := context.refs - 1 }
  | .refused => { context with generation := context.generation + 1 }
  | .aborted =>
    { context with refs := context.refs - 1, generation := context.generation + 1 }
  | .destroyed =>
    { context with
      refs := context.refs - 1
      generation := context.generation + 1
      valid := false }

/-- One reference of several is given up. -/
theorem outcome_eq_retained_iff {context : Context} {diagnostics : Bool} :
    context.outcome diagnostics = .retained ↔ context.valid = true ∧ context.refs ≠ 1 := by
  unfold outcome
  split
  · next hvalid =>
      split
      · next hlast => split <;> simp [hlast]
      · next hlast => simp [hvalid, hlast]
  · next hvalid => simp [hvalid]

/-- The last one is, and no error is registered. -/
theorem outcome_eq_destroyed_iff {context : Context} {diagnostics : Bool} :
    context.outcome diagnostics = .destroyed ↔
      context.valid = true ∧ context.refs = 1 ∧ context.registry = [] := by
  unfold outcome Verdict.ofLive live
  split
  · next hvalid =>
      split
      · next hlast => cases context.registry <;> cases diagnostics <;> simp [hvalid, hlast]
      · next hlast => simp [hlast]
  · next hvalid => simp [hvalid]

/-- Errors are registered, and the caller is told so. -/
theorem outcome_eq_refused_iff {context : Context} {diagnostics : Bool} :
    context.outcome diagnostics = .refused ↔
      context.valid = true ∧ context.refs = 1 ∧ context.registry ≠ [] ∧ diagnostics = false := by
  unfold outcome Verdict.ofLive live
  split
  · next hvalid =>
      split
      · next hlast => cases context.registry <;> cases diagnostics <;> simp [hvalid, hlast]
      · next hlast => simp [hlast]
  · next hvalid => simp [hvalid]

/-- Errors are registered, and the caller goes down with them. -/
theorem outcome_eq_aborted_iff {context : Context} {diagnostics : Bool} :
    context.outcome diagnostics = .aborted ↔
      context.valid = true ∧ context.refs = 1 ∧ context.registry ≠ [] ∧ diagnostics = true := by
  unfold outcome Verdict.ofLive live
  split
  · next hvalid =>
      split
      · next hlast => cases context.registry <;> cases diagnostics <;> simp [hvalid, hlast]
      · next hlast => simp [hlast]
  · next hvalid => simp [hvalid]

/-- The context was destroyed before. -/
theorem outcome_eq_invalid_iff {context : Context} {diagnostics : Bool} :
    context.outcome diagnostics = .invalid ↔ context.valid = false := by
  unfold outcome
  split
  · next hvalid =>
      rw [hvalid]
      split
      · split <;> simp
      · simp
  · next hvalid => simp [hvalid]

end Context

namespace Store

variable {s : Store} {c : ContextId} {context : Context}

/-- **A release** answers by the context alone, and changes no context but this one. -/
theorem releaseContext_eq (hget : s.contexts.get? c = some context) (diagnostics : Bool) :
    (s.releaseContext c diagnostics).2 = context.outcome diagnostics ∧
      (s.releaseContext c diagnostics).1.contexts.next = s.contexts.next ∧
      ∀ c', (s.releaseContext c diagnostics).1.contexts.get? c' =
        if c = c' then some (context.after (context.outcome diagnostics))
        else s.contexts.get? c' := by
  have hself : ∀ c',
      (if c = c' then some context else s.contexts.get? c') = s.contexts.get? c' := by
    intro c'
    split
    · next heq => exact heq ▸ hget.symm
    · rfl
  unfold releaseContext Context.outcome
  rw [hget]
  dsimp only
  cases hvalid : context.valid with
  | false => exact ⟨rfl, rfl, fun c' => (hself c').symm⟩
  | true =>
      by_cases hlast : context.refs = 1
      · rw [if_neg (by decide), if_neg (not_not_intro hlast), if_pos rfl, if_pos hlast]
        cases Verdict.ofLive diagnostics context.live with
        | proceed =>
            refine ⟨rfl, by simp [destroyContext, free, emit, modifyBackend, modifyContext],
              fun c' => ?_⟩
            simp only [destroyContext, free, emit, modifyBackend, modifyContext, Arena.get?_modify]
            split
            · next heq => rw [← heq, hget]; rfl
            · rfl
        | abort =>
            refine ⟨rfl, by simp [emit, modifyContext], fun c' => ?_⟩
            simp only [emit, modifyContext, Arena.get?_modify]
            split
            · next heq => rw [← heq, hget]; rfl
            · rfl
        | refuse =>
            -- The reference that was given up is taken back.
            refine ⟨rfl, by simp [emit, modifyContext], fun c' => ?_⟩
            simp only [emit, modifyContext, Arena.get?_modify]
            split
            · next heq =>
                rw [← heq, hget]
                simp only [Option.map_some, Context.after, UInt32.sub_add_cancel]
            · rfl
      · rw [if_neg (by decide), if_pos hlast, if_pos rfl, if_neg hlast]
        refine ⟨rfl, Arena.next_modify _ _ _, fun c' => ?_⟩
        rw [modifyContext, Arena.get?_modify]
        split
        · next heq => rw [← heq, hget]; rfl
        · rfl

/-- Dropping a handle releases it without a diagnosing caller. -/
theorem dropContext_eq (s : Store) (c : ContextId) :
    (s.dropContext c).2 = (s.releaseContext c Verdict.diagnosing).2 ∧
      (s.dropContext c).1.contexts = (s.releaseContext c Verdict.diagnosing).1.contexts := by
  unfold dropContext
  split
  · next heq =>
      rw [heq]
      exact ⟨rfl, rfl⟩
  · exact ⟨rfl, rfl⟩

end Store

end FaultChain

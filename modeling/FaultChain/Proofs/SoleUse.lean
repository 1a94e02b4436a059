import FaultChain.Lock.Guard
import FaultChain.Proofs.Exclusion

/-!
# A lock with one user is a contention of one worker

`Guarded` says what the only user of a lock sees of it, and `Contention` how any number of workers
interleave.  They are two readings of one lock, and this module ties them together: what a worker
has of the lock is a `Guarded` one (`Worker.view`), each of his turns is one use of it that comes to
what it was for (`Worker.view_workerStep`), and so is a whole run of a worker who is alone
(`Contention.serves_of_run`).

### What is load-bearing

The flag and the guard are two records of one fact.  A user who is alone keeps them equal
(`Guarded.Consistent`), and everything else follows from that: the guard decides which uses succeed,
and a use that fails leaves the lock as it was (`Guarded.serve_spec`).  Where others have the guard
the flag says more than the view of one worker, so the view of a worker in a crowd is not
consistent, and the law is about a worker who is alone.

Acquiring a lock that one holds is told apart from waiting for somebody else, because nobody is
there to end the wait.  That is no decision of the model: who waits while nobody else has a turn
gets no guard, however long he waits (`Contention.waits_for_ever`).
-/

namespace FaultChain

namespace Guarded

/-- What the only user of a lock can do with it. -/
inductive Use (α : Type)
  | acquire
  | tryAcquire
  | get
  | set (value : α)
  | release

/-- Whether a use is one of the guard; the others are to get it. -/
def Use.needsGuard {α : Type} : Use α → Bool
  | acquire | tryAcquire => false
  | get | set _ | release => true

section Uses

variable {α : Type}

/-- Uses a lock; tells whether that came to what it was for. -/
def serve (g : Guarded α) : Use α → Guarded α × Bool
  | .acquire => g.acquire.map id (· == .locked)
  | .tryAcquire => g.tryAcquire
  | .get => (g, g.get?.isSome)
  | .set value => g.set value
  | .release => g.release

/-- Uses a lock a number of times, for as long as every use comes to what it was for. -/
def serves (g : Guarded α) : List (Use α) → Option (Guarded α)
  | [] => some g
  | u :: rest => if (g.serve u).2 then (g.serve u).1.serves rest else none

/-- The flag of the lock tells whether its user holds the guard. -/
def Consistent (g : Guarded α) : Prop :=
  g.lock.held = g.guarding

variable {g g' : Guarded α} {us : List (Use α)}

/-- **A use of a lock** keeps flag and guard together.  It comes to what it was for exactly if the
user holds the guard that it needs, or does not hold the one that it is to get; otherwise it changes
nothing. -/
theorem serve_spec (h : g.Consistent) (u : Use α) :
    (g.serve u).1.Consistent ∧ (g.serve u).2 = (g.guarding == u.needsGuard) ∧
      ((g.serve u).2 = false → (g.serve u).1 = g) := by
  obtain ⟨⟨held, yieldAfter, value⟩, guarding⟩ := g
  obtain rfl : held = guarding := h
  cases u <;> cases held <;> refine ⟨rfl, rfl, fun hfails => ?_⟩
  all_goals first | rfl | cases hfails

theorem Consistent.serves (h : g.Consistent) (hserves : g.serves us = some g') :
    g'.Consistent := by
  induction us generalizing g with
  | nil => exact Option.some.inj hserves ▸ h
  | cons u rest ih =>
      rw [Guarded.serves] at hserves
      split at hserves
      · exact ih (serve_spec h u).1 hserves
      · cases hserves

/-- Uses go on where others have come to. -/
theorem serves_append (hserves : g.serves us = some g') (rest : List (Use α)) :
    g.serves (us ++ rest) = g'.serves rest := by
  induction us generalizing g with
  | nil => exact congrArg (·.serves rest) (Option.some.inj hserves)
  | cons first more ih =>
      rw [List.cons_append]
      rw [Guarded.serves] at hserves ⊢
      split at hserves
      · next hserved => rw [if_pos hserved, ih hserves]
      · cases hserves

/-- Acquiring is refused exactly where the lock is held, and it is held by the user himself. -/
theorem acquire_eq_wouldBlock_iff (h : g.Consistent) :
    g.acquire.2 = .wouldBlock ↔ g.lock.held = true := by
  rw [h, acquire]
  cases g.guarding <;> simp

end Uses

end Guarded

namespace Worker

/-- What a worker has of a lock. -/
def view (lock : Lock Int) (w : Worker) : Guarded Int where
  lock := lock
  guarding := w.phase.hasGuard

/-- What a worker does with the lock in his turn; nothing if he is done. -/
def nextUse (w : Worker) (attempt : Attempt) : Option (Guarded.Use Int) :=
  match w.phase with
  | .idle =>
    if w.remaining = 0 then none
    else match attempt with
      | .untilAcquired => some .acquire
      | .once => some .tryAcquire
  | .spinning _ => some .acquire
  | .holding => some .get
  | .loaded value => some (.set (value + 1))
  | .stored => some .release

variable {lock : Lock Int} {w : Worker}

/-- **A turn of a worker who is alone** is a use of the lock that comes to what it was for, and what
he reads is what the guard shows him. -/
theorem view_workerStep (h : (w.view lock).Consistent) (attempt : Attempt) :
    (w.view lock).serves (w.nextUse attempt).toList =
      some ((Contention.workerStep lock attempt w).2.view
        (Contention.workerStep lock attempt w).1) ∧
    (w.phase = .holding → ∃ value, (w.view lock).get? = some value ∧
      (Contention.workerStep lock attempt w).2.phase = .loaded value) := by
  obtain ⟨held, yieldAfter, value⟩ := lock
  obtain ⟨remaining, phase⟩ := w
  obtain rfl : held = phase.hasGuard := h
  cases phase with
  | idle =>
      by_cases hdone : remaining = 0
      · simp [nextUse, Contention.workerStep, hdone, Guarded.serves]
      · cases attempt <;>
          simp [nextUse, Contention.workerStep, hdone, Guarded.serves, Guarded.serve,
            Guarded.acquire, Guarded.tryAcquire, view, Lock.swap, Phase.hasGuard]
  | spinning spin => exact ⟨rfl, by simp⟩
  | holding => exact ⟨rfl, fun _ => ⟨value, rfl, rfl⟩⟩
  | loaded read => exact ⟨rfl, by simp⟩
  | stored => exact ⟨rfl, by simp⟩

end Worker

namespace Contention

/-- What is done with the lock in a turn; nothing if there is no such worker. -/
def usesOf (c : Contention) (turn : Turn) : List (Guarded.Use Int) :=
  match c.workers[turn.worker]? with
  | none => []
  | some w => (w.nextUse turn.attempt).toList

/-- What is done with the lock in an interleaving, by whomever it is. -/
def uses (c : Contention) : List Turn → List (Guarded.Use Int)
  | [] => []
  | turn :: rest => c.usesOf turn ++ (c.step turn).uses rest

/-- A worker who is alone stays alone, and what is done in a turn is what he does: a turn of anybody
else is nobody's. -/
theorem step_sole {c : Contention} {w : Worker} (hsole : c.workers = #[w])
    (hconsistent : (w.view c.lock).Consistent) (turn : Turn) :
    ∃ w', (c.step turn).workers = #[w'] ∧
      (w.view c.lock).serves (c.usesOf turn) = some (w'.view (c.step turn).lock) := by
  rw [step, usesOf, hsole]
  by_cases hfirst : turn.worker = 0
  · rw [hfirst]
    exact ⟨_, rfl, (Worker.view_workerStep hconsistent turn.attempt).1⟩
  · rw [Array.getElem?_eq_none (by simpa using Nat.one_le_iff_ne_zero.2 hfirst)]
    exact ⟨w, hsole, rfl⟩

/-- **A worker who is alone** with a lock uses it as its only user: whatever turns there are, what
he has of the lock after them is what his uses make of what he had at first, each of which comes to
what it was for. -/
theorem serves_of_run {c : Contention} {w : Worker} (hsole : c.workers = #[w])
    (hconsistent : (w.view c.lock).Consistent) (turns : List Turn) :
    ∃ w', (c.run turns).workers = #[w'] ∧
      (w.view c.lock).serves (c.uses turns) = some (w'.view (c.run turns).lock) ∧
      (w'.view (c.run turns).lock).Consistent := by
  induction turns generalizing c w with
  | nil => exact ⟨w, hsole, rfl, hconsistent⟩
  | cons turn rest ih =>
      obtain ⟨w', hsole', hturn⟩ := step_sole hsole hconsistent turn
      obtain ⟨w'', hsole'', hrest, hconsistent''⟩ := ih hsole' (hconsistent.serves hturn)
      refine ⟨w'', hsole'', ?_, hconsistent''⟩
      rw [uses, Guarded.serves_append hturn]
      exact hrest

/-- Whoever has no guard can do nothing about a lock that is held. -/
theorem workerStep_of_held {lock : Lock Int} {w : Worker} (hheld : lock.held = true)
    (hnone : w.phase.hasGuard = false) (attempt : Attempt) :
    (workerStep lock attempt w).1 = lock ∧
      (workerStep lock attempt w).2.phase.hasGuard = false := by
  obtain ⟨held, yieldAfter, value⟩ := lock
  obtain ⟨remaining, phase⟩ := w
  obtain rfl : held = true := hheld
  cases phase with
  | idle =>
      by_cases hdone : remaining = 0
      · simp [workerStep, hdone, Phase.hasGuard]
      · cases attempt <;> simp [workerStep, hdone, Lock.swap, Phase.hasGuard]
  | spinning spin => exact ⟨rfl, rfl⟩
  | _ => cases hnone

/-- **Who waits for a lock that nobody frees waits for ever**: while only he has turns, the lock
stays held and he gets no guard. -/
theorem waits_for_ever {c : Contention} {i : Nat} (hheld : c.lock.held = true)
    (hnone : ∀ w, c.workers[i]? = some w → w.phase.hasGuard = false) (turns : List Turn)
    (honly : ∀ turn ∈ turns, turn.worker = i) :
    (c.run turns).lock.held = true ∧
      ∀ w, (c.run turns).workers[i]? = some w → w.phase.hasGuard = false := by
  induction turns generalizing c with
  | nil => exact ⟨hheld, hnone⟩
  | cons turn rest ih =>
      obtain rfl := honly turn List.mem_cons_self
      have hstep : (c.step turn).lock.held = true ∧
          ∀ w, (c.step turn).workers[turn.worker]? = some w → w.phase.hasGuard = false := by
        rcases c.step_cases turn with
          ⟨-, hsame⟩ | ⟨before, w, after, hlength, hworkers, hlock, hworkers'⟩
        · rw [hsame]
          exact ⟨hheld, hnone⟩
        have hself : ∀ x, (before ++ x :: after)[turn.worker]? = some x := fun x => by
          rw [← hlength]
          simp
        have hget : c.workers[turn.worker]? = some w := by
          rw [← Array.getElem?_toList, hworkers, hself]
        obtain ⟨hsame, hstill⟩ := workerStep_of_held hheld (hnone w hget) turn.attempt
        rw [hlock, hsame, ← Array.getElem?_toList, hworkers', hself]
        exact ⟨hheld, fun x hx => Option.some.inj hx ▸ hstill⟩
      exact ih hstep.1 hstep.2 fun turn hmem => honly turn (List.mem_cons_of_mem _ hmem)

end Contention

end FaultChain

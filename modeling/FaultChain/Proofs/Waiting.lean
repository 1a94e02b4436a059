import FaultChain.Proofs.Exclusion

/-!
# How often a waiter pauses and gives way

A waiter pauses after every failed swap, and gives the processor away after every so many of them in
a row.  The code counts the failures since it last did so in 32 bits and starts again from zero.
`Spin.Waited` says what this comes to: so many pauses as there were failures, and for the rest the
quotient and the remainder of their number by the threshold.  `Contention.waiting_of_run` says it of
every call in every interleaving.

### What is load-bearing

The count is a remainder, so there is room for one more below the threshold, and the threshold is
itself a number of 32 bits.  That is all that keeps the count from wrapping, also at the greatest
threshold (`Spin.Waited.toNat_succ`).

### Failures in a row

The count belongs to one call.  A worker starts a new one with an empty count, and while he waits,
others have their turns in any number; neither may show in what he has counted.  `failedInARow`
follows one worker through an interleaving and counts his failures since the last turn of his that
was anything else.  It is a definition on turns, which does not look at the count, so that
`Waiting.run` compares the code with something that is said without it.
-/

namespace FaultChain

namespace Spin

/-- **What a number of failed swaps in a row leaves**: the waiter paused after each, and gave the
processor away after every so many.  The rest of the division is what he has counted since. -/
structure Waited (every failures : Nat) (s : Spin) : Prop where
  pauses : s.pauses = failures
  yields : s.yields = failures / every
  count : s.count.toNat = failures % every

section Waited

variable {yieldAfter : UInt32} {m n : Nat} {s : Spin}

/-- At first there is nothing to count. -/
theorem waited_start (every : Nat) : Waited every 0 {} where
  pauses := rfl
  yields := (Nat.zero_div every).symm
  count := (Nat.zero_mod every).symm

/-- The next failure can be counted, and is the last at most before the count starts again. -/
theorem Waited.toNat_succ (h : Waited yieldAfter.toNat n s) (hpos : 0 < yieldAfter.toNat) :
    (s.count + 1).toNat = s.count.toNat + 1 ∧ s.count.toNat + 1 ≤ yieldAfter.toNat := by
  have hroom : s.count.toNat < yieldAfter.toNat := h.count ▸ Nat.mod_lt n hpos
  refine ⟨?_, hroom⟩
  rw [UInt32.toNat_add]
  exact Nat.mod_eq_of_lt (Nat.lt_of_le_of_lt hroom yieldAfter.toNat_lt)

/-- **One more failed swap.** -/
theorem Waited.fail (h : Waited yieldAfter.toNat n s) (hpos : 0 < yieldAfter.toNat) :
    Waited yieldAfter.toNat (n + 1) (s.fail yieldAfter) := by
  obtain ⟨hcount, hle⟩ := h.toNat_succ hpos
  have hsum := Nat.div_add_mod n yieldAfter.toNat
  rw [← h.count, ← h.yields] at hsum
  unfold Spin.fail
  dsimp only
  split
  · next hfull =>
      rw [ge_iff_le, UInt32.le_iff_toNat_le, hcount] at hfull
      have hnext : n + 1 = yieldAfter.toNat * (s.yields + 1) := by
        rw [Nat.mul_add_one]
        omega
      refine ⟨congrArg (· + 1) h.pauses, ?_, ?_⟩
      · rw [hnext, Nat.mul_div_cancel_left _ hpos]
      · rw [hnext, Nat.mul_mod_right]
        rfl
  · next hroom =>
      rw [ge_iff_le, UInt32.le_iff_toNat_le, hcount, Nat.not_le] at hroom
      obtain ⟨hyields, hrest⟩ := (Nat.div_mod_unique hpos).2
        ⟨(by omega : s.count.toNat + 1 + yieldAfter.toNat * s.yields = n + 1), hroom⟩
      exact ⟨congrArg (· + 1) h.pauses, hyields.symm, hcount.trans hrest.symm⟩

/-- Failures that come after others are added to them. -/
theorem waited_failures (hpos : 0 < yieldAfter.toNat) (n : Nat)
    (h : Waited yieldAfter.toNat m s) :
    Waited yieldAfter.toNat (m + n) (failures yieldAfter n s) := by
  induction n generalizing m s with
  | zero => exact h
  | succ n ih =>
      rw [← Nat.succ_add_eq_add_succ]
      exact ih (h.fail hpos)

/-- The last of several failures comes after the others. -/
theorem failures_succ (yieldAfter : UInt32) (n : Nat) (s : Spin) :
    failures yieldAfter (n + 1) s = (failures yieldAfter n s).fail yieldAfter := by
  induction n generalizing s with
  | zero => rfl
  | succ n ih => exact ih (s.fail yieldAfter)

end Waited

end Spin

/-- A threshold is set to one where none is asked for. -/
theorem Lock.toNat_yieldAfter {α : Type} (value : α) (t : UInt32) :
    (Lock.withYieldAfter value t).yieldAfter.toNat = max t.toNat 1 := by
  unfold Lock.withYieldAfter
  dsimp only
  split
  · next hzero =>
      subst hzero
      rfl
  · next hpos =>
      have hpos : 0 < t.toNat := Nat.pos_of_ne_zero fun hzero => hpos (UInt32.toNat_inj.1 hzero)
      exact (Nat.max_eq_left hpos).symm

/-! ## One worker

A worker counts only in a call that goes on until the lock is his, and counts failures only.
-/

/-- What a worker has done since the first swap of the call that he is in, if one has failed. -/
def Phase.spin? : Phase → Option Spin
  | .spinning spin => some spin
  | _ => none

/-- Whether a worker whose turn it is swaps in a call that goes on until the lock is his. -/
def Worker.insists (w : Worker) (attempt : Attempt) : Bool :=
  match w.phase with
  | .idle => w.remaining ≠ 0 && attempt = .untilAcquired
  | .spinning _ => true
  | _ => false

namespace Contention

/-- **A step** of a worker leaves him waiting if and only if such a swap fails, and then he has
counted one more failure.  Whoever only tries the lock does not wait for it. -/
theorem spin?_workerStep (lock : Lock Int) (attempt : Attempt) (w : Worker) :
    (workerStep lock attempt w).2.phase.spin? =
      if lock.held && w.insists attempt then
        some ((w.phase.spin?.getD {}).fail lock.yieldAfter)
      else none := by
  obtain ⟨held, yieldAfter, value⟩ := lock
  obtain ⟨remaining, phase⟩ := w
  cases phase with
  | idle =>
      by_cases hdone : remaining = 0
      · subst hdone
        cases held <;> rfl
      · have hleft : decide (remaining ≠ 0) = true := decide_eq_true hdone
        simp only [workerStep, Worker.insists, hdone, hleft, if_false]
        cases held <;> cases attempt <;> rfl
  | spinning spin => cases held <;> rfl
  | holding => cases held <;> rfl
  | loaded value => cases held <;> rfl
  | stored => cases held <;> rfl

/-- The threshold belongs to the lock and does not change. -/
theorem yieldAfter_workerStep (lock : Lock Int) (attempt : Attempt) (w : Worker) :
    (workerStep lock attempt w).1.yieldAfter = lock.yieldAfter := by
  obtain ⟨held, yieldAfter, value⟩ := lock
  obtain ⟨remaining, phase⟩ := w
  cases phase with
  | idle =>
      unfold workerStep
      dsimp only
      split
      · rfl
      · cases held <;> cases attempt <;> rfl
  | spinning spin => cases held <;> rfl
  | holding => rfl
  | loaded value => rfl
  | stored => rfl

/-! ## Calls in an interleaving

The turns of one worker are picked out of an interleaving, and those of the others are passed over.
-/

/-- What a worker has done in the call that he is in, if one of its swaps has failed. -/
def spin? (c : Contention) (i : Nat) : Option Spin :=
  (c.workers[i]?).bind (·.phase.spin?)

/-- Whether a turn is a failed swap in a call that goes on until the lock is acquired. -/
def failsSwap (c : Contention) (turn : Turn) : Bool :=
  c.lock.held && (c.workers[turn.worker]?).any (·.insists turn.attempt)

/-- How many swaps have failed in a row in the call that a worker is in, after so many before.
Turns of others do not count, and any other turn of his own ends the call. -/
def failedInARow (i : Nat) : Contention → List Turn → Nat → Nat
  | _, [], n => n
  | c, turn :: rest, n =>
    failedInARow i (c.step turn) rest
      (if turn.worker = i then if c.failsSwap turn then n + 1 else 0 else n)

/-- A worker has done what so many failed swaps in a row come to; without any he is not waiting. -/
def Waiting (c : Contention) (i failures : Nat) : Prop :=
  c.spin? i = if failures = 0 then none else some (Spin.failures c.lock.yieldAfter failures {})

section Calls

variable {c : Contention} {i n : Nat}

/-- Not in a turn. -/
theorem yieldAfter_step (c : Contention) (turn : Turn) :
    (c.step turn).lock.yieldAfter = c.lock.yieldAfter := by
  unfold step
  split
  · rfl
  · exact yieldAfter_workerStep _ _ _

/-- The worker whose turn it is waits on if and only if his swap fails. -/
theorem spin?_step (c : Contention) (turn : Turn) :
    (c.step turn).spin? turn.worker =
      if c.failsSwap turn then
        some (((c.spin? turn.worker).getD {}).fail c.lock.yieldAfter)
      else none := by
  unfold step spin? failsSwap
  cases hget : c.workers[turn.worker]? with
  | none =>
      dsimp only
      rw [hget, Option.any_none, Bool.and_false]
      rfl
  | some w =>
      have hlt := (Array.getElem?_eq_some_iff.1 hget).1
      dsimp only
      rw [Array.getElem?_setIfInBounds_self_of_lt hlt, Option.bind_some, Option.bind_some,
        Option.any_some, spin?_workerStep]

/-- **A turn** of anybody's. -/
theorem Waiting.step (h : c.Waiting i n) (turn : Turn) :
    (c.step turn).Waiting i
      (if turn.worker = i then if c.failsSwap turn then n + 1 else 0 else n) := by
  unfold Waiting at h ⊢
  rw [yieldAfter_step]
  by_cases hi : turn.worker = i
  · subst hi
    -- Before the first failure there is nothing to go on from but a fresh count.
    have hbefore : (c.spin? turn.worker).getD {} = Spin.failures c.lock.yieldAfter n {} := by
      rw [h]
      split
      · next hzero => rw [hzero, Option.getD_none, Spin.failures]
      · exact Option.getD_some
    rw [if_pos rfl, spin?_step, hbefore, ← Spin.failures_succ]
    split
    · exact (if_neg n.succ_ne_zero).symm
    · exact (if_pos rfl).symm
  · rw [if_neg hi, ← h, spin?, spin?, getElem?_step_of_ne c (Ne.symm hi)]

/-- **Any interleaving.** -/
theorem Waiting.run (h : c.Waiting i n) (turns : List Turn) :
    (c.run turns).Waiting i (failedInARow i c turns n) := by
  induction turns generalizing c n with
  | nil => exact h
  | cons turn rest ih => exact ih (h.step turn)

/-- Nor in any number of turns. -/
theorem yieldAfter_run (c : Contention) (turns : List Turn) :
    (c.run turns).lock.yieldAfter = c.lock.yieldAfter := by
  induction turns generalizing c with
  | nil => rfl
  | cons turn rest ih => exact (ih (c.step turn)).trans (yieldAfter_step c turn)

/-- At first nobody waits. -/
theorem waiting_start (lock : Lock Int) (workers times i : Nat) :
    (start lock workers times).Waiting i 0 := by
  unfold Waiting spin? start
  dsimp only
  rw [if_pos rfl, Option.bind_eq_none_iff]
  intro w hget
  obtain ⟨hlt, rfl⟩ := Array.getElem?_eq_some_iff.1 hget
  rw [Array.getElem_replicate]
  rfl

end Calls

/-- **Every call to acquire a lock pauses once for each failed swap, and gives the processor away
after every so many failed swaps in a row**, whatever threshold is asked for; no threshold counts as
one.

* After any number of failures there were as many pauses, and the processor was given away as often
  as the threshold goes into it: the next time at the next failure whose number it divides.
* The next failure can be counted without wrapping, and its number is at most the threshold before
  the count starts again.
* In every interleaving, a worker in a call in which a number of swaps have failed in a row has done
  just this, and one in whose call none has failed, or who is in none, has not waited. -/
theorem waiting_of_run (value : Int) (t : UInt32) :
    let lock : Lock Int := Lock.withYieldAfter value t
    let every := max t.toNat 1
    (∀ failures,
      let spin := Spin.failures lock.yieldAfter failures {}
      let next := Spin.failures lock.yieldAfter (failures + 1) {}
      spin.pauses = failures ∧ spin.yields = failures / every ∧
      next.yields = spin.yields + (if every ∣ failures + 1 then 1 else 0) ∧
      spin.count.toNat + 1 ≤ every ∧ (spin.count + 1).toNat = spin.count.toNat + 1) ∧
    ∀ workers times turns i,
      let c := start lock workers times
      let failures := c.failedInARow i turns 0
      (c.run turns).spin? i =
        if failures = 0 then none else some (Spin.failures lock.yieldAfter failures {}) := by
  intro lock every
  have hevery : lock.yieldAfter.toNat = every := Lock.toNat_yieldAfter value t
  have hpos : 0 < lock.yieldAfter.toNat := hevery ▸ Nat.le_max_right _ _
  have hwaited : ∀ n, Spin.Waited every n (Spin.failures lock.yieldAfter n {}) := by
    intro n
    have hn := Spin.waited_failures hpos n (Spin.waited_start _)
    rwa [Nat.zero_add, hevery] at hn
  refine ⟨fun failures => ?_, fun workers times turns i => ?_⟩
  · intro spin next
    have hspin := hwaited failures
    obtain ⟨hcounted, hroom⟩ := (hevery ▸ hspin).toNat_succ hpos
    refine ⟨hspin.pauses, hspin.yields, ?_, hevery ▸ hroom, hcounted⟩
    rw [(hwaited (failures + 1)).yields, hspin.yields, Nat.succ_div]
  · intro c failures
    have hrun := (waiting_start lock workers times i).run turns
    rwa [Waiting, yieldAfter_run] at hrun

end Contention

end FaultChain

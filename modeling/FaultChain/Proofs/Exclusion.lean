import Mathlib.Algebra.GroupWithZero.Nat
import FaultChain.Lock.Contention

/-!
# One guard, and no lost update

Workers take turns in any order.  However they do, the flag of the lock counts the guards: there is
one while it is `true` and none while it is `false`, although a swap that fails writes `true` as
well (`Contention.exclusion_of_run`).  A worker reads the value and writes one more in two steps,
and between the two nobody else writes, so no addition is lost: the value and what is still to be
added to it have the same sum after every turn.

### What is load-bearing

A worker who is past reading has to know that what he read is still the value (`Worker.Informed`).
The value changes only under a guard (`Contention.Moved.value`), and there is no second one, so what
one worker writes no other worker has read.

`Contention.complete` has everybody take turns until all are done.  That it comes to an end is a
matter of the same invariant: in every round somebody takes a step that he never has to take again
(`Contention.finished_complete`).

### Why the flag counts

A swap writes `true` whether it succeeds or not, so a failed one leaves a trace in nothing but the
worker who made it.  It succeeds exactly if the flag was `false`, and then there was no guard; and a
guard writes `false` only when it goes.  So the number of guards is one while the flag is `true` and
none while it is `false` (`Orderly`), which is both what is wanted and what is carried from turn to
turn: if all that is known is that there are not two guards, a free lock might still have one.

The order of turns is arbitrary, and so is their number.  Nothing is assumed about who gets the
lock; somebody may wait for ever in an interleaving that never gives him his turn at the right
moment.  What is shown is that he could get it: from any state that is reached, taking turns leads
to the end.
-/

namespace FaultChain

namespace Worker

/-- How many additions of a worker are still to be written. -/
def owed (w : Worker) : Nat :=
  if w.phase = .stored then w.remaining - 1 else w.remaining

/-- Whether a worker is right about what he still has to do and what he has read.  Whoever has read
the value has a guard, and the value is still what he read. -/
def Informed (lock : Lock Int) (w : Worker) : Prop :=
  (w.phase ≠ .idle → 0 < w.remaining) ∧ ∀ value, w.phase = .loaded value → value = lock.value

/-- Whoever has no guard has read nothing. -/
theorem Informed.of_not_hasGuard {lock lock' : Lock Int} {w : Worker} (h : w.Informed lock)
    (hguard : w.phase.hasGuard = false) : w.Informed lock' := by
  refine ⟨h.1, fun value hphase => ?_⟩
  rw [hphase] at hguard
  cases hguard

end Worker

namespace Contention

/-! ## One worker

What a step of one worker does, without the others: to the flag, to the value, and to what he knows.
-/

/-- **What a step of one worker does** to the lock and to the worker: guards come and go with the
flag, only a guard gives access to the value, and what is added is no longer owed. -/
structure Moved (lock : Lock Int) (w : Worker) (lock' : Lock Int) (w' : Worker) : Prop where
  guard : w.phase.hasGuard.toNat + lock'.held.toNat = w'.phase.hasGuard.toNat + lock.held.toNat
  value : lock'.value = lock.value ∨ w.phase.hasGuard = true
  balance : lock'.value + w'.owed = lock.value + w.owed
  informed : w'.Informed lock'

/-- One step of a worker moves him and the lock as `Moved` says.  The cases are his phases. -/
theorem moved_workerStep {lock : Lock Int} {w : Worker} (hinformed : w.Informed lock)
    (hheld : w.phase.hasGuard = true → lock.held = true) (attempt : Attempt) :
    Moved lock w (workerStep lock attempt w).1 (workerStep lock attempt w).2 := by
  obtain ⟨held, yieldAfter, value⟩ := lock
  obtain ⟨remaining, phase⟩ := w
  obtain ⟨hbusy, hread⟩ := hinformed
  cases phase with
  | idle =>
      by_cases hdone : remaining = 0
      · subst hdone
        exact ⟨rfl, .inl rfl, rfl, hbusy, nofun⟩
      · simp only [workerStep, hdone, if_false]
        cases held <;> cases attempt <;>
          exact ⟨rfl, .inl rfl, rfl, fun _ => Nat.pos_of_ne_zero hdone, nofun⟩
  | spinning spin =>
      cases held <;> exact ⟨rfl, .inl rfl, rfl, fun _ => hbusy nofun, nofun⟩
  | holding =>
      refine ⟨rfl, .inl rfl, rfl, fun _ => hbusy nofun, ?_⟩
      rintro _ ⟨⟩
      rfl
  | loaded read =>
      obtain rfl := hread read rfl
      have hpos := hbusy nofun
      refine ⟨rfl, .inr rfl, ?_, fun _ => hpos, nofun⟩
      simp only [workerStep, Lock.set, Worker.owed, reduceCtorEq, if_true, if_false]
      have hpos : 0 < remaining := hpos
      omega
  | stored =>
      obtain rfl := hheld rfl
      refine ⟨rfl, .inl rfl, ?_, fun hne => absurd rfl hne, nofun⟩
      simp [workerStep, Lock.unlock, Worker.owed]

/-! ## All workers

The others stand where they stood.  What may have changed under them is the value, and only if they
have no guard, and then they have read nothing.
-/

/-- How many guards there are. -/
def guards (c : Contention) : Nat :=
  c.workers.toList.countP fun w => w.phase.hasGuard

/-- How many additions are still to be written. -/
def owed (c : Contention) : Nat :=
  (c.workers.toList.map Worker.owed).sum

/-- **The flag counts the guards**, every worker is right about the value, and the value and what is
still to be added have a given sum. -/
structure Orderly (sum : Int) (c : Contention) : Prop where
  guards : c.guards = c.lock.held.toNat
  informed : ∀ w ∈ c.workers.toList, w.Informed c.lock
  balance : c.lock.value + c.owed = sum

section Steps

variable {c : Contention} {sum : Int}

/-- Whose turn it is stands among the others, and the turn changes the lock and him. -/
theorem step_cases (c : Contention) (turn : Turn) :
    (c.workers[turn.worker]? = none ∧ c.step turn = c) ∨ ∃ before w after,
      before.length = turn.worker ∧ c.workers.toList = before ++ w :: after ∧
      (c.step turn).lock = (workerStep c.lock turn.attempt w).1 ∧
      (c.step turn).workers.toList = before ++ (workerStep c.lock turn.attempt w).2 :: after := by
  unfold step
  split
  · next hnone => exact .inl ⟨hnone, rfl⟩
  next w hget =>
  rw [← Array.getElem?_toList] at hget
  obtain ⟨hlt, hget⟩ := List.getElem?_eq_some_iff.1 hget
  refine .inr ⟨c.workers.toList.take turn.worker, w, c.workers.toList.drop (turn.worker + 1),
    List.length_take_of_le (Nat.le_of_lt hlt), ?_, rfl, ?_⟩
  · rw [← hget, List.getElem_cons_drop, List.take_append_drop]
  · rw [Array.toList_setIfInBounds, List.set_eq_take_append_cons_drop, if_pos hlt]

/-- A turn changes nobody but whose turn it is. -/
theorem getElem?_step_of_ne (c : Contention) {turn : Turn} {i : Nat} (hi : i ≠ turn.worker) :
    (c.step turn).workers[i]? = c.workers[i]? := by
  unfold step
  split
  · rfl
  · exact Array.getElem?_setIfInBounds_ne hi.symm

/-- **A turn** keeps order. -/
theorem Orderly.step (h : c.Orderly sum) (turn : Turn) : (c.step turn).Orderly sum := by
  rcases c.step_cases turn with ⟨-, hsame⟩ | ⟨before, w, after, -, hworkers, hlock', hworkers'⟩
  · rwa [hsame]
  obtain ⟨hguards, hinformed, hbalance⟩ := h
  simp only [Contention.guards, Contention.owed, hworkers, List.countP_append, List.countP_cons,
    List.map_append, List.map_cons, List.sum_append, List.sum_cons] at hguards hinformed hbalance
  have hheld : w.phase.hasGuard = true → c.lock.held = true := by
    intro hguard
    rw [if_pos hguard] at hguards
    cases hflag : c.lock.held with
    | true => rfl
    | false =>
        rw [hflag, Bool.toNat_false] at hguards
        omega
  obtain ⟨hguard, hvalue, hmoved, hinformed'⟩ :=
    moved_workerStep (hinformed w (by simp)) hheld turn.attempt
  have hcount : ∀ w : Worker, (if w.phase.hasGuard = true then 1 else 0) = w.phase.hasGuard.toNat :=
    fun w => by cases w.phase.hasGuard <;> rfl
  constructor
  case guards =>
    rw [Contention.guards, hworkers', hlock', List.countP_append, List.countP_cons]
    simp only [hcount] at hguards ⊢
    omega
  case balance =>
    simp only [Contention.owed, hworkers', hlock', List.map_append, List.map_cons, List.sum_append,
      List.sum_cons]
    omega
  case informed =>
    -- The others have no guard where the value changes, so they have read nothing.
    have hothers : ∀ x ∈ before ++ after, x.Informed (workerStep c.lock turn.attempt w).1 := by
      intro x hx
      have hknown := hinformed x
        (List.mem_append.2 ((List.mem_append.1 hx).imp_right (List.mem_cons_of_mem w)))
      rcases hvalue with hsame | hown
      · exact ⟨hknown.1, fun value hphase => (hknown.2 value hphase).trans hsame.symm⟩
      · refine hknown.of_not_hasGuard ?_
        rw [if_pos hown, hheld hown, Bool.toNat_true] at hguards
        have hnone : (before ++ after).countP (fun w => w.phase.hasGuard) = 0 := by
          rw [List.countP_append]
          omega
        exact Bool.eq_false_iff.2 (List.countP_eq_zero.1 hnone x hx)
    rw [hworkers', hlock']
    intro x hx
    rcases List.mem_append.1 hx with hx | hx
    · exact hothers x (List.mem_append_left _ hx)
    · rcases List.mem_cons.1 hx with rfl | hx
      · exact hinformed'
      · exact hothers x (List.mem_append_right _ hx)

/-- **Any interleaving** keeps order. -/
theorem Orderly.run (h : c.Orderly sum) (turns : List Turn) : (c.run turns).Orderly sum := by
  induction turns generalizing c with
  | nil => exact h
  | cons turn rest ih => exact ih (h.step turn)

/-- Turns one after the other. -/
theorem run_append (c : Contention) (before rest : List Turn) :
    c.run (before ++ rest) = (c.run before).run rest :=
  List.foldl_append

/-- Nobody comes and nobody goes. -/
theorem size_run (c : Contention) (turns : List Turn) :
    (c.run turns).workers.size = c.workers.size := by
  induction turns generalizing c with
  | nil => rfl
  | cons turn rest ih =>
      refine (ih (c.step turn)).trans ?_
      unfold step
      split
      · rfl
      · exact Array.size_setIfInBounds

/-- Everybody is done if each has nothing left to add and is outside. -/
theorem finished_iff :
    c.finished = true ↔ ∀ w ∈ c.workers.toList, w.remaining = 0 ∧ w.phase = .idle := by
  rw [finished, Array.all_eq_true_iff_forall_mem]
  simp

/-- What is left to add is left to somebody. -/
theorem remaining_eq (c : Contention) :
    c.remaining = (c.workers.toList.map Worker.remaining).sum := by
  rw [remaining, ← Array.foldl_toList, List.sum_eq_foldl, List.foldl_map]

end Steps

end Contention

/-! ## Coming to an end

Every worker has a number of steps ahead of him, swaps that fail aside.  A round in which nobody
gets one step further is one in which everybody waits, and somebody who holds the lock does not.
-/

namespace Worker

/-- How many steps a worker still has to take, the swaps that fail aside. -/
def ahead (w : Worker) : Nat :=
  4 * w.remaining -
    match w.phase with
    | .idle | .spinning _ => 0
    | .holding => 1
    | .loaded _ => 2
    | .stored => 3

/-- Whether all that a worker can do is to wait. -/
def Waits (lock : Lock Int) (w : Worker) : Prop :=
  w.phase.hasGuard = false ∧ (w.remaining = 0 ∨ lock.held = true)

end Worker

namespace Contention

/-- A step of a worker is one ahead of him, or he waits. -/
theorem ahead_workerStep {lock : Lock Int} {w : Worker} (hinformed : w.Informed lock)
    (attempt : Attempt) :
    (workerStep lock attempt w).2.ahead < w.ahead ∨
      (workerStep lock attempt w).1 = lock ∧ (workerStep lock attempt w).2.ahead = w.ahead ∧
        (workerStep lock attempt w).2.Waits lock := by
  obtain ⟨held, yieldAfter, value⟩ := lock
  obtain ⟨remaining, phase⟩ := w
  obtain ⟨hbusy, -⟩ := hinformed
  cases phase with
  | idle =>
      by_cases hdone : remaining = 0
      · subst hdone
        exact .inr ⟨rfl, rfl, rfl, .inl rfl⟩
      · simp only [workerStep, hdone, if_false]
        cases held with
        | false => exact .inl (by cases attempt <;> simp [Lock.swap, Worker.ahead] <;> omega)
        | true => cases attempt <;> exact .inr ⟨rfl, rfl, rfl, .inr rfl⟩
  | spinning spin =>
      have hpos : 0 < remaining := hbusy (by simp)
      cases held with
      | false => exact .inl (by simp [workerStep, Lock.swap, Worker.ahead]; omega)
      | true => exact .inr ⟨rfl, rfl, rfl, .inr rfl⟩
  | _ =>
      have hpos : 0 < remaining := hbusy (by simp)
      exact .inl (by simp only [workerStep, Worker.ahead]; omega)

/-- How many steps there are still to take, the swaps that fail aside. -/
def ahead (c : Contention) : Nat :=
  (c.workers.toList.map Worker.ahead).sum

section Ending

variable {c : Contention} {sum : Int}

/-- A turn is a step ahead, or leaves the lock as it is and everybody as far as he was; then whose
turn it was waits. -/
theorem Orderly.ahead_step (h : c.Orderly sum) (turn : Turn) :
    (c.step turn).ahead < c.ahead ∨
      (c.step turn).lock = c.lock ∧ (c.step turn).ahead = c.ahead ∧
        ∀ w, (c.step turn).workers[turn.worker]? = some w → w.Waits c.lock := by
  rcases c.step_cases turn with
    ⟨hnone, hsame⟩ | ⟨before, w, after, hlength, hworkers, hlock', hworkers'⟩
  · rw [hsame, hnone]
    exact .inr ⟨rfl, rfl, nofun⟩
  have hself : (c.step turn).workers[turn.worker]? =
      some (workerStep c.lock turn.attempt w).2 := by
    rw [← Array.getElem?_toList, hworkers', ← hlength]
    simp
  have hinformed := h.informed w (by simp [hworkers])
  simp only [ahead, hworkers, hworkers', List.map_append, List.map_cons, List.sum_append,
    List.sum_cons]
  rcases ahead_workerStep hinformed turn.attempt with hless | ⟨hlock, hsame, hwaits⟩
  · exact .inl (by omega)
  · refine .inr ⟨hlock'.trans hlock, by omega, fun x hx => ?_⟩
    rw [hself] at hx
    exact Option.some.inj hx ▸ hwaits

/-- Where everybody waits, everybody is done: nobody waits for a lock that nobody holds. -/
theorem Orderly.finished_of_waits (h : c.Orderly sum)
    (hwaits : ∀ w ∈ c.workers.toList, w.Waits c.lock) : c.finished = true := by
  have hnone : c.guards = 0 :=
    List.countP_eq_zero.2 fun w hw => Bool.eq_false_iff.1 (hwaits w hw).1
  have hfree : c.lock.held = false := by
    have hguards := h.guards
    rw [hnone] at hguards
    cases hflag : c.lock.held with
    | false => rfl
    | true => simp [hflag] at hguards
  refine finished_iff.2 fun w hw => ?_
  obtain ⟨-, hdone | hheld⟩ := hwaits w hw
  · refine ⟨hdone, Decidable.byContradiction fun hbusy => ?_⟩
    exact Nat.ne_of_gt ((h.informed w hw).1 hbusy) hdone
  · rw [hfree] at hheld
    cases hheld

/-- As far as everybody has had his turn, there was a step ahead, or whoever had his turn waits. -/
theorem Orderly.ahead_turns (h : c.Orderly sum) (k : Nat) :
    let c' := c.run ((List.range k).map fun i => { worker := i })
    c'.ahead < c.ahead ∨ c'.lock = c.lock ∧ c'.ahead = c.ahead ∧
      ∀ i < k, ∀ w, c'.workers[i]? = some w → w.Waits c.lock := by
  induction k with
  | zero => exact .inr ⟨rfl, rfl, nofun⟩
  | succ k ih =>
      have hlast : ∀ c₁ : Contention,
          c₁.run ([k].map fun i => { worker := i }) = c₁.step { worker := k } := fun _ => rfl
      dsimp only at ih ⊢
      rw [List.range_succ, List.map_append, run_append, hlast]
      have hstep := (h.run ((List.range k).map fun i => { worker := i })).ahead_step { worker := k }
      generalize c.run ((List.range k).map fun i => { worker := i }) = c₁ at ih hstep
      rcases ih with hless | ⟨hlock, hsame, hwait⟩
      · exact .inl (by omega)
      rcases hstep with hless | ⟨hlock', hsame', hwait'⟩
      · exact .inl (by omega)
      refine .inr ⟨hlock'.trans hlock, hsame'.trans hsame, fun i hi w hw => ?_⟩
      rcases Nat.lt_succ_iff_lt_or_eq.1 hi with hi | rfl
      · -- The others are as they were before this turn.
        rw [c₁.getElem?_step_of_ne (Nat.ne_of_lt hi)] at hw
        exact hwait i hi w hw
      · exact hlock ▸ hwait' w hw

/-- **A round** is a step ahead, unless everybody is done after it. -/
theorem Orderly.ahead_round (h : c.Orderly sum) :
    c.round.ahead < c.ahead ∨ c.round.finished = true := by
  rcases h.ahead_turns c.workers.size with hless | ⟨hlock, -, hwaits⟩
  · exact .inl hless
  · refine .inr ((h.run _).finished_of_waits fun w hw => ?_)
    obtain ⟨i, hi, hget⟩ := List.getElem_of_mem hw
    rw [hlock]
    refine hwaits i ?_ w ?_
    · rw [← c.size_run]
      exact hi
    · rw [← hget]
      exact Array.getElem?_eq_getElem hi

/-- **Rounds come to an end**, after as many of them as there are steps to take at most. -/
theorem Orderly.finished_rounds (h : c.Orderly sum) {n : Nat} (hn : c.ahead < n) :
    (c.rounds n).finished = true := by
  induction n generalizing c with
  | zero => exact absurd hn (Nat.not_lt_zero _)
  | succ n ih =>
      rw [rounds]
      split
      · assumption
      rcases h.ahead_round with hless | hdone
      · exact ih (h.run _) (by omega)
      · cases n with
        | zero => exact hdone
        | succ n => rwa [rounds, if_pos hdone]

/-- Rounds are turns. -/
theorem exists_rounds_eq_run (c : Contention) (n : Nat) : ∃ turns, c.rounds n = c.run turns := by
  induction n generalizing c with
  | zero => exact ⟨[], rfl⟩
  | succ n ih =>
      rw [rounds]
      split
      · exact ⟨[], rfl⟩
      · obtain ⟨turns, hturns⟩ := ih c.round
        rw [hturns, round, ← run_append]
        exact ⟨_, rfl⟩

/-- **Everybody gets to the end** when all take turns. -/
theorem Orderly.finished_complete (h : c.Orderly sum) : c.complete.finished = true := by
  refine h.finished_rounds ?_
  have hle : ∀ ws : List Worker,
      (ws.map Worker.ahead).sum ≤ 4 * (ws.map Worker.remaining).sum := by
    intro ws
    induction ws with
    | nil => exact Nat.le_refl 0
    | cons w ws ih =>
        simp only [List.map_cons, List.sum_cons, Worker.ahead]
        omega
  have hahead := hle c.workers.toList
  rw [remaining_eq]
  exact Nat.lt_of_le_of_lt hahead (by omega)

end Ending

/-- At first nobody has a guard and the lock is free. -/
theorem orderly_start {c : Contention} (hfree : c.lock.held = false)
    (hidle : ∀ w ∈ c.workers, w.phase = .idle) : c.Orderly (c.lock.value + c.remaining) where
  guards := by
    rw [hfree]
    refine List.countP_eq_zero.2 fun w hw => ?_
    rw [hidle w (Array.mem_toList_iff.1 hw)]
    exact Bool.false_ne_true
  informed w hw := by
    have hphase := hidle w (Array.mem_toList_iff.1 hw)
    exact ⟨fun hbusy => absurd hphase hbusy, fun value hread => by cases hphase.symm.trans hread⟩
  balance := by
    have howed : c.workers.toList.map Worker.owed = c.workers.toList.map Worker.remaining := by
      refine List.map_congr_left fun w hw => ?_
      rw [Worker.owed, hidle w (Array.mem_toList_iff.1 hw)]
      rfl
    rw [remaining_eq, owed, howed]

/-- **A lock under contention** that is free at first, with any number of workers outside, each with
any number of additions to make, and any interleaving of their steps.

* There is at most one guard, and the flag of the lock is `true` exactly while there is one.
* Whoever has read the value and not yet written still has the value.  So what is still to be added
  makes up the difference between the value and what it will be, at any time.
* When everybody is done, the lock is free, and the value has grown by the number of all additions.
* Whatever happened, everybody can still get to be done. -/
theorem exclusion_of_run (c₀ : Contention) (turns : List Turn) (hfree : c₀.lock.held = false)
    (hidle : ∀ w ∈ c₀.workers, w.phase = .idle) :
    let c := c₀.run turns
    c.guards ≤ 1 ∧
    (c.lock.held = true ↔ ∃ w ∈ c.workers, w.phase.hasGuard = true) ∧
    (∀ w ∈ c.workers, ∀ value, w.phase = .loaded value → value = c.lock.value) ∧
    c.lock.value + c.owed = c₀.lock.value + c₀.remaining ∧
    (c.finished = true →
      c.lock.held = false ∧ c.lock.value = c₀.lock.value + c₀.remaining) ∧
    ∃ rest, (c.run rest).finished = true := by
  intro c
  have h : c.Orderly (c₀.lock.value + c₀.remaining) := (orderly_start hfree hidle).run turns
  have hguards : c.guards = c.lock.held.toNat := h.guards
  refine ⟨hguards ▸ Bool.toNat_le _, ?_, fun w hw => (h.informed w (Array.mem_toList_iff.2 hw)).2,
    h.balance, fun hdone => ?_, ?_⟩
  · have hpos : c.lock.held = true ↔ 0 < c.guards := by
      rw [hguards]
      cases c.lock.held <;> decide
    rw [hpos, guards, List.countP_pos_iff]
    simp only [Array.mem_toList_iff]
  · rw [finished_iff] at hdone
    have hnone : c.guards = 0 :=
      List.countP_eq_zero.2 fun w hw => by
        rw [(hdone w hw).2]
        exact Bool.false_ne_true
    have howed : c.owed = 0 := by
      refine List.sum_eq_zero_iff_forall_eq_nat.2 fun n hn => ?_
      obtain ⟨w, hw, rfl⟩ := List.mem_map.1 hn
      rw [Worker.owed, (hdone w hw).1]
      exact ite_self 0
    refine ⟨Bool.toNat_eq_zero.1 (hguards.symm.trans hnone), ?_⟩
    have hbalance := h.balance
    rw [howed] at hbalance
    exact (Int.add_zero _).symm.trans hbalance
  · obtain ⟨rest, hrest⟩ := c.exists_rounds_eq_run (4 * c.remaining + 4)
    exact ⟨rest, hrest ▸ h.finished_complete⟩

/-- Three workers who want the lock, one of them twice. -/
def crowd : Contention where
  lock := .withYieldAfter 40 1
  workers := #[{ remaining := 2 }, { remaining := 1 }, { remaining := 1 }]

/-- An interleaving of theirs.  The second swaps in vain while the first holds the guard, and the
third tries once and turns away. -/
def crowdTurns : List Turn :=
  [{ worker := 0 }, { worker := 1 }, { worker := 0 }, { worker := 2, attempt := .once },
    { worker := 1 }, { worker := 0 }, { worker := 0 }, { worker := 2, attempt := .once },
    { worker := 1 }, { worker := 2 }, { worker := 0 }, { worker := 2 }, { worker := 2 },
    { worker := 1 }, { worker := 1 }, { worker := 1 }, { worker := 1 }, { worker := 0 },
    { worker := 0 }, { worker := 0 }, { worker := 0 }]

/-- The crowd, in that interleaving: never two guards, and no addition lost. -/
theorem exclusion_of_crowdTurns :
    crowd.lock.held = false ∧ (∀ w ∈ crowd.workers, w.phase = .idle) ∧
    (∀ n, (crowd.run (crowdTurns.take n)).guards ≤ 1) ∧
    (crowd.run crowdTurns).finished = true ∧ (crowd.run crowdTurns).lock.held = false ∧
    (crowd.run crowdTurns).lock.value = 44 := by
  have hfree : crowd.lock.held = false := rfl
  have hidle : ∀ w ∈ crowd.workers, w.phase = .idle := by decide
  have hdone : (crowd.run crowdTurns).finished = true := by decide +kernel
  obtain ⟨-, -, -, -, hend, -⟩ := exclusion_of_run crowd crowdTurns hfree hidle
  exact ⟨hfree, hidle, fun n => (exclusion_of_run crowd (crowdTurns.take n) hfree hidle).1, hdone,
    (hend hdone).1, (hend hdone).2⟩

end Contention

end FaultChain

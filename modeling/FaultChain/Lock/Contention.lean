import FaultChain.Lock.Basic

/-!
# A lock under contention

Any number of workers add one to the value of a lock, each a number of times.  A worker acquires the
lock, reads the value, writes back one more, and frees the lock; each of these is a step of its own,
and so is each swap, failed or not.  Steps of different workers may come in any order: a *turn* says
whose step is next, and a list of turns is one interleaving.

A worker that is about to acquire the lock may do so for good, swapping until it succeeds, or try it
once and turn to something else when that fails; the turn says which.

### What a step is

A step is what one worker does between two moments at which another may come in: one swap of the
flag, one look at the value, one write of it, or freeing the lock.  Nothing is said about how long a
step takes or who comes next.  A value that was read is kept by the worker, so between reading and
writing the value of the lock might change under him; that it does not is not built in here.
-/

namespace FaultChain

/-- Where a worker is.  In between he remembers what he needs for the next step: what he has counted
while waiting, and what he has read. -/
inductive Phase
  /-- Outside. -/
  | idle
  /-- Between two swaps. -/
  | spinning (spin : Spin)
  /-- With the guard, before the value was read. -/
  | holding
  /-- With the guard and the value that was read. -/
  | loaded (value : Int)
  /-- With the guard, after the value was written. -/
  | stored
  deriving DecidableEq, Repr

/-- Whether a worker in a phase has the guard. -/
def Phase.hasGuard : Phase → Bool
  | idle | spinning _ => false
  | holding | loaded _ | stored => true

/-- A worker, and how often it is still to add one. -/
structure Worker where
  remaining : Nat
  phase : Phase := .idle
  deriving DecidableEq, Repr

/-- How an idle worker goes for the lock. -/
inductive Attempt
  | untilAcquired
  | once
  deriving DecidableEq, Repr

/-- A lock and those who want it. -/
structure Contention where
  lock : Lock Int
  workers : Array Worker
  deriving DecidableEq, Repr

/-- Whose step is next. -/
structure Turn where
  worker : Nat
  attempt : Attempt := .untilAcquired
  deriving DecidableEq, Repr

namespace Contention

/-- Some workers, each of which is to add one a number of times. -/
def start (lock : Lock Int) (workers times : Nat) : Contention where
  lock := lock
  workers := Array.replicate workers { remaining := times }

/-- A step of one worker: the lock and the worker after it.  A worker who is done does nothing, and
a swap that fails writes the flag all the same. -/
def workerStep (lock : Lock Int) (attempt : Attempt) (w : Worker) : Lock Int × Worker :=
  match w.phase with
  | .idle =>
    if w.remaining = 0 then (lock, w)
    else
      match lock.swap, attempt with
      | (lock, true), _ => (lock, { w with phase := .holding })
      | (lock, false), .untilAcquired =>
        (lock, { w with phase := .spinning (Spin.fail lock.yieldAfter {}) })
      | (lock, false), .once => (lock, w)
  | .spinning spin =>
    match lock.swap with
    | (lock, true) => (lock, { w with phase := .holding })
    | (lock, false) => (lock, { w with phase := .spinning (spin.fail lock.yieldAfter) })
  | .holding => (lock, { w with phase := .loaded lock.value })
  | .loaded value => (lock.set (value + 1), { w with phase := .stored })
  | .stored => (lock.unlock, { remaining := w.remaining - 1, phase := .idle })

/-- One turn; nothing happens if there is no such worker. -/
def step (c : Contention) (turn : Turn) : Contention :=
  match c.workers[turn.worker]? with
  | none => c
  | some w =>
    let (lock, w) := workerStep c.lock turn.attempt w
    { lock, workers := c.workers.setIfInBounds turn.worker w }

/-- An interleaving. -/
def run (c : Contention) (turns : List Turn) : Contention :=
  turns.foldl step c

/-- Whether every worker is done. -/
def finished (c : Contention) : Bool :=
  c.workers.all fun w => w.remaining == 0 && w.phase == .idle

/-- How often the workers are still to add one. -/
def remaining (c : Contention) : Nat :=
  c.workers.foldl (fun n w => n + w.remaining) 0

/-- One turn for each worker. -/
def round (c : Contention) : Contention :=
  c.run ((List.range c.workers.size).map fun i => { worker := i })

/-- Rounds until every worker is done, as many as given at most. -/
def rounds (c : Contention) : Nat → Contention
  | 0 => c
  | n + 1 => if c.finished then c else c.round.rounds n

/-- Every worker takes turns until all are done.  Within four rounds somebody adds one, so there is
a bound on the number of rounds. -/
def complete (c : Contention) : Contention :=
  c.rounds (4 * c.remaining + 4)

end Contention

end FaultChain

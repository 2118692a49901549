/-!
# JobPool: a bounded number of jobs at once

A pool has a fixed number of workers. Jobs get a worker in the order in which they were submitted,
as workers get free; a job gives its worker back when it ends, however it ends. The pool never runs
more jobs than it has workers (`Bounded`).
-/

namespace DebugLink

/-- A pool and the jobs that have not ended, first submitted first. `running` jobs have a worker;
`waiting` jobs have none. -/
structure JobPool (Job : Type) where
  size : Nat
  running : List Job := []
  waiting : List Job := []
  deriving Repr

namespace JobPool

/-- The most workers that a pool can have. -/
def limit : Nat := UInt64.size / 8 - 1

variable {Job : Type}

/-- The number of idle workers. -/
def available (pool : JobPool Job) : Nat :=
  pool.size - pool.running.length

/-- Gives idle workers to the jobs that have waited longest. -/
def fill (pool : JobPool Job) : JobPool Job :=
  { pool with
    running := pool.running ++ pool.waiting.take pool.available
    waiting := pool.waiting.drop pool.available }

/-- Adds a job at the end of the queue. -/
def submit (pool : JobPool Job) (job : Job) : JobPool Job :=
  fill { pool with waiting := pool.waiting ++ [job] }

/-- Ends the first running job that fits and gives its worker on. A job that has no worker cannot
end. -/
def finish (pool : JobPool Job) (fits : Job → Bool) : Option Job × JobPool Job :=
  (pool.running.find? fits, fill { pool with running := pool.running.eraseP fits })

/-- No more jobs run than there are workers. -/
def Bounded (pool : JobPool Job) : Prop :=
  pool.running.length ≤ pool.size

/-- Where jobs only end there are still no more. -/
theorem Bounded.eraseP {pool : JobPool Job} (bounded : pool.Bounded) (fits : Job → Bool) :
    Bounded { pool with running := pool.running.eraseP fits } :=
  Nat.le_trans List.length_eraseP_le bounded

end JobPool

end DebugLink

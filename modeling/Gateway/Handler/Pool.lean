/-! # Worker pool

Handlers run on a pool with a fixed number of places. The pool refuses jobs once it is closed, and a
job that breaks off does not take its place with it.
-/

namespace Gateway

/-- A pool for running jobs. -/
structure Pool where
  /-- How many jobs may run at once. -/
  size : Nat
  closed : Bool
deriving DecidableEq, Repr, Inhabited

/-- Why a job has no result. -/
inductive PoolError where
  | closed
  /-- The job broke off. -/
  | broken
deriving DecidableEq, Repr

def PoolError.message : PoolError → String
  | .closed => "Worker pool closed"
  | .broken => "Worker job failed"

namespace Pool

/-- A pool with at least one place. -/
def ofSize (size : Nat) : Pool := ⟨max size 1, false⟩

def close (pool : Pool) : Pool := { pool with closed := true }

/-- How many places are free while no job is running. -/
def available (pool : Pool) : Nat := pool.size

/-- The result of a job that changes a state; a job without a result broke off. -/
def run (pool : Pool) (job : σ → Option α × σ) (state : σ) : Except PoolError α × σ :=
  if pool.closed then (.error .closed, state)
  else
    match job state with
    | (some result, state) => (.ok result, state)
    | (none, state) => (.error .broken, state)

end Pool

end Gateway

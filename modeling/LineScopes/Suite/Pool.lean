import LineScopes.Suite.Report

/-!
# Workers that share a suite

Several workers take cases from a common counter, run them and put their
reports on a common list, each at its own pace. A schedule says which worker
makes the next step. The reports are put in the order of the suite when all
workers are done. If the program dies in a case, it dies with all workers.
-/

namespace LineScopes.Suite

inductive Worker
  | idle
  | running (index : Nat) (case : TestCase)
  | reporting (report : CaseReport)
  | stopped
  deriving DecidableEq

structure Pool where
  /-- The index of the next case. -/
  next : Nat := 0
  /-- No more cases are to be run. -/
  stopped : Bool := false
  reports : List CaseReport := []
  workers : List Worker

namespace Pool

def ofSize (workers : Nat) : Pool := { workers := List.replicate workers .idle }

def isDone (pool : Pool) : Bool := pool.workers.all (· = .stopped)

/-- One step of a worker: to take a case, to run it, or to hand in its report. -/
def step (suite : Suite) (runner : Runner ρ) (pool : Pool) (worker : Nat) : Except Crash Pool :=
  match pool.workers[worker]? with
  | some .idle =>
    let state := match suite.cases[pool.next]? with
      | some case => .running pool.next case
      | none => .stopped
    return { pool with next := pool.next + 1, workers := pool.workers.set worker state }
  | some (.running index case) => do
    let report ← suite.runCase runner pool.stopped index case
    return { pool with
      stopped := pool.stopped || runner.stopsAfter report
      workers := pool.workers.set worker (.reporting report) }
  | some (.reporting report) =>
    return { pool with
      reports := pool.reports ++ [report], workers := pool.workers.set worker .idle }
  | some .stopped | none => return pool

def run (suite : Suite) (runner : Runner ρ) (pool : Pool) (schedule : List Nat) :
    Except Crash Pool :=
  schedule.foldlM (step suite runner) pool

def inOrder (pool : Pool) : List CaseReport := pool.reports.mergeSort fun a b => a.index ≤ b.index

end Pool

/-- All workers in turn, until they have stopped in any case. It stands for the schedule of the
machine, which may be any other; without `failFast` the reports do not depend on it. -/
def inTurn (suite : Suite) (workers : Nat) : List Nat :=
  (List.replicate (3 * suite.cases.length + 1) (List.range workers)).flatten

def runParallel (suite : Suite) (runner : Runner ρ) : Except Crash (List CaseReport) := do
  let workers := min runner.workers (max suite.cases.length 1)
  let pool ← Pool.run suite runner (.ofSize workers) (suite.inTurn workers)
  return pool.inOrder

def run (suite : Suite) (runner : Runner ρ) : Except Crash SuiteReport :=
  .mk <$> if runner.config.parallel then suite.runParallel runner else suite.runSequential runner

end LineScopes.Suite

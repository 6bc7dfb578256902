import LineScopes.RunConfig
import LineScopes.Suite.Resolution

/-!
# Running suites

Every case is reported, in the order of the suite. A case that fails does not
touch the others, unless a run is to stop there; then the rest is skipped. If
the program dies in a case, there is no report at all.
-/

namespace LineScopes

inductive Outcome
  | passed
  | failed (cause : CaseError)
  | skipped
  deriving DecidableEq, Repr

namespace Outcome

def isPassed : Outcome → Bool
  | passed => true
  | _ => false

def isFailed : Outcome → Bool
  | failed _ => true
  | _ => false

def isSkipped : Outcome → Bool
  | skipped => true
  | _ => false

/-- What is reported of a case, unless the program dies in it. -/
def ofResult : Except (Halt CaseError) Unit → Except Crash Outcome
  | .ok () => .ok passed
  | .error (.error cause) => .ok (failed cause)
  | .error (.crash cause) => .error cause

end Outcome

structure CaseReport where
  index : Nat
  desc : String
  outcome : Outcome
  deriving DecidableEq, Repr

namespace CaseReport

def message? (report : CaseReport) : Option String :=
  match report.outcome with
  | .failed cause => some cause.message
  | _ => none

def text (report : CaseReport) : String :=
  match report.outcome with
  | .passed => "ok      " ++ report.desc ++ "\n"
  | .skipped => "skip    " ++ report.desc ++ "\n"
  | .failed cause => "FAILED  " ++ report.desc ++ "\n        " ++ cause.message ++ "\n"

end CaseReport

structure SuiteReport where
  cases : List CaseReport
  deriving DecidableEq, Repr

namespace SuiteReport

def passed (report : SuiteReport) : Nat := report.cases.countP (·.outcome.isPassed)

def failed (report : SuiteReport) : Nat := report.cases.countP (·.outcome.isFailed)

def skipped (report : SuiteReport) : Nat := report.cases.countP (·.outcome.isSkipped)

def isSuccess (report : SuiteReport) : Bool := report.failed = 0

def failures (report : SuiteReport) : List CaseReport :=
  report.cases.filter (·.outcome.isFailed)

def text (report : SuiteReport) : String :=
  String.join (report.cases.map CaseReport.text) ++ toString report.passed ++ " passed, " ++
    toString report.failed ++ " failed, " ++ toString report.skipped ++ " skipped"

end SuiteReport

namespace Suite

/-- What running a suite depends on. -/
structure Runner (ρ : Type) where
  engine : Engine ρ
  /-- How many texts of captures within one another the stack of the program holds. -/
  maxNesting : Nat
  files : FileSystem
  /-- How many workers the machine has room for. -/
  workers : Nat
  workers_pos : 0 < workers
  config : RunConfig

/-- Runs a case, unless the run has stopped or it is left out. -/
def outcome (suite : Suite) (runner : Runner ρ) (stopped : Bool) (case : TestCase) :
    Except Crash Outcome :=
  if stopped ∨ case.skip ∨ ¬ runner.config.selects case.desc then .ok .skipped
  else Outcome.ofResult (case.run runner.engine runner.maxNesting runner.files suite.baseDir)

def runCase (suite : Suite) (runner : Runner ρ) (stopped : Bool) (index : Nat)
    (case : TestCase) : Except Crash CaseReport := do
  let outcome ← suite.outcome runner stopped case
  return { index, desc := case.label index, outcome }

/-- Whether a run stops after a report. -/
def Runner.stopsAfter (runner : Runner ρ) (report : CaseReport) : Bool :=
  runner.config.failFast && report.outcome.isFailed

/-- Runs cases one after the other, counting from `index` on. -/
def runFrom (suite : Suite) (runner : Runner ρ) (stopped : Bool) (index : Nat) :
    List TestCase → Except Crash (List CaseReport)
  | [] => return []
  | case :: rest => do
    let report ← suite.runCase runner stopped index case
    let reports ← suite.runFrom runner (stopped || runner.stopsAfter report) (index + 1) rest
    return report :: reports

def runSequential (suite : Suite) (runner : Runner ρ) : Except Crash (List CaseReport) :=
  suite.runFrom runner false 0 suite.cases

end Suite

end LineScopes

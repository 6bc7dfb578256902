import LineScopes.Proofs.Computation
import LineScopes.Suite.Report
import Mathlib.Data.List.Basic

/-!
# Runs of a suite

A run comes to one report for each case, in their order, unless the program
dies in a case that the run reaches. A run that does not stop reports each case
on its own; one that stops at a failure still tells that there is one.
-/

namespace LineScopes

/-- The report of a case that is left out. -/
def CaseReport.leftOut (report : CaseReport) : CaseReport := { report with outcome := .skipped }

namespace Suite

variable {suite : Suite} {runner : Runner ρ} {case : TestCase} {cases : List TestCase}
  {stopped : Bool}

-- ---------------------------------------------------------------------------
-- Cases
-- ---------------------------------------------------------------------------

/-- The case is selected, is not to be skipped, and comes to this. -/
def ComesTo (suite : Suite) (runner : Runner ρ) (case : TestCase)
    (result : Except (Halt CaseError) Unit) : Prop :=
  case.skip = false ∧ runner.config.selects case.desc ∧
    case.run runner.engine runner.maxNesting runner.files suite.baseDir = result

theorem ofResult_eq_error_iff {result : Except (Halt CaseError) Unit} :
    Outcome.ofResult result = .error crash ↔ result = .error (.crash crash) := by
  rcases result with (_ | _) | _ <;> simp [Outcome.ofResult]

theorem ofResult_eq_failed_iff {result : Except (Halt CaseError) Unit} :
    Outcome.ofResult result = .ok (.failed cause) ↔ result = .error (.error cause) := by
  rcases result with (_ | _) | _ <;> simp [Outcome.ofResult]

theorem outcome_eq_iff {outcome : Except Crash Outcome} (h : outcome ≠ .ok .skipped) :
    suite.outcome runner false case = outcome ↔
      ∃ result, suite.ComesTo runner case result ∧ Outcome.ofResult result = outcome := by
  unfold Suite.outcome
  split
  · next hskipped =>
    refine ⟨fun houtcome => absurd houtcome.symm h, fun ⟨_, ⟨hskip, hselects, _⟩, _⟩ => ?_⟩
    simp [hskip, hselects] at hskipped
  · next hruns =>
    have hselected : case.skip = false ∧ runner.config.selects case.desc := by simpa using hruns
    constructor
    · exact fun houtcome => ⟨_, ⟨hselected.1, hselected.2, rfl⟩, houtcome⟩
    · rintro ⟨_, ⟨_, _, rfl⟩, houtcome⟩
      exact houtcome

theorem outcome_eq_error_iff :
    suite.outcome runner false case = .error crash ↔
      suite.ComesTo runner case (.error (.crash crash)) := by
  simp [outcome_eq_iff, ofResult_eq_error_iff]

theorem outcome_eq_failed_iff :
    suite.outcome runner false case = .ok (.failed cause) ↔
      suite.ComesTo runner case (.error (.error cause)) := by
  simp [outcome_eq_iff, ofResult_eq_failed_iff]

theorem runCase_eq_ok_iff {report : CaseReport} :
    suite.runCase runner stopped index case = .ok report ↔
      suite.outcome runner stopped case = .ok report.outcome ∧
        report.index = index ∧ report.desc = case.label index := by
  refine bind_ok.trans ⟨?_, fun ⟨houtcome, hindex, hdesc⟩ => ⟨_, houtcome, ?_⟩⟩
  · rintro ⟨outcome, houtcome, ⟨⟩⟩
    exact ⟨houtcome, rfl, rfl⟩
  · rw [← hdesc, ← hindex]
    rfl

theorem runCase_eq_error_iff :
    suite.runCase runner stopped index case = .error crash ↔
      suite.outcome runner stopped case = .error crash := by
  unfold runCase
  cases suite.outcome runner stopped case with
  | ok => exact ⟨nofun, nofun⟩
  | error => rw [error_bind, Except.error.injEq, Except.error.injEq]

theorem isFailed_of_runCase {report : CaseReport}
    (h : suite.runCase runner false index case = .ok report) :
    report.outcome.isFailed ↔ ∃ cause, suite.ComesTo runner case (.error (.error cause)) := by
  obtain ⟨houtcome, -⟩ := runCase_eq_ok_iff.mp h
  simp only [← outcome_eq_failed_iff, houtcome, Except.ok.injEq]
  cases report.outcome <;> simp [Outcome.isFailed]

-- ---------------------------------------------------------------------------
-- Lists of cases
-- ---------------------------------------------------------------------------

theorem stopsAfter_eq_false (hfailFast : runner.config.failFast = false) (report : CaseReport) :
    runner.stopsAfter report = false := by
  rw [Runner.stopsAfter, hfailFast, Bool.false_and]

theorem runFrom_cons_of_ok (h : suite.runCase runner stopped first case = .ok report)
    (rest : List TestCase) :
    suite.runFrom runner stopped first (case :: rest) =
      (suite.runFrom runner (stopped || runner.stopsAfter report) (first + 1) rest).map
        (report :: ·) := by
  rw [runFrom, h, ok_bind]
  rfl

theorem runFrom_cons_of_error (h : suite.runCase runner stopped first case = .error crash)
    (rest : List TestCase) :
    suite.runFrom runner stopped first (case :: rest) = .error crash := by
  rw [runFrom, h, error_bind]

theorem runFrom_cons_eq_ok_iff :
    suite.runFrom runner stopped first (case :: rest) = .ok reports ↔
      ∃ report others, suite.runCase runner stopped first case = .ok report ∧
        suite.runFrom runner (stopped || runner.stopsAfter report) (first + 1) rest = .ok others ∧
        reports = report :: others := by
  rw [runFrom, bind_ok]
  simp only [bind_ok]
  constructor
  · rintro ⟨report, hreport, others, hothers, ⟨⟩⟩
    exact ⟨report, others, hreport, hothers, rfl⟩
  · rintro ⟨report, others, hreport, hothers, rfl⟩
    exact ⟨report, hreport, others, hothers, rfl⟩

theorem runFrom_stopped (runner : Runner ρ) (first : Nat) (cases : List TestCase) :
    suite.runFrom runner true first cases =
      .ok (cases.mapIdx fun i case => ⟨first + i, case.label (first + i), .skipped⟩) := by
  induction cases generalizing first with
  | nil => rfl
  | cons case rest ih =>
    have hreport : suite.runCase runner true first case =
        .ok ⟨first, case.label first, .skipped⟩ := rfl
    rw [runFrom_cons_of_ok hreport, Bool.true_or, ih, List.mapIdx_cons]
    simp only [Nat.add_assoc, Nat.add_comm 1]
    rfl

theorem map_leftOut_runFrom (h : suite.runFrom runner stopped first cases = .ok reports) :
    reports.map CaseReport.leftOut =
      cases.mapIdx fun i case => ⟨first + i, case.label (first + i), .skipped⟩ := by
  induction cases generalizing stopped first reports with
  | nil =>
    obtain rfl := Except.ok.inj h
    rfl
  | cons case rest ih =>
    obtain ⟨report, others, hreport, hothers, rfl⟩ := runFrom_cons_eq_ok_iff.mp h
    obtain ⟨-, hindex, hdesc⟩ := runCase_eq_ok_iff.mp hreport
    rw [List.map_cons, ih hothers, List.mapIdx_cons, CaseReport.leftOut, hindex, hdesc]
    simp only [Nat.add_assoc, Nat.add_comm 1, Nat.add_zero]

theorem length_runSequential (h : suite.runSequential runner = .ok reports) :
    reports.length = suite.cases.length := by
  simpa using congrArg List.length (map_leftOut_runFrom h)

theorem map_index_runSequential (h : suite.runSequential runner = .ok reports) :
    reports.map (·.index) = List.range suite.cases.length := by
  have hindices := congrArg (List.map CaseReport.index) (map_leftOut_runFrom h)
  rw [List.map_map] at hindices
  exact hindices.trans (List.ext_getElem (by simp) (by simp))

theorem map_desc_runSequential (h : suite.runSequential runner = .ok reports) :
    reports.map (·.desc) = suite.cases.mapIdx fun i case => case.label i := by
  have hdescs := congrArg (List.map CaseReport.desc) (map_leftOut_runFrom h)
  rw [List.map_map] at hdescs
  exact hdescs.trans (List.ext_getElem (by simp) (by simp))

-- ---------------------------------------------------------------------------
-- Runs that do not stop
-- ---------------------------------------------------------------------------

/-- The report of each case on its own. -/
def reports? (suite : Suite) (runner : Runner ρ) : List (Option CaseReport) :=
  suite.cases.mapIdx fun i case => (suite.runCase runner false i case).toOption

theorem runFrom_eq_ok_iff (hfailFast : runner.config.failFast = false) :
    suite.runFrom runner false first cases = .ok reports ↔
      cases.mapIdx (fun i case => (suite.runCase runner false (first + i) case).toOption) =
        reports.map some := by
  induction cases generalizing first reports with
  | nil =>
    constructor
    · rintro ⟨⟩
      rfl
    · intro h
      rw [List.map_eq_nil_iff.mp h.symm]
      rfl
  | cons case rest ih =>
    rw [runFrom_cons_eq_ok_iff]
    simp only [stopsAfter_eq_false hfailFast, Bool.or_false, ih, List.mapIdx_cons, Nat.add_zero,
      Nat.add_assoc, Nat.add_comm 1]
    constructor
    · rintro ⟨report, others, hreport, hothers, rfl⟩
      rw [toOption_eq_some.mpr hreport, hothers, List.map_cons]
    · intro h
      obtain ⟨report, others, rfl, hreport, hothers⟩ := List.map_eq_cons_iff.mp h.symm
      exact ⟨report, others, toOption_eq_some.mp hreport.symm, hothers.symm, rfl⟩

theorem runSequential_eq_ok_iff (hfailFast : runner.config.failFast = false) :
    suite.runSequential runner = .ok reports ↔ suite.reports? runner = reports.map some := by
  rw [runSequential, runFrom_eq_ok_iff hfailFast]
  simp only [Nat.zero_add]
  rfl

-- ---------------------------------------------------------------------------
-- Failures and crashes
-- ---------------------------------------------------------------------------

/-- A case of the suite is selected, is not to be skipped, and fails. -/
def Fails (suite : Suite) (runner : Runner ρ) : Prop :=
  ∃ case ∈ suite.cases, ∃ cause, suite.ComesTo runner case (.error (.error cause))

/-- The program dies in one of the cases, before a failure at which the run stops. -/
inductive DiesAmong (suite : Suite) (runner : Runner ρ) : List TestCase → Prop
  | here {case rest crash} : suite.ComesTo runner case (.error (.crash crash)) →
      DiesAmong suite runner (case :: rest)
  | later {case rest} :
      (runner.config.failFast → ¬ ∃ cause, suite.ComesTo runner case (.error (.error cause))) →
      DiesAmong suite runner rest → DiesAmong suite runner (case :: rest)

def Dies (suite : Suite) (runner : Runner ρ) : Prop := suite.DiesAmong runner suite.cases

/-- Whether or not a run stops at the first failure, it tells whether there is one. -/
theorem exists_isFailed_iff (h : suite.runFrom runner false first cases = .ok reports) :
    (∃ report ∈ reports, report.outcome.isFailed) ↔
      ∃ case ∈ cases, ∃ cause, suite.ComesTo runner case (.error (.error cause)) := by
  induction cases generalizing first reports with
  | nil =>
    obtain rfl := Except.ok.inj h
    simp
  | cons case rest ih =>
    obtain ⟨report, others, hreport, hothers, rfl⟩ := runFrom_cons_eq_ok_iff.mp h
    rw [List.exists_mem_cons_iff, List.exists_mem_cons_iff, ← isFailed_of_runCase hreport]
    by_cases hstops : runner.stopsAfter report
    · have hfailed : report.outcome.isFailed := (Bool.and_eq_true_iff.mp hstops).2
      simp [hfailed]
    · rw [Bool.not_eq_true] at hstops
      rw [hstops, Bool.or_false] at hothers
      rw [ih hothers]

theorem exists_runFrom_eq_error_iff :
    (∃ crash, suite.runFrom runner false first cases = .error crash) ↔
      suite.DiesAmong runner cases := by
  induction cases generalizing first with
  | nil => exact ⟨nofun, nofun⟩
  | cons case rest ih =>
    cases hreport : suite.runCase runner false first case with
    | error crash =>
      rw [runFrom_cons_of_error hreport]
      have hcase := outcome_eq_error_iff.mp (runCase_eq_error_iff.mp hreport)
      exact ⟨fun _ => .here hcase, fun _ => ⟨crash, rfl⟩⟩
    | ok report =>
      have hgoes : runner.stopsAfter report = false ↔ (runner.config.failFast →
          ¬ ∃ cause, suite.ComesTo runner case (.error (.error cause))) := by
        rw [← isFailed_of_runCase hreport, Runner.stopsAfter]
        simp
      have hlives : ∀ crash, ¬ suite.ComesTo runner case (.error (.crash crash)) := by
        intro crash hcase
        rw [runCase_eq_error_iff.mpr (outcome_eq_error_iff.mpr hcase)] at hreport
        cases hreport
      rw [runFrom_cons_of_ok hreport, Bool.false_or]
      constructor
      · rintro ⟨crash, hcrash⟩
        cases hstops : runner.stopsAfter report with
        | true =>
          rw [hstops, runFrom_stopped] at hcrash
          cases hcrash
        | false =>
          rw [hstops] at hcrash
          exact .later (hgoes.mp hstops) (ih.mp ⟨crash, map_eq_error_iff.mp hcrash⟩)
      · intro h
        cases h with
        | here hcase => exact absurd hcase (hlives _)
        | later hrest hdies =>
          rw [hgoes.mpr hrest]
          exact (ih.mpr hdies).imp fun _ => map_eq_error_iff.mpr

end Suite

end LineScopes

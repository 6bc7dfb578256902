import LineScopes.Proofs.CaptureTables
import LineScopes.Proofs.Workers

/-!
# Runs that stop at the first failure

Up to and including the first failure, a run that stops there comes to the same
as one that does not. The cases after it are left out, whatever they would have
come to. A case that is skipped anyway neither stops a run nor lets it go on.
-/

namespace LineScopes

-- ---------------------------------------------------------------------------
-- Up to the first one
-- ---------------------------------------------------------------------------

/-- What comes up to the first one with a property, that one included, and the rest. Where there is
no such one, everything is reached. -/
inductive UpToFirst (P : α → Prop) : (all reached rest : List α) → Prop
  | never {xs} : (∀ x ∈ xs, ¬ P x) → UpToFirst P xs xs []
  | first {before x rest} : (∀ y ∈ before, ¬ P y) → P x →
      UpToFirst P (before ++ x :: rest) (before ++ [x]) rest

namespace UpToFirst

variable {P : α → Prop} {x : α} {all reached rest : List α}

theorem head (h : P x) (rest : List α) : UpToFirst P (x :: rest) [x] rest := by
  have hfirst : UpToFirst P ([] ++ x :: rest) ([] ++ [x]) rest := .first nofun h
  exact hfirst

theorem cons (hx : ¬ P x) (h : UpToFirst P all reached rest) :
    UpToFirst P (x :: all) (x :: reached) rest := by
  cases h with
  | never hnone => exact .never (List.forall_mem_cons.mpr ⟨hx, hnone⟩)
  | @first before y rest hbefore hy =>
    have hfirst : UpToFirst P (x :: before ++ y :: rest) (x :: before ++ [y]) rest :=
      .first (List.forall_mem_cons.mpr ⟨hx, hbefore⟩) hy
    exact hfirst

theorem congr {Q : α → Prop} (h : UpToFirst P all reached rest)
    (hsame : ∀ x ∈ reached, (P x ↔ Q x)) : UpToFirst Q all reached rest := by
  cases h with
  | never hnone => exact .never fun x hx => (hsame x hx).not.mp (hnone x hx)
  | @first before x rest hbefore hx =>
    refine .first (fun y hy => ?_) ((hsame x ?_).mp hx)
    · exact (hsame y (List.mem_append_left _ hy)).not.mp (hbefore y hy)
    · exact List.mem_append_right _ (List.mem_singleton_self x)

theorem forall_mem_iff (h : UpToFirst P all reached rest) :
    (∀ x ∈ reached, ¬ P x) ↔ ∀ x ∈ all, ¬ P x := by
  cases h with
  | never => rfl
  | @first before x rest hbefore hx =>
    have hreached : x ∈ before ++ [x] := List.mem_append_right _ (List.mem_singleton_self x)
    have hall : x ∈ before ++ x :: rest := List.mem_append_right _ List.mem_cons_self
    exact ⟨fun hnone => absurd hx (hnone x hreached), fun hnone => absurd hx (hnone x hall)⟩

theorem all_or_exists_first (h : UpToFirst P all reached rest) :
    ((∀ x ∈ all, ¬ P x) ∧ reached = all ∧ rest = []) ∨
      ∃ before x, all = before ++ x :: rest ∧ (∀ y ∈ before, ¬ P y) ∧ P x ∧
        reached = before ++ [x] := by
  cases h with
  | never hnone => exact .inl ⟨hnone, rfl, rfl⟩
  | first hbefore hx => exact .inr ⟨_, _, rfl, hbefore, hx, rfl⟩

theorem countP_le_one {p : α → Bool} (h : UpToFirst (p · = true) all reached rest) :
    reached.countP p ≤ 1 := by
  cases h with
  | never hnone =>
    rw [List.countP_eq_zero.mpr hnone]
    exact Nat.zero_le 1
  | @first before x rest hbefore =>
    rw [List.countP_append, List.countP_eq_zero.mpr hbefore, Nat.zero_add]
    exact List.countP_le_length

end UpToFirst

-- ---------------------------------------------------------------------------
-- Reports
-- ---------------------------------------------------------------------------

namespace SuiteReport

variable {full cut : SuiteReport}

theorem isSuccess_iff {report : SuiteReport} :
    report.isSuccess ↔ ∀ case ∈ report.cases, ¬ case.outcome.isFailed := by
  rw [isSuccess, decide_eq_true_iff, failed, List.countP_eq_zero]

theorem isSuccess_eq_false_iff {report : SuiteReport} :
    report.isSuccess = false ↔ ∃ case ∈ report.cases, case.outcome.isFailed := by
  rw [← Bool.not_eq_true, isSuccess_iff]
  simp

theorem counts_eq (report : SuiteReport) :
    report.passed + report.failed + report.skipped = report.cases.length := by
  unfold passed failed skipped
  induction report.cases with
  | nil => rfl
  | cons case rest ih =>
    have hone : (if case.outcome.isPassed then 1 else 0) +
        (if case.outcome.isFailed then 1 else 0) +
        (if case.outcome.isSkipped then 1 else 0) = 1 := by
      cases case.outcome <;> rfl
    simp only [List.countP_cons, List.length_cons]
    omega

/-- The reports are the same up to and including the first failure, and after it there are none but
of cases that are left out. -/
def CutAtFailure (full cut : SuiteReport) : Prop :=
  ∃ reached rest, UpToFirst (·.outcome.isFailed) full.cases reached rest ∧
    cut.cases = reached ++ rest.map CaseReport.leftOut

namespace CutAtFailure

theorem not_isFailed_leftOut {reports : List CaseReport} :
    ∀ case ∈ reports.map CaseReport.leftOut, ¬ case.outcome.isFailed := by
  rw [List.forall_mem_map]
  exact fun _ _ => nofun

theorem failed_le_one (h : full.CutAtFailure cut) : cut.failed ≤ 1 := by
  obtain ⟨reached, rest, hreached, hcut⟩ := h
  rw [failed, hcut, List.countP_append, List.countP_eq_zero.mpr not_isFailed_leftOut]
  exact hreached.countP_le_one

theorem isSuccess_eq (h : full.CutAtFailure cut) : cut.isSuccess = full.isSuccess := by
  obtain ⟨reached, rest, hreached, hcut⟩ := h
  rw [Bool.eq_iff_iff, isSuccess_iff, isSuccess_iff, ← hreached.forall_mem_iff, hcut,
    List.forall_mem_append]
  exact and_iff_left not_isFailed_leftOut

theorem eq_or_exists_first (h : full.CutAtFailure cut) :
    (full.isSuccess ∧ cut = full) ∨
      ∃ before failing rest, full.cases = before ++ failing :: rest ∧
        (∀ case ∈ before, ¬ case.outcome.isFailed) ∧ failing.outcome.isFailed ∧
        cut.cases = before ++ failing :: rest.map CaseReport.leftOut := by
  obtain ⟨reached, rest, hreached, hcut⟩ := h
  rcases hreached.all_or_exists_first with
    ⟨hnone, rfl, rfl⟩ | ⟨before, failing, hfull, hbefore, hfailing, rfl⟩
  · rw [List.map_nil, List.append_nil] at hcut
    exact .inl ⟨isSuccess_iff.mpr hnone, congrArg mk hcut⟩
  · rw [List.append_assoc] at hcut
    exact .inr ⟨before, failing, rest, hfull, hbefore, hfailing, hcut⟩

end CutAtFailure

end SuiteReport

-- ---------------------------------------------------------------------------
-- Runs
-- ---------------------------------------------------------------------------

namespace Suite

variable {suite : Suite} {runner : Runner ρ} {cases : List TestCase}

def Runner.withFailFast (runner : Runner ρ) (failFast : Bool) : Runner ρ :=
  { runner with config := { runner.config with failFast } }

theorem stopsAfter_withFailFast (report : CaseReport) :
    (runner.withFailFast true).stopsAfter report = report.outcome.isFailed := Bool.true_and _

theorem runFrom_failFast
    (h : suite.runFrom (runner.withFailFast false) false first cases = .ok full) :
    ∃ reached rest, UpToFirst (·.outcome.isFailed) full reached rest ∧
      suite.runFrom (runner.withFailFast true) false first cases =
        .ok (reached ++ rest.map CaseReport.leftOut) := by
  induction cases generalizing first full with
  | nil =>
    obtain rfl := Except.ok.inj h
    exact ⟨[], [], .never nofun, rfl⟩
  | cons case rest ih =>
    -- the report of the first case is the same, and the one run stops after it if it is a failure
    obtain ⟨report, others, hreport, hothers, rfl⟩ := runFrom_cons_eq_ok_iff.mp h
    have hfast : suite.runCase (runner.withFailFast true) false first case = .ok report := hreport
    rw [runFrom_cons_of_ok hfast, stopsAfter_withFailFast, Bool.false_or]
    cases hfailed : report.outcome.isFailed with
    | true =>
      refine ⟨[report], others, .head (x := report) hfailed others, ?_⟩
      rw [runFrom_stopped, ← map_leftOut_runFrom hothers]
      rfl
    | false =>
      rw [stopsAfter_eq_false rfl, Bool.or_false] at hothers
      obtain ⟨reached, rest, hreached, hrest⟩ := ih hothers
      refine ⟨report :: reached, rest, hreached.cons (Bool.not_eq_true _ ▸ hfailed), ?_⟩
      rw [hrest]
      rfl

/-- A run that stops at the first failure dies as the other does, unless it stops before. -/
theorem runFrom_failFast_of_error
    (h : suite.runFrom (runner.withFailFast false) false first cases = .error crash) :
    suite.runFrom (runner.withFailFast true) false first cases = .error crash ∨
      ∃ reports, suite.runFrom (runner.withFailFast true) false first cases = .ok reports ∧
        ∃ report ∈ reports, report.outcome.isFailed := by
  induction cases generalizing first with
  | nil => cases h
  | cons case rest ih =>
    cases hreport : suite.runCase (runner.withFailFast false) false first case with
    | error cause =>
      have hfast : suite.runCase (runner.withFailFast true) false first case = .error cause :=
        hreport
      rw [runFrom_cons_of_error hreport] at h
      exact .inl ((runFrom_cons_of_error hfast rest).trans h)
    | ok report =>
      have hfast : suite.runCase (runner.withFailFast true) false first case = .ok report :=
        hreport
      rw [runFrom_cons_of_ok hreport, stopsAfter_eq_false rfl, Bool.or_false] at h
      rw [runFrom_cons_of_ok hfast, stopsAfter_withFailFast, Bool.false_or]
      cases hfailed : report.outcome.isFailed with
      | true =>
        rw [runFrom_stopped]
        exact .inr ⟨_, rfl, report, List.mem_cons_self, hfailed⟩
      | false =>
        refine (ih (map_eq_error_iff.mp h)).imp map_eq_error_iff.mpr ?_
        rintro ⟨reports, hreports, hexists⟩
        refine ⟨report :: reports, map_eq_ok_iff.mpr ⟨reports, hreports, rfl⟩, ?_⟩
        exact (List.exists_mem_cons_iff ..).mpr (.inr hexists)

theorem runSequential_cutAtFailure (suite : Suite) (runner : Runner ρ)
    (h : suite.runSequential (runner.withFailFast false) = .ok full) :
    ∃ cut, suite.runSequential (runner.withFailFast true) = .ok cut ∧
      (SuiteReport.mk full).CutAtFailure ⟨cut⟩ := by
  obtain ⟨reached, rest, hreached, hcut⟩ := runFrom_failFast h
  exact ⟨_, hcut, reached, rest, hreached, rfl⟩

theorem run_of_not_parallel (hparallel : runner.config.parallel = false) :
    suite.run runner = (suite.runSequential runner).map .mk := by
  rw [run, hparallel]
  rfl

/-- To stop at the first failure makes no difference up to there, nor to whether there is a failure
at all. The cases after it are skipped, but each is reported, at its place and by its name. If the
program dies in a case after the first failure, then only where the run does not stop. The same case
comes to the same in both runs because each reads every map of a document in the order in which it
is written, and not, as with the program's hash maps, in one that each load may choose anew. -/
theorem run_failFast (suite : Suite) (runner : Runner ρ) (filter : Option String) :
    let slow : Runner ρ := { runner with config := { filter } }
    let fast : Runner ρ := { runner with config := { filter, failFast := true } }
    (∀ full, suite.run slow = .ok full → ∃ cut, suite.run fast = .ok cut ∧
      cut.cases.length = full.cases.length ∧
      cut.cases.map (·.index) = List.range suite.cases.length ∧
      cut.cases.map (·.desc) = full.cases.map (·.desc) ∧
      ((full.isSuccess ∧ cut = full) ∨
        ∃ before failing rest, full.cases = before ++ failing :: rest ∧
          (∀ case ∈ before, ¬ case.outcome.isFailed) ∧ failing.outcome.isFailed ∧
          cut.cases = before ++ failing :: rest.map CaseReport.leftOut) ∧
      cut.failed ≤ 1 ∧ cut.isSuccess = full.isSuccess ∧
      cut.passed + cut.failed + cut.skipped = suite.cases.length) ∧
    ∀ crash, suite.run slow = .error crash →
      suite.run fast = .error crash ∨ ∃ cut, suite.run fast = .ok cut ∧ cut.isSuccess = false := by
  intro slow fast
  have hslow : suite.run slow = (suite.runSequential slow).map .mk := run_of_not_parallel rfl
  have hfast : suite.run fast = (suite.runSequential fast).map .mk := run_of_not_parallel rfl
  rw [hslow, hfast]
  constructor
  · intro full hrun
    obtain ⟨reports, hreports, rfl⟩ := map_eq_ok_iff.mp hrun
    obtain ⟨cut, hcut, hcuts⟩ := suite.runSequential_cutAtFailure slow hreports
    have hlength : cut.length = suite.cases.length := length_runSequential hcut
    refine ⟨⟨cut⟩, map_eq_ok_iff.mpr ⟨cut, hcut, rfl⟩, ?_, map_index_runSequential hcut, ?_,
      hcuts.eq_or_exists_first, hcuts.failed_le_one, hcuts.isSuccess_eq, ?_⟩
    · rw [hlength, length_runSequential hreports]
    · rw [map_desc_runSequential hcut, map_desc_runSequential hreports]
    · rw [SuiteReport.counts_eq, hlength]
  · intro crash hrun
    have hcrash : suite.runSequential (slow.withFailFast false) = .error crash :=
      map_eq_error_iff.mp hrun
    rcases runFrom_failFast_of_error hcrash with hsame | ⟨cut, hcut, hfails⟩
    · exact .inl (map_eq_error_iff.mpr hsame)
    · exact .inr ⟨⟨cut⟩, map_eq_ok_iff.mpr ⟨cut, hcut, rfl⟩,
        SuiteReport.isSuccess_eq_false_iff.mpr hfails⟩

/-- Cases that are skipped before and after the first failure, and one that would pass. -/
def stumbling : Suite where
  cases := [{ skip := true }, { desc := "no grammar" }, { skip := true }, .brackets]
  baseDir := ""

/-- A failure before a case that the program dies in. -/
def doomed : Suite where
  cases := [{ desc := "no grammar" }, { grammarPath := some "boundless.json" }]
  baseDir := ""

def boundlessRunner : Runner Regex.Compiled :=
  { bracketRunner with files := fun
      | "boundless.json" => .ok boundlessSource
      | _ => .error .noSuchFile }

theorem run_failFast_stumbling :
    (∃ full cut, stumbling.run bracketRunner = .ok full ∧
      stumbling.run { bracketRunner with config := { failFast := true } } = .ok cut ∧
      full.cases.map (·.outcome) = [.skipped, .failed (.grammarNotFound none), .skipped, .passed] ∧
      cut.cases.map (·.outcome) = [.skipped, .failed (.grammarNotFound none), .skipped, .skipped] ∧
      cut.failed ≤ 1 ∧ cut.isSuccess = full.isSuccess) ∧
    ∃ crash cut, doomed.run boundlessRunner = .error crash ∧
      doomed.run { boundlessRunner with config := { failFast := true } } = .ok cut ∧
      cut.isSuccess = false := by
  constructor
  · have hfull : ∃ full, stumbling.run bracketRunner = .ok full ∧ full.cases.map (·.outcome) =
        [.skipped, .failed (.grammarNotFound none), .skipped, .passed] := by decide +kernel
    have hfast : ∃ cut, stumbling.run { bracketRunner with config := { failFast := true } } =
        .ok cut ∧ cut.cases.map (·.outcome) =
          [.skipped, .failed (.grammarNotFound none), .skipped, .skipped] := by decide +kernel
    obtain ⟨full, hrun, hfull⟩ := hfull
    obtain ⟨_, hrun', hfast⟩ := hfast
    obtain ⟨cut, hcut, -, -, -, -, hfailed, hsuccess, -⟩ :=
      (run_failFast stumbling bracketRunner none).1 full hrun
    obtain rfl := Except.ok.inj (hrun'.symm.trans hcut)
    exact ⟨full, _, hrun, hcut, hfull, hfast, hfailed, hsuccess⟩
  · have hdies : doomed.run boundlessRunner = .error (.hugeGroup 0xFFFFFFFFFFFFFFFF) := by
      decide +kernel
    have hlives : ∃ cut, doomed.run { boundlessRunner with config := { failFast := true } } =
        .ok cut := by decide +kernel
    obtain ⟨cut, hcut⟩ := hlives
    rcases (run_failFast doomed boundlessRunner none).2 _ hdies with hsame | ⟨_, hstops, hfails⟩
    · cases hsame.symm.trans hcut
    · obtain rfl := Except.ok.inj (hcut.symm.trans hstops)
      exact ⟨_, _, hdies, hcut, hfails⟩

end Suite

end LineScopes

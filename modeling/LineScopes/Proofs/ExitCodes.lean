import LineScopes.CommandLine.Run
import LineScopes.Proofs.CaptureTables
import LineScopes.Proofs.FailFast
import LineScopes.Proofs.FirstErrors

/-!
# Runs from the command line

Nothing runs unless all suites are loaded. Then they are reported one after the
other, and the exit code is that of the whole list of them, also where the run
stops before its end. Where the program dies in a case, there is neither a
report of its suite nor an exit code of its own.
-/

namespace LineScopes

-- ---------------------------------------------------------------------------
-- Suites
-- ---------------------------------------------------------------------------

namespace Suite

variable {suite : Suite} {runner : Runner ρ}

theorem run_eq_ok_iff (h : ¬ (runner.config.parallel ∧ runner.config.failFast)) :
    suite.run runner = .ok report ↔ suite.runSequential runner = .ok report.cases := by
  have hmk : ∀ {x : Except Crash (List CaseReport)},
      x.map SuiteReport.mk = .ok report ↔ x = .ok report.cases := by
    intro x
    rw [map_eq_ok_iff]
    exact ⟨fun ⟨_, hx, hreport⟩ => hreport ▸ hx, fun hx => ⟨_, hx, rfl⟩⟩
  cases hparallel : runner.config.parallel with
  | false => rw [run_of_not_parallel hparallel, hmk]
  | true =>
    have hfailFast : runner.config.failFast = false :=
      Bool.eq_false_of_not_eq_true fun hfast => h ⟨hparallel, hfast⟩
    have hrun : suite.run runner = (suite.runParallel runner).map .mk := by
      rw [run, hparallel]
      rfl
    rw [hrun, hmk, runParallel_eq_ok_iff hfailFast]

theorem exists_run_eq_error_iff (h : ¬ (runner.config.parallel ∧ runner.config.failFast)) :
    (∃ crash, suite.run runner = .error crash) ↔ suite.Dies runner := by
  have hreport : (∃ report, suite.run runner = .ok report) ↔
      ∃ reports, suite.runSequential runner = .ok reports := by
    simp only [run_eq_ok_iff h]
    exact ⟨fun ⟨_, hrun⟩ => ⟨_, hrun⟩, fun ⟨reports, hrun⟩ => ⟨⟨reports⟩, hrun⟩⟩
  rw [exists_ok_iff, exists_ok_iff, ← not_exists, ← not_exists, not_iff_not] at hreport
  exact hreport.trans exists_runFrom_eq_error_iff

theorem isSuccess_of_run (h : ¬ (runner.config.parallel ∧ runner.config.failFast))
    (hrun : suite.run runner = .ok report) :
    report.isSuccess = false ↔ suite.Fails runner := by
  rw [SuiteReport.isSuccess_eq_false_iff]
  exact exists_isFailed_iff ((run_eq_ok_iff h).mp hrun)

end Suite

namespace CommandLine.Environment

variable {environment other : Environment ρ} {arguments : RunArguments}

-- ---------------------------------------------------------------------------
-- Loading
-- ---------------------------------------------------------------------------

theorem loadSuites_eq_error_iff {paths : List String} :
    environment.loadSuites paths = .error cause ↔
      FirstError (Suite.load environment.files) paths cause := by
  rw [loadSuites, mapM_eq_error_iff]
  refine FirstError.congr fun path _ e => ?_
  cases Suite.load environment.files path with
  | ok suite => exact ⟨nofun, nofun⟩
  | error cause => rw [error_bind, Except.error.injEq, Except.error.injEq]

theorem exists_loadSuites {paths : List String}
    (h : ∀ path ∈ paths, ∃ suite, Suite.load environment.files path = .ok suite) :
    ∃ suites, environment.loadSuites paths = .ok suites :=
  exists_ok_iff.mpr fun cause hcause =>
    forall_not_firstError_iff.mpr h cause (loadSuites_eq_error_iff.mp hcause)

theorem load_of_loadSuites {paths : List String} (h : environment.loadSuites paths = .ok suites) :
    suites.map (·.1) = paths ∧
      ∀ entry ∈ suites, Suite.load environment.files entry.1 = .ok entry.2 := by
  have hloads := mapM_eq_ok_iff.mp h
  clear h
  induction hloads with
  | nil => exact ⟨rfl, nofun⟩
  | cons hentry _ ih =>
    obtain ⟨suite, hsuite, hentry⟩ := bind_ok.mp hentry
    obtain rfl := Except.ok.inj hentry
    exact ⟨congrArg (_ :: ·) ih.1, List.forall_mem_cons.mpr ⟨hsuite, ih.2⟩⟩

theorem load_congr {path : String} (h : other.files path = environment.files path) :
    Suite.load other.files path = Suite.load environment.files path := by
  rw [Suite.load, Suite.load, h]

-- ---------------------------------------------------------------------------
-- Reporting
-- ---------------------------------------------------------------------------

/-- What is printed of a suite: its path and its report, if the program does not die before. -/
def reportText (runner : Suite.Runner ρ) (entry : String × Suite) : String :=
  match entry.2.run runner with
  | .ok report => entry.1 ++ "\n" ++ report.text ++ "\n\n"
  | .error _ => entry.1 ++ "\n"

/-- The run ends with this suite. -/
def EndsWith (runner : Suite.Runner ρ) (entry : String × Suite) : Prop :=
  entry.2.Dies runner ∨ runner.config.failFast ∧ entry.2.Fails runner

theorem reached_of_not_dies {runner : Suite.Runner ρ}
    (h : UpToFirst (EndsWith runner) suites reported rest)
    (hlives : ∀ entry ∈ reported, ¬ entry.2.Dies runner) :
    (runner.config.failFast = false → reported = suites) ∧
      (runner.config.failFast = true → UpToFirst (·.2.Fails runner) suites reported rest) := by
  have hends : ∀ entry ∈ reported, (EndsWith runner entry ↔
      runner.config.failFast ∧ entry.2.Fails runner) :=
    fun entry hmem => or_iff_right (hlives entry hmem)
  constructor
  · intro hslow
    rcases (h.congr hends).all_or_exists_first with
      ⟨-, hall, -⟩ | ⟨before, entry, -, -, hentry, -⟩
    · exact hall
    · exact absurd hentry.1 (Bool.not_eq_true _ ▸ hslow)
  · intro hfast
    refine h.congr fun entry hmem => ?_
    rw [hends entry hmem, hfast, eq_self, true_and]

section

variable {runner : Suite.Runner ρ} {entry : String × Suite} {report : SuiteReport}

theorem runSuites_of_error (h : entry.2.run runner = .error crash)
    (rest : List (String × Suite)) :
    runSuites runner (entry :: rest) = (reportText runner entry, .error crash) := by
  rw [runSuites, reportText, h]

theorem runSuites_of_failed (h : entry.2.run runner = .ok report)
    (hfailed : report.isSuccess = false) (hfailFast : runner.config.failFast)
    (rest : List (String × Suite)) :
    runSuites runner (entry :: rest) = (reportText runner entry, .ok true) := by
  rw [runSuites, reportText, h]
  exact if_pos ⟨Bool.not_eq_true _ ▸ hfailed, hfailFast⟩

theorem runSuites_of_ok (h : entry.2.run runner = .ok report)
    (hgoes : ¬ (runner.config.failFast ∧ report.isSuccess = false))
    (rest : List (String × Suite)) :
    runSuites runner (entry :: rest) =
      (reportText runner entry ++ (runSuites runner rest).1,
        (runSuites runner rest).2.map (· || ¬ report.isSuccess)) := by
  rw [runSuites, reportText, h]
  rw [and_comm, ← Bool.not_eq_true] at hgoes
  exact if_neg hgoes

end

/-- The suites that are reached are printed, and the last of them is the only one that the program
can die in. If it dies in none, it tells whether a case has failed. -/
theorem runSuites_reports (runner : Suite.Runner ρ)
    (hconfig : ¬ (runner.config.parallel ∧ runner.config.failFast))
    (suites : List (String × Suite)) :
    ∃ reported rest, UpToFirst (EndsWith runner) suites reported rest ∧
      (runSuites runner suites).1 = String.join (reported.map (reportText runner)) ∧
      ((∃ crash, (runSuites runner suites).2 = .error crash) ↔
        ∃ entry ∈ reported, entry.2.Dies runner) ∧
      ∀ failed, (runSuites runner suites).2 = .ok failed →
        (failed ↔ ∃ entry ∈ suites, entry.2.Fails runner) := by
  induction suites with
  | nil =>
    refine ⟨[], [], .never nofun, rfl, ⟨nofun, nofun⟩, ?_⟩
    rintro failed ⟨⟩
    exact ⟨nofun, nofun⟩
  | cons entry suites ih =>
    cases hrun : entry.2.run runner with
    | error crash =>
      have hdies := (Suite.exists_run_eq_error_iff hconfig).mp ⟨crash, hrun⟩
      rw [runSuites_of_error hrun]
      refine ⟨[entry], suites, .head (.inl hdies) suites, by simp, ?_, nofun⟩
      exact ⟨fun _ => ⟨entry, List.mem_cons_self, hdies⟩, fun _ => ⟨crash, rfl⟩⟩
    | ok report =>
      have hlives : ¬ entry.2.Dies runner := by
        rw [← Suite.exists_run_eq_error_iff hconfig, hrun]
        exact nofun
      have hfails := Suite.isSuccess_of_run hconfig hrun
      by_cases hends : runner.config.failFast ∧ report.isSuccess = false
      · rw [runSuites_of_failed hrun hends.2 hends.1]
        refine ⟨[entry], suites, .head (.inr ⟨hends.1, hfails.mp hends.2⟩) suites, by simp, ?_, ?_⟩
        · simp [hlives]
        · rintro failed ⟨⟩
          exact ⟨fun _ => ⟨entry, List.mem_cons_self, hfails.mp hends.2⟩, fun _ => rfl⟩
      · obtain ⟨reported, rest, hreported, htext, hdies, hfailed⟩ := ih
        have hgoes : ¬ EndsWith runner entry := by
          rintro (hentry | hentry)
          · exact hlives hentry
          · exact hends ⟨hentry.1, hfails.mpr hentry.2⟩
        rw [runSuites_of_ok hrun hends]
        refine ⟨entry :: reported, rest, hreported.cons hgoes, ?_, ?_, ?_⟩
        · rw [htext, List.map_cons, String.join_cons]
        · simp only [map_eq_error_iff, hdies, List.exists_mem_cons_iff, hlives, false_or]
        · intro failed hfailure
          obtain ⟨others, hothers, rfl⟩ := map_eq_ok_iff.mp hfailure
          rw [Bool.or_eq_true, hfailed others hothers, List.exists_mem_cons_iff,
            decide_eq_true_iff, Bool.not_eq_true, hfails, or_comm]

-- ---------------------------------------------------------------------------
-- Results
-- ---------------------------------------------------------------------------

theorem run_of_error (h : environment.loadSuites arguments.suites = .error cause) :
    environment.run arguments = .ofLoadError cause := by
  rw [run, h]

theorem run_of_firstError (h : FirstError (Suite.load environment.files) arguments.suites cause)
    (hfiles : ∀ path ∈ arguments.suites, other.files path = environment.files path) :
    other.run arguments = .ofLoadError cause := by
  refine run_of_error (loadSuites_eq_error_iff.mpr ((FirstError.congr ?_).mpr h))
  intro path hmem e
  rw [load_congr (hfiles path hmem)]

theorem output_of_ok (h : environment.loadSuites arguments.suites = .ok suites) :
    (environment.run arguments).output = (runSuites (environment.runner arguments) suites).1 := by
  simp only [run, h]

theorem ending_of_ok (h : environment.loadSuites arguments.suites = .ok suites)
    (hfailed : (runSuites (environment.runner arguments) suites).2 = .ok failed) :
    (environment.run arguments).ending = .exit (if failed then 1 else 0) := by
  simp only [run, h, hfailed]

theorem ending_eq_died_iff (h : environment.loadSuites arguments.suites = .ok suites) :
    (environment.run arguments).ending = .died crash ↔
      (runSuites (environment.runner arguments) suites).2 = .error crash := by
  simp only [run, h]
  cases (runSuites (environment.runner arguments) suites).2 <;> simp

/-- If a suite cannot be loaded, nothing is printed but the first error, whatever the engine, the
settings and all other files are: no case is run. Otherwise the suites are reported in their order,
up to one in which the program dies, or in which a case has failed if the run is to stop there.
If it dies in none of them, the exit code tells whether a case has failed among all suites. -/
theorem run_reports (environment : Environment ρ) (arguments : RunArguments)
    (hconfig : ¬ ((environment.config arguments).parallel ∧
      (environment.config arguments).failFast)) :
    let runner := environment.runner arguments
    let result := environment.run arguments
    ((∃ path ∈ arguments.suites, ∃ cause, Suite.load environment.files path = .error cause) →
      ∃ cause, FirstError (Suite.load environment.files) arguments.suites cause ∧
        result.ending = .exit 2 ∧ result.output = "" ∧
        ∀ other : Environment ρ,
          (∀ path ∈ arguments.suites, other.files path = environment.files path) →
          other.run arguments = .ofLoadError cause) ∧
    ((∀ path ∈ arguments.suites, ∃ suite, Suite.load environment.files path = .ok suite) →
      ∃ suites reported rest, suites.map (·.1) = arguments.suites ∧
        (∀ entry ∈ suites, Suite.load environment.files entry.1 = .ok entry.2) ∧
        UpToFirst (EndsWith runner) suites reported rest ∧
        result.output = String.join (reported.map (reportText runner)) ∧
        ((∃ crash, result.ending = .died crash) ↔ ∃ entry ∈ reported, entry.2.Dies runner) ∧
        ((∀ entry ∈ reported, ¬ entry.2.Dies runner) →
          (∀ entry ∈ reported, ∃ report, entry.2.run runner = .ok report) ∧
          (runner.config.failFast = false → reported = suites) ∧
          (runner.config.failFast = true → UpToFirst (·.2.Fails runner) suites reported rest) ∧
          (result.ending = .exit 1 ↔ ∃ entry ∈ suites, entry.2.Fails runner) ∧
          (result.ending = .exit 0 ↔ ∀ entry ∈ suites, ¬ entry.2.Fails runner))) := by
  intro runner result
  constructor
  · intro hfails
    obtain ⟨cause, hfirst⟩ := exists_firstError_iff.mpr hfails
    have hresult : result = .ofLoadError cause := run_of_firstError hfirst fun _ _ => rfl
    rw [hresult]
    exact ⟨cause, hfirst, rfl, rfl, fun _ => run_of_firstError hfirst⟩
  · intro hloads
    obtain ⟨suites, hsuites⟩ := exists_loadSuites hloads
    obtain ⟨hpaths, hloaded⟩ := load_of_loadSuites hsuites
    obtain ⟨reported, rest, hreported, houtput, hdies, hfailed⟩ :=
      runSuites_reports runner hconfig suites
    refine ⟨suites, reported, rest, hpaths, hloaded, hreported,
      (output_of_ok hsuites).trans houtput, ?_, fun hlives => ?_⟩
    · rw [← hdies]
      exact exists_congr fun _ => ending_eq_died_iff hsuites
    · obtain ⟨failed, hrun⟩ : ∃ failed, (runSuites runner suites).2 = .ok failed := by
        rw [exists_ok_iff, ← not_exists, hdies]
        exact fun ⟨entry, hmem, hentry⟩ => hlives entry hmem hentry
      have hending : result.ending = .exit (if failed then 1 else 0) := ending_of_ok hsuites hrun
      replace hfailed := hfailed failed hrun
      obtain ⟨hslow, hfast⟩ := reached_of_not_dies hreported hlives
      refine ⟨fun entry hmem => ?_, hslow, hfast, ?_, ?_⟩
      · rw [exists_ok_iff, ← not_exists, Suite.exists_run_eq_error_iff hconfig]
        exact hlives entry hmem
      · rw [hending, ← hfailed]
        cases failed <;> simp
      · have hnone : (∀ entry ∈ suites, ¬ entry.2.Fails runner) ↔ failed = false := by
          rw [← Bool.not_eq_true, hfailed]
          simp
        rw [hending, hnone]
        cases failed <;> simp

def suiteFiles : FileSystem
  | "passes.yaml" => .ok "- skip: true"
  | "fails.yaml" => .ok "- desc: no grammar"
  | "dies.yaml" => .ok "- grammarPath: boundless.json\n- skip: true"
  | "boundless.json" => .ok boundlessSource
  | _ => .error .noSuchFile

def suiteEnvironment : Environment Regex.Compiled where
  engine := Regex.engine
  maxNesting := 100
  files := suiteFiles
  workers := 2
  workers_pos := Nat.two_pos
  setting? := fun _ => none

def settings (suites : List String) (failFast : Bool) : RunArguments where
  suites
  filter := none
  parallel := false
  failFast

/-- A suite with a failed case between two others. -/
def failingPaths : List String := ["passes.yaml", "fails.yaml", "passes.yaml"]

theorem run_reports_stopping :
    let runner := suiteEnvironment.runner (settings failingPaths true)
    (∃ suites reported rest : List (String × Suite), suites.map (·.1) = failingPaths ∧
      UpToFirst (·.2.Fails runner) suites reported rest ∧
      (suiteEnvironment.run (settings failingPaths true)).output =
        String.join (reported.map (reportText runner)) ∧
      (suiteEnvironment.run (settings failingPaths true)).ending = .exit 1 ∧
      ∃ entry ∈ suites, entry.2.Fails runner) ∧
    (suiteEnvironment.run (settings (failingPaths ++ ["missing.yaml"]) true)).ending = .exit 2 ∧
    (suiteEnvironment.run (settings (failingPaths ++ ["missing.yaml"]) true)).output = "" := by
  intro runner
  have hloads : ∀ path ∈ failingPaths, ∃ suite, Suite.load suiteFiles path = .ok suite := by
    decide +kernel
  have hending : (suiteEnvironment.run (settings failingPaths true)).ending = .exit 1 := by
    decide +kernel
  obtain ⟨-, hreports⟩ := run_reports suiteEnvironment (settings failingPaths true) (by decide)
  obtain ⟨suites, reported, rest, hpaths, -, -, houtput, hdies, hlives⟩ := hreports hloads
  rw [hending] at hdies
  obtain ⟨-, -, hreported, hfails, -⟩ :=
    hlives fun entry hmem hentry => nomatch hdies.mpr ⟨entry, hmem, hentry⟩
  obtain ⟨hmissing, -⟩ := run_reports suiteEnvironment
    (settings (failingPaths ++ ["missing.yaml"]) true) (by decide)
  obtain ⟨cause, -, hexit, hnothing, -⟩ := hmissing ⟨"missing.yaml", by decide, _, rfl⟩
  exact ⟨⟨suites, reported, rest, hpaths, hreported rfl, houtput, hending, hfails.mp hending⟩,
    hexit, hnothing⟩

/-- A suite whose first case has such a grammar, between two others. -/
def dyingPaths : List String := ["passes.yaml", "dies.yaml", "fails.yaml"]

/-- All suites can be loaded, but one of them has no report, and there is no exit code. -/
theorem run_boundless_dies :
    (∀ path ∈ dyingPaths, ∃ suite, Suite.load suiteFiles path = .ok suite) ∧
      suiteEnvironment.run (settings dyingPaths false) = {
        ending := .died (.hugeGroup 0xFFFFFFFFFFFFFFFF)
        output :=
          "passes.yaml\nskip    case #0\n0 passed, 0 failed, 1 skipped\n\ndies.yaml\n" } := by
  decide +kernel

end CommandLine.Environment

end LineScopes

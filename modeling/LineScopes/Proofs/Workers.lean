import LineScopes.Proofs.Resolution
import LineScopes.Proofs.SequentialRuns
import LineScopes.Suite.Pool
import Mathlib.Data.Set.List

/-!
# Workers and the sequential run

The reports that workers have handed in and those that they still owe are
those of the cases taken so far, whatever the order of their steps. Once all
workers have stopped, all cases have been taken, and the reports only need to
be put in order. All workers stop if each comes up often enough.
-/

namespace LineScopes.Suite

variable {suite : Suite} {runner : Runner ρ} {pool after : Pool} {reports : List CaseReport}

def bracketRunner : Runner Regex.Compiled where
  engine := Regex.engine
  maxNesting := 100
  files := TestCase.bracketFiles
  workers := 2
  workers_pos := by decide
  config := {}

namespace Pool

-- ---------------------------------------------------------------------------
-- Steps
-- ---------------------------------------------------------------------------

inductive Steps (suite : Suite) (runner : Runner ρ) (pool : Pool) (worker : Nat) : Pool → Prop
  | take {case} : pool.workers[worker]? = some .idle → suite.cases[pool.next]? = some case →
      Steps suite runner pool worker { pool with
        next := pool.next + 1
        workers := pool.workers.set worker (.running pool.next case) }
  | stop : pool.workers[worker]? = some .idle → suite.cases[pool.next]? = none →
      Steps suite runner pool worker { pool with
        next := pool.next + 1, workers := pool.workers.set worker .stopped }
  | run {index case report} : pool.workers[worker]? = some (.running index case) →
      suite.runCase runner pool.stopped index case = .ok report →
      Steps suite runner pool worker { pool with
        stopped := pool.stopped || runner.stopsAfter report
        workers := pool.workers.set worker (.reporting report) }
  | report {report} : pool.workers[worker]? = some (.reporting report) →
      Steps suite runner pool worker { pool with
        reports := pool.reports ++ [report], workers := pool.workers.set worker .idle }
  | rest : (∀ state, pool.workers[worker]? = some state → state = .stopped) →
      Steps suite runner pool worker pool

theorem steps_of_step (h : pool.step suite runner worker = .ok after) :
    Steps suite runner pool worker after := by
  unfold Pool.step at h
  split at h
  · next hidle =>
    obtain rfl := Except.ok.inj h
    cases hcase : suite.cases[pool.next]? with
    | some case => exact .take hidle hcase
    | none => exact .stop hidle hcase
  · next hrunning =>
    obtain ⟨report, hreport, ⟨⟩⟩ := bind_ok.mp h
    exact .run hrunning hreport
  · next hreporting =>
    obtain rfl := Except.ok.inj h
    exact .report hreporting
  · next hstopped =>
    obtain rfl := Except.ok.inj h
    exact .rest fun state hstate => (Option.some.inj (hstopped.symm.trans hstate)).symm
  · next hnone =>
    obtain rfl := Except.ok.inj h
    exact .rest fun state hstate => by rw [hnone] at hstate; cases hstate

theorem exists_step (h : ∀ index case, pool.workers[worker]? = some (.running index case) →
    ∃ report, suite.runCase runner pool.stopped index case = .ok report) :
    ∃ after, pool.step suite runner worker = .ok after := by
  unfold Pool.step
  split
  · exact ⟨_, rfl⟩
  · next hrunning =>
    obtain ⟨report, hreport⟩ := h _ _ hrunning
    exact ⟨_, bind_ok.mpr ⟨report, hreport, rfl⟩⟩
  · exact ⟨_, rfl⟩
  · exact ⟨_, rfl⟩
  · exact ⟨_, rfl⟩

theorem run_cons_eq_ok_iff :
    pool.run suite runner (worker :: schedule) = .ok after ↔
      ∃ next, pool.step suite runner worker = .ok next ∧
        next.run suite runner schedule = .ok after := by
  unfold Pool.run
  rw [List.foldlM_cons, bind_ok]

theorem set_perm {workers : List Worker} {worker : Nat} (h : workers[worker]? = some state)
    (f : Worker → Option α) (state' : Worker) :
    ((f state).toList ++ (workers.set worker state').filterMap f).Perm
      ((f state').toList ++ workers.filterMap f) := by
  obtain ⟨hlt, hstate⟩ := List.getElem?_eq_some_iff.mp h
  have hcons : ∀ state, ((state :: workers.eraseIdx worker).filterMap f) =
      (f state).toList ++ (workers.eraseIdx worker).filterMap f := by
    intro state
    cases hf : f state <;> simp [hf]
  have hbefore := ((List.getElem_cons_eraseIdx_perm hlt).symm).filterMap f
  have hafter := (List.set_perm_cons_eraseIdx hlt state').filterMap f
  rw [hstate, hcons] at hbefore
  rw [hcons] at hafter
  refine (hafter.append_left _).trans (List.Perm.trans ?_ (hbefore.symm.append_left _))
  rw [← List.append_assoc, ← List.append_assoc]
  exact List.perm_append_comm.append_right _

-- ---------------------------------------------------------------------------
-- Reports
-- ---------------------------------------------------------------------------

/-- The report that a worker has taken on and not handed in, if the case comes to one. -/
def owed? (suite : Suite) (runner : Runner ρ) : Worker → Option (Option CaseReport)
  | .running index case => some (suite.runCase runner false index case).toOption
  | .reporting report => some (some report)
  | .idle | .stopped => none

/-- What holds of a pool at any time, if no failure stops the run. -/
structure Accounts (suite : Suite) (runner : Runner ρ) (pool : Pool) : Prop where
  reports : (pool.reports.map some ++ pool.workers.filterMap (owed? suite runner)).Perm
    ((suite.reports? runner).take pool.next)
  running : pool.stopped = false
  ended : .stopped ∈ pool.workers → suite.cases.length ≤ pool.next

theorem ofSize_accounts (workers : Nat) : (ofSize workers).Accounts suite runner where
  reports := by simp [ofSize, owed?, List.filterMap_replicate]
  running := rfl
  ended h := by simp [ofSize] at h

theorem Accounts.step (hfailFast : runner.config.failFast = false)
    (h : pool.Accounts suite runner) (hstep : Steps suite runner pool worker after) :
    after.Accounts suite runner := by
  -- what was taken so far is the reports with those still owed; each step moves one case on
  have hended : ∀ {state}, state ≠ .stopped → .stopped ∈ pool.workers.set worker state →
      suite.cases.length ≤ pool.next := by
    intro state hstate hmem
    rcases List.mem_or_eq_of_mem_set hmem with hmem | rfl
    · exact h.ended hmem
    · exact absurd rfl hstate
  have hnext : (suite.reports? runner)[pool.next]? =
      suite.cases[pool.next]?.map fun case =>
        (suite.runCase runner false pool.next case).toOption := List.getElem?_mapIdx
  cases hstep with
  | @take case hidle hcase =>
    have hworkers := set_perm hidle (owed? suite runner) (.running pool.next case)
    have hrunning : Worker.running pool.next case ≠ .stopped := nofun
    refine ⟨?_, h.running, fun hmem => Nat.le_succ_of_le (hended hrunning hmem)⟩
    rw [List.take_add_one, hnext, hcase]
    refine (hworkers.append_left _).trans (List.perm_middle.trans ?_)
    exact (h.reports.cons _).trans (List.perm_append_singleton ..).symm
  | stop hidle hcase =>
    have hworkers := set_perm hidle (owed? suite runner) .stopped
    have hpast := List.getElem?_eq_none_iff.mp hcase
    refine ⟨?_, h.running, fun _ => Nat.le_succ_of_le hpast⟩
    rw [List.take_add_one, hnext, hcase, Option.map_none, Option.toList_none, List.append_nil]
    exact (hworkers.append_left _).trans h.reports
  | @run index case report hrunning hreport =>
    have hworkers := set_perm hrunning (owed? suite runner) (.reporting report)
    have howed : owed? suite runner (.running index case) = some (some report) := by
      rw [h.running] at hreport
      rw [owed?, toOption_eq_some.mpr hreport]
    rw [howed] at hworkers
    refine ⟨?_, ?_, hended nofun⟩
    · exact (hworkers.cons_inv.append_left _).trans h.reports
    · simp only [h.running, stopsAfter_eq_false hfailFast, Bool.or_false]
  | @report report hreporting =>
    have hworkers := set_perm hreporting (owed? suite runner) .idle
    refine ⟨?_, h.running, hended nofun⟩
    rw [List.map_append, List.append_assoc]
    exact (hworkers.append_left _).trans h.reports
  | rest => exact h

theorem Accounts.run (hfailFast : runner.config.failFast = false)
    (h : pool.Accounts suite runner) (hrun : pool.run suite runner schedule = .ok after) :
    after.Accounts suite runner := by
  induction schedule generalizing pool with
  | nil => exact Except.ok.inj hrun ▸ h
  | cons worker rest ih =>
    obtain ⟨next, hstep, hrest⟩ := run_cons_eq_ok_iff.mp hrun
    exact ih (h.step hfailFast (steps_of_step hstep)) hrest

/-- A worker runs only cases that the sequential run comes to a report of. -/
theorem Accounts.exists_step (h : pool.Accounts suite runner)
    (hreports : suite.reports? runner = reports.map some) (worker : Nat) :
    ∃ after, pool.step suite runner worker = .ok after := by
  refine Pool.exists_step fun index case hrunning => ?_
  have howed : (suite.runCase runner false index case).toOption ∈
      pool.workers.filterMap (owed? suite runner) :=
    List.mem_filterMap.mpr ⟨_, List.mem_of_getElem? hrunning, rfl⟩
  have hmem := List.mem_of_mem_take (h.reports.mem_iff.mp (List.mem_append_right _ howed))
  rw [hreports] at hmem
  obtain ⟨report, -, hreport⟩ := List.mem_map.mp hmem
  rw [h.running]
  exact ⟨report, toOption_eq_some.mp hreport.symm⟩

theorem Accounts.exists_run (hfailFast : runner.config.failFast = false)
    (h : pool.Accounts suite runner) (hreports : suite.reports? runner = reports.map some)
    (schedule : List Nat) : ∃ after, pool.run suite runner schedule = .ok after := by
  induction schedule generalizing pool with
  | nil => exact ⟨pool, rfl⟩
  | cons worker rest ih =>
    obtain ⟨next, hstep⟩ := h.exists_step hreports worker
    obtain ⟨after, hrest⟩ := ih (h.step hfailFast (steps_of_step hstep))
    exact ⟨after, run_cons_eq_ok_iff.mpr ⟨next, hstep, hrest⟩⟩

theorem Steps.length_workers (hstep : Steps suite runner pool worker after) :
    after.workers.length = pool.workers.length := by
  cases hstep with
  | take | stop | run | report => exact List.length_set
  | rest => rfl

theorem length_workers_run (hrun : pool.run suite runner schedule = .ok after) :
    after.workers.length = pool.workers.length := by
  induction schedule generalizing pool with
  | nil => rw [Except.ok.inj hrun]
  | cons worker rest ih =>
    obtain ⟨next, hstep, hrest⟩ := run_cons_eq_ok_iff.mp hrun
    rw [ih hrest, (steps_of_step hstep).length_workers]

theorem filterMap_of_isDone {pool : Pool} (h : pool.isDone) {f : Worker → Option α}
    (hstopped : f .stopped = none) : pool.workers.filterMap f = [] := by
  rw [List.filterMap_eq_nil_iff]
  intro state hmem
  obtain rfl : state = .stopped := of_decide_eq_true (List.all_eq_true.mp h state hmem)
  exact hstopped

theorem Accounts.perm_of_isDone (h : pool.Accounts suite runner) (hdone : pool.isDone)
    (hworkers : 0 < pool.workers.length) :
    (pool.reports.map some).Perm (suite.reports? runner) := by
  obtain ⟨state, hmem⟩ := List.exists_mem_of_length_pos hworkers
  obtain rfl : state = .stopped := of_decide_eq_true (List.all_eq_true.mp hdone state hmem)
  have hreports := h.reports
  rwa [filterMap_of_isDone hdone rfl, List.append_nil,
    List.take_of_length_le (by simpa [reports?] using h.ended hmem)] at hreports

theorem inOrder_eq_of_perm (hreports : suite.runSequential runner = .ok reports)
    (h : pool.reports.Perm reports) : pool.inOrder = reports := by
  have hindices := map_index_runSequential hreports
  have hsorted : reports.Pairwise fun a b => a.index ≤ b.index := by
    refine List.pairwise_map.mp ?_
    rw [hindices]
    exact List.pairwise_le_range
  have hle : pool.inOrder.Pairwise fun a b => a.index ≤ b.index := by
    refine (List.pairwise_mergeSort ?_ ?_ pool.reports).imp of_decide_eq_true
    · intro a b c hab hbc
      exact decide_eq_true (Nat.le_trans (of_decide_eq_true hab) (of_decide_eq_true hbc))
    · intro a b
      simpa using Nat.le_total a.index b.index
  have hperm : pool.inOrder.Perm reports := (List.mergeSort_perm ..).trans h
  refine hperm.eq_of_pairwise (fun a b ha hb hab hba => ?_) hle hsorted
  have hnodup : (reports.map (·.index)).Nodup := by
    rw [hindices]
    exact List.nodup_range
  exact List.inj_on_of_nodup_map hnodup (hperm.mem_iff.mp ha) hb (Nat.le_antisymm hab hba)

/-- Workers that have all stopped leave the reports of the sequential run. -/
theorem Accounts.runSequential_of_isDone (hfailFast : runner.config.failFast = false)
    (h : pool.Accounts suite runner) (hdone : pool.isDone) (hworkers : 0 < pool.workers.length) :
    suite.runSequential runner = .ok pool.inOrder := by
  have hperm := h.perm_of_isDone hdone hworkers
  have hreported : suite.reports? runner ∈ Set.range (List.map some) := by
    rw [Set.range_list_map]
    intro report? hmem
    obtain ⟨report, -, hreport⟩ := List.mem_map.mp (hperm.mem_iff.mpr hmem)
    exact ⟨report, hreport⟩
  obtain ⟨reports, hreports⟩ := hreported
  rw [← hreports, List.map_perm_map_iff (Option.some_injective _)] at hperm
  have hsequential := (runSequential_eq_ok_iff hfailFast).mpr hreports.symm
  rw [hsequential, inOrder_eq_of_perm hsequential hperm]

-- ---------------------------------------------------------------------------
-- Cases that are run
-- ---------------------------------------------------------------------------

/-- The case that a step of a worker runs. -/
def runs? (pool : Pool) (worker : Nat) : Option Nat :=
  match pool.workers[worker]? with
  | some (.running index _) => some index
  | _ => none

/-- The cases that are run along a schedule, in the order of time, until the program dies. -/
def casesRun (suite : Suite) (runner : Runner ρ) : Pool → (schedule : List Nat) → List Nat
  | _, [] => []
  | pool, worker :: rest =>
    (pool.runs? worker).toList ++
      match pool.step suite runner worker with
      | .ok after => casesRun suite runner after rest
      | .error _ => []

/-- The index of the report that a worker is about to hand in. -/
def reportingIndex? : Worker → Option Nat
  | .reporting report => some report.index
  | .idle | .running .. | .stopped => none

/-- The cases that have been run. -/
def casesDone (pool : Pool) : List Nat :=
  pool.reports.map (·.index) ++ pool.workers.filterMap reportingIndex?

theorem Steps.casesDone (hstep : Steps suite runner pool worker after) :
    after.casesDone.Perm ((pool.runs? worker).toList ++ pool.casesDone) := by
  have hindices := fun state (hstate : pool.workers[worker]? = some state) state' =>
    (set_perm hstate reportingIndex? state').append_left (pool.reports.map (·.index))
  cases hstep with
  | @take case hidle =>
    rw [runs?, hidle]
    exact hindices _ hidle (.running pool.next case)
  | stop hidle =>
    rw [runs?, hidle]
    exact hindices _ hidle .stopped
  | @run index case report hrunning hreport =>
    obtain ⟨-, hindex, -⟩ := runCase_eq_ok_iff.mp hreport
    rw [runs?, hrunning, ← hindex]
    exact (hindices _ hrunning (.reporting report)).trans List.perm_middle
  | @report report hreporting =>
    rw [runs?, hreporting, Pool.casesDone, List.map_append, List.append_assoc]
    exact hindices _ hreporting .idle
  | rest hrest =>
    have hnone : pool.runs? worker = none := by
      unfold runs?
      split
      · next hstate => cases hrest _ hstate
      · rfl
    rw [hnone]
    exact .refl _

theorem casesDone_run (hrun : pool.run suite runner schedule = .ok after) :
    after.casesDone.Perm (pool.casesRun suite runner schedule ++ pool.casesDone) := by
  induction schedule generalizing pool with
  | nil => exact Except.ok.inj hrun ▸ .refl _
  | cons worker rest ih =>
    obtain ⟨next, hstep, hrest⟩ := run_cons_eq_ok_iff.mp hrun
    refine (ih hrest).trans (((steps_of_step hstep).casesDone.append_left _).trans ?_)
    rw [casesRun, hstep, ← List.append_assoc]
    exact List.perm_append_comm.append_right _

theorem casesRun_of_isDone {workers : Nat} (hdone : pool.isDone)
    (hrun : (ofSize workers).run suite runner schedule = .ok pool) :
    ((ofSize workers).casesRun suite runner schedule).Perm (pool.reports.map (·.index)) := by
  have hcases := casesDone_run hrun
  have hnone : (ofSize workers).casesDone = [] := by
    simp [casesDone, ofSize, reportingIndex?, List.filterMap_replicate]
  rw [hnone, List.append_nil, casesDone, filterMap_of_isDone hdone rfl, List.append_nil] at hcases
  exact hcases.symm

-- ---------------------------------------------------------------------------
-- Schedules
-- ---------------------------------------------------------------------------

/-- How many steps a worker makes at most before it stops. For each case that is left it makes
three. -/
def stepsLeft (suite : Suite) (pool : Pool) : Worker → Nat
  | .running .. => 3 * (suite.cases.length - pool.next) + 3
  | .reporting _ => 3 * (suite.cases.length - pool.next) + 2
  | .idle => 3 * (suite.cases.length - pool.next) + 1
  | .stopped => 0

theorem stepsLeft_mono (state : Worker) (hnext : pool.next ≤ after.next) :
    stepsLeft suite after state ≤ stepsLeft suite pool state := by
  cases state <;> simp only [stepsLeft] <;> omega

theorem Steps.stepsLeft (hstep : Steps suite runner pool worker after)
    (hstate : pool.workers[other]? = some state) : ∃ state', after.workers[other]? = some state' ∧
      stepsLeft suite after state' ≤ stepsLeft suite pool state - [worker].count other := by
  have hset : ∀ {next : Pool} {state'}, pool.next ≤ next.next →
      next.workers = pool.workers.set worker state' →
      (pool.workers[worker]? = some state →
        Pool.stepsLeft suite next state' < Pool.stepsLeft suite pool state) →
      ∃ state', next.workers[other]? = some state' ∧
        Pool.stepsLeft suite next state' ≤
          Pool.stepsLeft suite pool state - [worker].count other := by
    intro next state' hnext hworkers hless
    rw [hworkers]
    by_cases hworker : worker = other
    · subst hworker
      obtain ⟨hlt, -⟩ := List.getElem?_eq_some_iff.mp hstate
      have hless := hless hstate
      refine ⟨state', List.getElem?_set_self hlt, ?_⟩
      rw [List.count_singleton_self]
      omega
    · refine ⟨state, (List.getElem?_set_ne hworker).trans hstate, ?_⟩
      rw [List.count_eq_zero_of_not_mem (by simpa using Ne.symm hworker)]
      exact stepsLeft_mono state hnext
  cases hstep with
  | @take case hidle hcase =>
    obtain ⟨hlt, -⟩ := List.getElem?_eq_some_iff.mp hcase
    refine hset (Nat.le_succ _) rfl fun h => ?_
    obtain rfl := Option.some.inj (hidle.symm.trans h)
    simp only [Pool.stepsLeft]
    omega
  | stop hidle =>
    refine hset (Nat.le_succ _) rfl fun h => ?_
    obtain rfl := Option.some.inj (hidle.symm.trans h)
    exact Nat.succ_pos _
  | run hrunning =>
    refine hset (Nat.le_refl _) rfl fun h => ?_
    obtain rfl := Option.some.inj (hrunning.symm.trans h)
    exact Nat.lt_succ_self _
  | report hreporting =>
    refine hset (Nat.le_refl _) rfl fun h => ?_
    obtain rfl := Option.some.inj (hreporting.symm.trans h)
    exact Nat.lt_succ_self _
  | rest hrest =>
    refine ⟨state, hstate, ?_⟩
    by_cases hworker : worker = other
    · obtain rfl := hrest state (hworker ▸ hstate)
      exact Nat.zero_le _
    · rw [List.count_eq_zero_of_not_mem (by simpa using Ne.symm hworker)]
      exact Nat.le_refl _

theorem stepsLeft_run (hrun : pool.run suite runner schedule = .ok after)
    (hstate : pool.workers[worker]? = some state) :
    ∃ state', after.workers[worker]? = some state' ∧
      stepsLeft suite after state' ≤ stepsLeft suite pool state - schedule.count worker := by
  induction schedule generalizing pool state with
  | nil => exact Except.ok.inj hrun ▸ ⟨state, hstate, Nat.le_refl _⟩
  | cons first rest ih =>
    obtain ⟨next, hstep, hrest⟩ := run_cons_eq_ok_iff.mp hrun
    obtain ⟨between, hbetween, hle⟩ := (steps_of_step hstep).stepsLeft hstate
    obtain ⟨last, hlast, hle'⟩ := ih hrest hbetween
    refine ⟨last, hlast, Nat.le_trans hle' ?_⟩
    have hcount : ([first] ++ rest).count worker = [first].count worker + rest.count worker :=
      List.count_append
    change _ ≤ _ - ([first] ++ rest).count worker
    omega

theorem isDone_run {workers : Nat} (hrun : (ofSize workers).run suite runner schedule = .ok pool)
    (h : ∀ worker < workers, 3 * suite.cases.length + 1 ≤ schedule.count worker) :
    pool.isDone := by
  have hlength : pool.workers.length = workers := by
    rw [length_workers_run hrun, ofSize, List.length_replicate]
  refine List.all_eq_true.mpr fun state hmem => decide_eq_true ?_
  obtain ⟨worker, hlt, rfl⟩ := List.mem_iff_getElem.mp hmem
  have hidle : (ofSize workers).workers[worker]? = some .idle := by
    rw [ofSize, List.getElem?_replicate, if_pos (by omega)]
  obtain ⟨state, hstate, hle⟩ := stepsLeft_run hrun hidle
  have hcount := h worker (by omega)
  have hidle : stepsLeft suite (ofSize workers) .idle = 3 * suite.cases.length + 1 := rfl
  rw [List.getElem?_eq_getElem hlt] at hstate
  obtain rfl := Option.some.inj hstate
  generalize pool.workers[worker] = state at hle
  cases state with
  | stopped => rfl
  | idle | running | reporting =>
    simp only [stepsLeft] at hle
    omega

theorem count_inTurn {worker workers : Nat} (h : worker < workers) :
    (suite.inTurn workers).count worker = 3 * suite.cases.length + 1 := by
  have hrange : (List.range workers).count worker = 1 :=
    List.count_eq_one_of_mem List.nodup_range (List.mem_range.mpr h)
  unfold inTurn
  generalize 3 * suite.cases.length + 1 = rounds
  induction rounds with
  | zero => rfl
  | succ rounds ih =>
    rw [List.replicate_succ, List.flatten_cons, List.count_append, hrange, ih, Nat.add_comm]

-- ---------------------------------------------------------------------------
-- Runs that are done
-- ---------------------------------------------------------------------------

/-- Once all workers have stopped, the reports in their order are those of the sequential run, and
each case has been run once. The program dies on no way there unless it dies in the sequential
run. -/
theorem inOrder_eq_runSequential (hfailFast : runner.config.failFast = false)
    {workers : Nat} (hworkers : 0 < workers) (schedule : List Nat) :
    (∀ pool, (ofSize workers).run suite runner schedule = .ok pool → pool.isDone →
      suite.runSequential runner = .ok pool.inOrder ∧
        ((ofSize workers).casesRun suite runner schedule).Perm (List.range suite.cases.length)) ∧
    ∀ reports, suite.runSequential runner = .ok reports →
      ∃ pool, (ofSize workers).run suite runner schedule = .ok pool := by
  have hstart : (ofSize workers).Accounts suite runner := ofSize_accounts workers
  constructor
  · intro pool hrun hdone
    have hreports : suite.runSequential runner = .ok pool.inOrder := by
      refine (hstart.run hfailFast hrun).runSequential_of_isDone hfailFast hdone ?_
      rw [length_workers_run hrun]
      simpa [ofSize] using hworkers
    refine ⟨hreports, ?_⟩
    rw [← map_index_runSequential hreports]
    exact (casesRun_of_isDone hdone hrun).trans ((List.mergeSort_perm ..).symm.map _)
  · intro reports hreports
    exact hstart.exists_run hfailFast ((runSequential_eq_ok_iff hfailFast).mp hreports) schedule

/-- A case that passes, one that is left out, and one that fails. -/
def mixed : Suite where
  cases := [.brackets, { skip := true }, { desc := "no grammar" }]
  baseDir := ""

/-- The second worker takes the second and the third case, and runs both before the first worker
runs the first one. -/
def crossing : List Nat := [0, 1, 1, 1, 1, 1, 0, 1, 0] ++ mixed.inTurn 2

theorem inOrder_eq_runSequential_crossing :
    ∃ pool, (ofSize 2).run mixed bracketRunner crossing = .ok pool ∧ pool.isDone ∧
      pool.reports.map (·.index) = [1, 2, 0] ∧
      mixed.runSequential bracketRunner = .ok pool.inOrder ∧
      pool.inOrder.map (·.outcome) = [.passed, .skipped, .failed (.grammarNotFound none)] ∧
      ((ofSize 2).casesRun mixed bracketRunner crossing).Perm [0, 1, 2] := by
  have hrun : ∃ pool, (ofSize 2).run mixed bracketRunner crossing = .ok pool ∧
      pool.reports.map (·.index) = [1, 2, 0] := by decide +kernel
  obtain ⟨pool, hrun, hindices⟩ := hrun
  have hdone : pool.isDone := isDone_run hrun (by decide)
  obtain ⟨hreports, hcases⟩ :=
    (inOrder_eq_runSequential (by rfl) (by decide) crossing).1 pool hrun hdone
  have hsequential : ∃ reports, mixed.runSequential bracketRunner = .ok reports ∧
      reports.map (·.outcome) = [.passed, .skipped, .failed (.grammarNotFound none)] := by
    decide +kernel
  obtain ⟨_, hsame, houtcomes⟩ := hsequential
  obtain rfl := Except.ok.inj (hreports.symm.trans hsame)
  exact ⟨pool, hrun, hdone, hindices, hreports, houtcomes, hcases⟩

end Pool

/-- Whether cases run in parallel makes no difference. -/
theorem runParallel_eq_ok_iff (hfailFast : runner.config.failFast = false) :
    suite.runParallel runner = .ok reports ↔ suite.runSequential runner = .ok reports := by
  have hworkers : 0 < min runner.workers (max suite.cases.length 1) := by
    have hpos := runner.workers_pos
    omega
  unfold runParallel
  generalize min runner.workers (max suite.cases.length 1) = workers at hworkers ⊢
  have hstart : (Pool.ofSize workers).Accounts suite runner := Pool.ofSize_accounts _
  have hsame : ∀ pool, (Pool.ofSize workers).run suite runner (suite.inTurn workers) = .ok pool →
      suite.runSequential runner = .ok pool.inOrder := by
    intro pool hrun
    refine (hstart.run hfailFast hrun).runSequential_of_isDone hfailFast (Pool.isDone_run hrun
      fun worker hlt => Nat.le_of_eq (Pool.count_inTurn hlt).symm) ?_
    rw [Pool.length_workers_run hrun]
    simpa [Pool.ofSize] using hworkers
  refine bind_ok.trans ⟨?_, fun hreports => ?_⟩
  · rintro ⟨pool, hrun, ⟨⟩⟩
    exact hsame pool hrun
  · obtain ⟨pool, hrun⟩ := hstart.exists_run hfailFast
      ((runSequential_eq_ok_iff hfailFast).mp hreports) _
    refine ⟨pool, hrun, ?_⟩
    rw [← hreports, hsame pool hrun]
    rfl

end LineScopes.Suite

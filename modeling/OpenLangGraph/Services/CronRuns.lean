import OpenLangGraph.Services.CronScheduler

/-!
# What the run of a cron executes

The life of one run that the scheduler has committed: its row, the task that executes it, and what
the checkpointer has of the threads. A run says in its row which assistant it is for and on which
thread it is; the task reads neither, but goes back to the cron that it was started with.

## Three vocabularies

* `get_graph` is given the id of the *assistant*, and expects the id of a *graph*.
* The graph is executed on the thread of the *cron*, or else on one named by the run. The row of a
  run without a thread of its own names a thread that was created for it.
* The scheduler ends a run as `success` or `error`. The endpoints know `completed`, `failed` and
  `cancelled`.

So the first two agree for some crons and assistants, and the third for none.

## Main definitions

* `CronRun`, `CronRun.step` — the run, and what its task does to it
* `CronRun.ExecutesItsGraph`, `CronRun.ShowsItsEnd`
* `executesAsRecorded` — the crons whose runs execute what they record

## Main results

* `CronRun.step_of_runTask` — the scheduler moves a task as its run moves
* `CronRun.executes_what_it_records_iff` — which runs execute what they record; none shows its end
* `CronRun.executes_elsewhere` — a cron without a thread
-/

namespace OpenLangGraph

open Transition Processes

/-! ### Runs -/

/-- A graph that has been executed on a thread; `none` if it raised. -/
structure GraphExecution where
  graphId : String
  threadId : String
  result : Option (Option Json)

/-- A run, while its task executes it. -/
structure CronRun where
  tables : CronTables
  task : CronTask
  /-- the state that the checkpointer has of the threads, the newest first -/
  checkpoints : List (String × Option Json)
  executed : List GraphExecution

/-- What an answer says of the graph that is executed. -/
def CronOutcome.result : CronOutcome → Option (Option Json)
  | .returns output => some output
  | _ => none

/-- The status update of a task. -/
def CronTaskMove.write (next : CronTaskMove) (runId : String) (t : CronTables) : CronTables :=
  match next.update with
  | none => t
  | some (status, output) => t.updateRunStatus runId status output

/-- The graph that a task executes: what it asks `get_graph` for. -/
def CronTaskMove.execution (next : CronTaskMove) (task : CronTask) (outcome : CronOutcome) :
    List GraphExecution :=
  next.executesOn.toList.map (⟨task.cron.assistantId, ·, outcome.result⟩)

/-- The crons whose runs execute what they record, if `get_graph` loads the graph: the assistant
has the id of its graph, and the cron has a thread. -/
def executesAsRecorded (registry : Registry) (assistant : Assistant) (cron : Cron) : Bool :=
  cron.assistantId = assistant.graphId && assistant.graphId ∈ registry.listGraphs &&
    cron.threadId.any (· ≠ "")

/-- The first answer is a graph. -/
def isLoaded : List CronOutcome → Bool
  | .loads found :: _ => found
  | _ => false

namespace CronRun

/-- A graph that returns leaves what it returns as the state of its thread. -/
def step (setting : CronSetting) (r : CronRun) (outcome : CronOutcome) : Option CronRun := do
  let next ← r.task.step setting.registry setting.tracingCallbacks outcome
  let execution := next.execution r.task outcome
  let states := execution.filterMap fun x => x.result.map (x.threadId, ·)
  return { tables := next.write r.task.runId r.tables
           task := { r.task with stage := next.stage }
           checkpoints := states ++ r.checkpoints
           executed := r.executed ++ execution }

/-- A run whose task has just been started. -/
def start (tables : CronTables) (cron : Cron) (runId : String)
    (checkpoints : List (String × Option Json)) : CronRun :=
  ⟨tables, ⟨runId, cron, .loading⟩, checkpoints, []⟩

/-- The row of the run. -/
def row (r : CronRun) : Option Run := r.tables.db.run? r.task.runId

/-- The graph of the run's assistant has been executed once, on the thread of the run, and what it
returned is the state of that thread. -/
def ExecutesItsGraph (r : CronRun) : Prop :=
  ∃ run assistant result, r.row = some run ∧
    run.assistantId.bind r.tables.db.assistant? = some assistant ∧
    r.executed = [⟨assistant.graphId, run.threadId, result⟩] ∧
    ∀ output, result = some output → r.checkpoints.lookup run.threadId = some output

/-- The endpoints see that the run is over. -/
def ShowsItsEnd (r : CronRun) : Prop := ∃ run, r.row = some run ∧ run.status.isTerminal = true

/-! ### The scheduler -/

variable {setting : CronSetting} {r r' : CronRun} {s s' : CronScheduler} {t t' : CronTables}
  {task : CronTask} {outcome : CronOutcome} {next : CronTaskMove}

theorem step_eq_some : step setting r outcome = some r' ↔
    ∃ next, r.task.step setting.registry setting.tracingCallbacks outcome = some next ∧
      r' = ⟨next.write r.task.runId r.tables, { r.task with stage := next.stage },
        (next.execution r.task outcome).filterMap (fun x => x.result.map (x.threadId, ·)) ++
          r.checkpoints, r.executed ++ next.execution r.task outcome⟩ := by
  constructor
  · intro h
    obtain ⟨next, hnext, h⟩ := Option.bind_eq_some_iff.mp h
    exact ⟨next, hnext, (Option.some.inj h).symm⟩
  · rintro ⟨next, hnext, rfl⟩
    exact Option.bind_eq_some_iff.mpr ⟨next, hnext, rfl⟩

/-- The scheduler moves a task, and writes to the tables, as its run moves. -/
theorem step_of_runTask {i : ℕ} (hs : s.step setting (.runTask i outcome) = some s')
    (htask : s.tasks[i]? = some task) (checkpoints : List (String × Option Json))
    (executed : List GraphExecution) :
    ∃ r', step setting ⟨s.tables, task, checkpoints, executed⟩ outcome = some r' ∧
      r'.tables = s'.tables ∧ s'.tasks[i]? = some r'.task := by
  obtain ⟨task', htask', hs⟩ := Option.bind_eq_some_iff.mp hs
  obtain rfl := Option.some.inj (htask.symm.trans htask')
  obtain ⟨next, hnext, hs⟩ := Option.bind_eq_some_iff.mp hs
  obtain rfl := Option.some.inj hs
  refine ⟨_, step_eq_some.mpr ⟨next, hnext, rfl⟩, ?_, ?_⟩
  · cases hupdate : next.update <;> simp only [CronTaskMove.write, hupdate]
  · exact List.getElem?_set_self (List.getElem?_eq_some_iff.mp htask).1

/-! ### What stays -/

/-- The row of the run names the same thread and assistant, and the assistants are the same. -/
structure Records (run : Run) (assistants : List Assistant) (r : CronRun) : Prop where
  row : ∃ run', r.row = some run' ∧ run'.threadId = run.threadId ∧
    run'.assistantId = run.assistantId
  assistants : r.tables.db.assistants = assistants

/-- The task is that of the cron. -/
structure IsOf (cron : Cron) (runId : String) (r : CronRun) : Prop where
  cron : r.task.cron = cron
  runId : r.task.runId = runId

theorem row_write (next : CronTaskMove) (runId : String) (t : CronTables) :
    (next.write runId t).db.run? runId = (t.db.run? runId).map fun run =>
      match next.update with
      | none => run
      | some (status, output) => { run with status, output := output.or run.output } := by
  cases hupdate : next.update with
  | none =>
    rw [CronTaskMove.write, hupdate]
    exact Option.map_id'.symm
  | some update =>
    simp only [CronTaskMove.write, hupdate]
    exact (Database.run?_updateRuns (fun run : Run =>
      { run with status := update.1, output := update.2.or run.output }) (fun _ => ⟨rfl, rfl⟩)
      runId).trans (if_pos rfl)

theorem assistants_write (next : CronTaskMove) (runId : String) (t : CronTables) :
    (next.write runId t).db.assistants = t.db.assistants := by
  cases hupdate : next.update <;> simp only [CronTaskMove.write, hupdate]
  rfl

theorem Records.step {run : Run} {assistants : List Assistant} (hr : Records run assistants r)
    (h : step setting r outcome = some r') : Records run assistants r' := by
  obtain ⟨next, -, rfl⟩ := step_eq_some.mp h
  obtain ⟨run', hrow, hthread, hassistant⟩ := hr.row
  refine ⟨⟨_, (row_write next _ _).trans (congrArg _ hrow), ?_, ?_⟩, ?_⟩
  · cases next.update <;> exact hthread
  · cases next.update <;> exact hassistant
  · exact (assistants_write next _ _).trans hr.assistants

/-- The run is not over for the endpoints, and the task will not write that it is. -/
structure LooksUnfinished (r : CronRun) : Prop where
  row : ∀ run, r.row = some run → run.status.isTerminal = false
  writes : ∀ status output, r.task.stage = .recording status output → status.isTerminal = false

/-- What a task writes, and what it will write. -/
theorem step_statuses {registry : Registry} {tracingCallbacks : List PyVal}
    (hstage : ∀ status output, task.stage = .recording status output → status.isTerminal = false)
    (h : task.step registry tracingCallbacks outcome = some next) :
    (∀ update ∈ next.update, update.1.isTerminal = false) ∧
      ∀ status output, next.stage = .recording status output → status.isTerminal = false := by
  cases hcase : task.stage with
  | loading =>
    cases outcome with
    | loads found =>
      simp only [CronTask.step, hcase] at h
      split at h
      · cases h
        simp [RunStatus.isTerminal]
      · split at h <;> cases h <;> simp [RunStatus.isTerminal]
    | raises message =>
      simp only [CronTask.step, hcase] at h
      cases h
      simp [RunStatus.isTerminal]
    | returns | updates => simp [CronTask.step, hcase] at h
  | marking =>
    cases outcome with
    | updates committed =>
      simp only [CronTask.step, hcase] at h
      cases h
      cases committed <;> simp [RunStatus.isTerminal]
    | loads | returns | raises => simp [CronTask.step, hcase] at h
  | invoking =>
    cases outcome with
    | returns | raises =>
      simp only [CronTask.step, hcase] at h
      cases h
      simp [RunStatus.isTerminal]
    | loads | updates => simp [CronTask.step, hcase] at h
  | recording status output =>
    have hstatus := hstage status output hcase
    cases outcome with
    | updates committed =>
      simp only [CronTask.step, hcase] at h
      cases h
      cases committed <;> simp [hstatus]
    | loads | returns | raises => simp [CronTask.step, hcase] at h
  | done => cases outcome <;> simp [CronTask.step, hcase] at h

theorem LooksUnfinished.step (hr : LooksUnfinished r) (h : step setting r outcome = some r') :
    LooksUnfinished r' := by
  obtain ⟨next, hnext, rfl⟩ := step_eq_some.mp h
  obtain ⟨hupdate, hstage⟩ := step_statuses hr.writes hnext
  refine ⟨fun run hrun => ?_, hstage⟩
  obtain ⟨run', hrun', rfl⟩ := Option.map_eq_some_iff.mp ((row_write next _ _).symm.trans hrun)
  cases hcase : next.update with
  | none => exact hr.row run' hrun'
  | some update => exact hupdate update hcase

/-! ### What is executed -/

/-- Without a configuration of a client, a graph is executed on the thread that it is given. -/
theorem checkpointThread_task (tracingCallbacks : List PyVal) (task : CronTask) :
    task.checkpointThread tracingCallbacks = some (task.cron.graphThreadId task.runId) := by
  have hcases := LangGraphService.createRunConfig_cases tracingCallbacks task.runId
    (task.cron.graphThreadId task.runId) none none none
  rw [CronTask.checkpointThread]
  split
  · rename_i hcfg
    rw [hcfg] at hcases
    rcases hcases with hfalse | ⟨-, hfalse⟩ <;> cases hfalse
  · rename_i cfg hcfg
    rw [hcfg] at hcases
    dsimp only at hcases
    rw [LangGraphService.checkpointThread, hcases]
    rfl

/-- The graph of the task has been executed, if it has been loaded. -/
def HasExecuted (loaded : Bool) (r : CronRun) : Prop :=
  if loaded then
    ∃ result, r.executed =
        [⟨r.task.cron.assistantId, r.task.cron.graphThreadId r.task.runId, result⟩] ∧
      ∀ output, result = some output →
        r.checkpoints.lookup (r.task.cron.graphThreadId r.task.runId) = some output
  else r.executed = []

/-- Where a task stands after `get_graph` has answered. -/
def Stands (loaded : Bool) (r : CronRun) : Prop :=
  match r.task.stage with
  | .loading => False
  | .marking | .invoking => loaded = true ∧ r.executed = []
  | .recording _ _ | .done => HasExecuted loaded r

theorem stands_step {loaded : Bool} (hr : Stands loaded r)
    (h : step setting r outcome = some r') : Stands loaded r' := by
  obtain ⟨next, hnext, rfl⟩ := step_eq_some.mp h
  obtain ⟨tables, ⟨runId, cron, stage⟩, checkpoints, executed⟩ := r
  cases stage with
  | loading => exact hr.elim
  | marking =>
    cases outcome with
    | updates committed =>
      cases hnext
      obtain ⟨hloaded, hexecuted⟩ := hr
      exact ⟨hloaded, (List.append_nil _).trans hexecuted⟩
    | loads | returns | raises => cases hnext
  | invoking =>
    obtain ⟨rfl, rfl⟩ : loaded = true ∧ executed = [] := hr
    cases outcome with
    | returns output =>
      cases hnext
      rw [CronTaskMove.execution, checkpointThread_task]
      refine ⟨some output, rfl, ?_⟩
      rintro _ ⟨⟩
      exact List.lookup_cons_self
    | raises message =>
      cases hnext
      rw [CronTaskMove.execution, checkpointThread_task]
      exact ⟨none, rfl, fun _ hnone => by cases hnone⟩
    | loads | updates => cases hnext
  | recording status output =>
    cases outcome with
    | updates committed =>
      cases hnext
      simpa [Stands, HasExecuted, CronTaskMove.execution] using hr
    | loads | returns | raises => cases hnext
  | done => cases outcome <;> cases hnext

/-- The first step of a task. -/
theorem stands_of_loading {tables : CronTables} {cron : Cron} {runId : String}
    {checkpoints : List (String × Option Json)}
    (h : step setting (start tables cron runId checkpoints) outcome = some r') :
    Stands (cron.assistantId ∈ setting.registry.listGraphs && isLoaded [outcome]) r' := by
  obtain ⟨next, hnext, rfl⟩ := step_eq_some.mp h
  cases outcome with
  | loads found =>
    rcases CronTask.step_loads_cases rfl hnext with ⟨hgraph, rfl, rfl⟩ | ⟨hnot, message, rfl⟩
    · have hgraph : cron.assistantId ∈ setting.registry.listGraphs := hgraph
      exact ⟨by simp [hgraph, isLoaded], rfl⟩
    · have hnot : (decide (cron.assistantId ∈ setting.registry.listGraphs) && found) = false := hnot
      simp [Stands, HasExecuted, isLoaded, hnot, CronTaskMove.execution, start]
  | raises message =>
    cases hnext
    simp [Stands, HasExecuted, isLoaded, CronTaskMove.execution, start]
  | returns | updates => cases hnext

/-! ### What is recorded -/

/-- The row of a run that has been committed. -/
theorem records_of_commit {e : CronExecution} (h : t.commitExecution e = some t') :
    t'.db.run? e.run.runId = some e.run ∧ t'.db.assistants = t.db.assistants ∧
      (e.newThread = none → e.run.threadId ∈ t.db.threads.map Thread.threadId) := by
  rw [CronTables.commitExecution] at h
  split at h
  · cases h
  · rename_i db hrows
    cases h
    obtain ⟨hthreads, hruns⟩ := CronExecution.insertRows_eq_some hrows
    obtain ⟨db₁, hthread, hrun⟩ := Option.bind_eq_some_iff.mp hrows
    refine ⟨Database.run?_insertRun hrun, ?_, fun hnone => ?_⟩
    · refine (Database.insertRun_eq_some hrun).2.2.2.trans ?_
      cases hnew : e.newThread with
      | none =>
        rw [hnew] at hthread
        cases hthread
        rfl
      | some thread =>
        rw [hnew] at hthread
        exact (Database.insertThread_eq_some hthread).2.2.2
    · have hmem :=
        db.runs_thread e.run (hruns ▸ List.mem_append_right _ (List.mem_singleton_self _))
      rw [hthreads, hnone, Option.toList_none, List.append_nil] at hmem
      exact hmem

/-- A run is executed on its thread exactly if the thread is that of the cron. -/
theorem graphThreadId_eq_iff {cron : Cron} {runId newThreadId : String}
    (hnew : runId ≠ cron.threadId.getD newThreadId) :
    cron.graphThreadId runId = cron.threadId.getD newThreadId ↔
      cron.threadId.any (· ≠ "") = true := by
  rw [Cron.graphThreadId]
  split
  · rename_i hnone
    simpa [hnone] using hnew
  · rename_i hempty
    simpa [hempty] using hnew
  · rename_i threadId hne hthread
    simp only [hthread, Option.getD_some, Option.any_some, decide_eq_true_eq, true_iff]
    exact hne

/-- The ids of a task do not change. -/
theorem isOf_step {cron : Cron} {runId : String} (hr : IsOf cron runId r)
    (h : step setting r outcome = some r') : IsOf cron runId r' := by
  obtain ⟨next, -, rfl⟩ := step_eq_some.mp h
  exact ⟨hr.cron, hr.runId⟩

/-- A task that has ended has executed its graph if it has loaded it. -/
theorem hasExecuted_of_exec {tables : CronTables} {cron : Cron} {runId : String}
    {checkpoints : List (String × Option Json)} {outcomes : List CronOutcome}
    (hrun : exec (step setting) (start tables cron runId checkpoints) outcomes = some r)
    (hdone : r.task.stage = .done) :
    HasExecuted (cron.assistantId ∈ setting.registry.listGraphs && isLoaded outcomes) r := by
  cases outcomes with
  | nil =>
    rw [← Option.some.inj hrun] at hdone
    cases hdone
  | cons outcome outcomes =>
    obtain ⟨r₁, h₁, hrun⟩ := exec_cons_eq_some.mp hrun
    have hloaded : isLoaded (outcome :: outcomes) = isLoaded [outcome] := by cases outcome <;> rfl
    have hstands := exec_invariant (fun _ _ _ hr _ h => stands_step hr h) (stands_of_loading h₁)
      (along_true _ _) hrun
    rw [Stands, hdone] at hstands
    rw [hloaded]
    exact hstands

/-- **What the run of a cron executes.** No run ever shows its end to the endpoints. It executes
the graph of its assistant on its thread exactly if the assistant has the id of that graph, the
cron has a thread, and the graph is loaded. -/
theorem executes_what_it_records_iff {croniter : Croniter} {cron : Cron} {assistant : Assistant}
    {now : ℕ} {runId newThreadId : String} {checkpoints : List (String × Option Json)}
    {outcomes : List CronOutcome}
    (hassistant : t.db.assistant? cron.assistantId = some assistant)
    (hfresh : runId ∉ t.db.threads.map Thread.threadId) (hne : runId ≠ newThreadId)
    (hcommit : t.commitExecution (cron.execution croniter now runId newThreadId) = some t')
    (hrun : exec (step setting) (start t' cron runId checkpoints) outcomes = some r)
    (hdone : r.task.stage = .done) :
    ¬ (ExecutesItsGraph r ∧ ShowsItsEnd r) ∧
      (ExecutesItsGraph r ↔
        (executesAsRecorded setting.registry assistant cron && isLoaded outcomes) = true) := by
  obtain ⟨hrow, hassistants, hthread⟩ := records_of_commit hcommit
  have hnew : runId ≠ cron.threadId.getD newThreadId := by
    cases hcron : cron.threadId with
    | none => exact hne
    | some threadId =>
      have hmem := hthread (by rw [Cron.execution, hcron])
      rw [Cron.execution, hcron] at hmem
      rintro rfl
      exact hfresh hmem
  have hall : Along (step setting) (fun _ _ => True) (start t' cron runId checkpoints) outcomes :=
    along_true _ _
  have hstart : Records (cron.execution croniter now runId newThreadId).run t.db.assistants
      (start t' cron runId checkpoints) := ⟨⟨_, hrow, rfl, rfl⟩, hassistants⟩
  have hrecords := exec_invariant (fun _ _ _ hr _ h => Records.step hr h) hstart hall hrun
  have hof : IsOf cron runId r :=
    exec_invariant (fun _ _ _ hr _ h => isOf_step hr h) ⟨rfl, rfl⟩ hall hrun
  constructor
  · rintro ⟨-, run, hrow', hterminal⟩
    have hunfinished : LooksUnfinished r := by
      refine exec_invariant (fun _ _ _ hr _ h => hr.step h) ⟨fun run h => ?_, ?_⟩ hall hrun
      · rw [← Option.some.inj (hrow.symm.trans h)]
        rfl
      · rintro _ _ ⟨⟩
    rw [hunfinished.row run hrow'] at hterminal
    cases hterminal
  · obtain ⟨run, hrow', hrunThread, hrunAssistant⟩ := hrecords.row
    have hthread' : cron.graphThreadId runId = run.threadId ↔
        cron.threadId.any (· ≠ "") = true := by
      rw [hrunThread]
      exact graphThreadId_eq_iff hnew
    have hassistant' : run.assistantId.bind r.tables.db.assistant? = some assistant := by
      rw [hrunAssistant]
      show r.tables.db.assistant? cron.assistantId = some assistant
      rw [Database.assistant?, hrecords.assistants]
      exact hassistant
    have hexecuted := hasExecuted_of_exec hrun hdone
    rw [HasExecuted, hof.cron, hof.runId] at hexecuted
    rw [executesAsRecorded]
    constructor
    · rintro ⟨run₁, assistant₁, result₁, hrow₁, hassistant₁, hexecuted₁, -⟩
      obtain rfl := Option.some.inj (hrow'.symm.trans hrow₁)
      obtain rfl := Option.some.inj (hassistant'.symm.trans hassistant₁)
      by_cases hloaded : (decide (cron.assistantId ∈ setting.registry.listGraphs) &&
          isLoaded outcomes) = true
      · rw [if_pos hloaded] at hexecuted
        obtain ⟨result, hexecuted, -⟩ := hexecuted
        obtain ⟨hgraph, hthread₁, -⟩ :=
          GraphExecution.mk.inj (List.singleton_inj.mp (hexecuted.symm.trans hexecuted₁))
        obtain ⟨hregistered, hloaded⟩ := Bool.and_eq_true_iff.mp hloaded
        rw [hthread'.mp hthread₁, hloaded, ← hgraph, hregistered]
        simp
      · rw [if_neg hloaded, hexecuted₁] at hexecuted
        cases hexecuted
    · intro h
      simp only [Bool.and_eq_true, decide_eq_true_eq] at h
      obtain ⟨⟨⟨hgraph, hregistered⟩, hany⟩, hloaded⟩ := h
      rw [if_pos (by simp [hgraph, hregistered, hloaded])] at hexecuted
      obtain ⟨result, hexecuted, hstate⟩ := hexecuted
      rw [hgraph, hthread'.mpr hany] at hexecuted
      rw [hthread'.mpr hany] at hstate
      exact ⟨run, assistant, result, hrow', hassistant', hexecuted, hstate⟩

/-! ### A cron without a thread -/

/-- A cron of Alice, which has no thread of its own. -/
def unthreadedCron : Cron := ⟨"cron", "agent", none, "alice", "0 * * * *", [], some 1, none⟩

/-- The same cron, on the thread of Alice. -/
def threadedCron : Cron := { unthreadedCron with threadId := some "alice-thread" }

/-- The tables after the execution of a cron. -/
def committed (cron : Cron) : Option CronTables :=
  CronScheduler.exampleTables.commitExecution
    (cron.execution CronScheduler.exampleSetting.croniter 1 "run" "new-thread")

/-- The graph is loaded, and returns. -/
def goesWell : List CronOutcome :=
  [.loads true, .updates true, .returns (some .null), .updates true]

/-- The run, when it has gone well. -/
def finished (cron : Cron) : Option CronRun :=
  (committed cron).bind fun tables =>
    exec (step CronScheduler.exampleSetting) (start tables cron "run" []) goesWell

theorem executes_what_it_records_threaded :
    let r := (finished threadedCron).get (by decide)
    ¬ (ExecutesItsGraph r ∧ ShowsItsEnd r) ∧
      (ExecutesItsGraph r ↔ (executesAsRecorded CronScheduler.exampleSetting.registry
        ⟨"agent", "agent"⟩ threadedCron && isLoaded goesWell) = true) := by
  have hassistant : CronScheduler.exampleTables.db.assistant? threadedCron.assistantId =
      some ⟨"agent", "agent"⟩ := by decide
  have hcommit : committed threadedCron = some ((committed threadedCron).get (by decide)) :=
    (Option.some_get _).symm
  have hrun : exec (step CronScheduler.exampleSetting)
      (start ((committed threadedCron).get (by decide)) threadedCron "run" []) goesWell =
        some ((finished threadedCron).get (by decide)) := by
    exact (Option.some_get _).symm
  exact executes_what_it_records_iff hassistant (by decide) (by decide) hcommit hrun rfl

/-- The run of a cron without a thread is executed on a thread named by the run, not on the one
that its row names. -/
theorem executes_elsewhere :
    ¬ ∀ (setting : CronSetting) (t t' : CronTables) (cron : Cron) (assistant : Assistant)
      (croniter : Croniter) (now : ℕ) (runId newThreadId : String)
      (checkpoints : List (String × Option Json)) (outcomes : List CronOutcome) (r : CronRun),
      t.db.assistant? cron.assistantId = some assistant →
      runId ∉ t.db.threads.map Thread.threadId → runId ≠ newThreadId →
      t.commitExecution (cron.execution croniter now runId newThreadId) = some t' →
      exec (step setting) (start t' cron runId checkpoints) outcomes = some r →
      r.task.stage = .done → ExecutesItsGraph r ∧ ShowsItsEnd r := by
  intro h
  obtain ⟨⟨run, assistant, result, hrow, -, hexecuted, -⟩, -⟩ :=
    h CronScheduler.exampleSetting CronScheduler.exampleTables
      ((committed unthreadedCron).get (by decide)) unthreadedCron ⟨"agent", "agent"⟩ _ 1 "run"
      "new-thread" [] goesWell ((finished unthreadedCron).get (by decide)) (by decide) (by decide)
      (by decide) (Option.some_get _).symm (Option.some_get _).symm rfl
  have hthread : (((finished unthreadedCron).get (by decide)).row.map Run.threadId) =
      some "new-thread" := by
    decide
  have hexecution : (((finished unthreadedCron).get (by decide)).executed.map
      GraphExecution.threadId) = ["run"] := by
    decide
  rw [hrow] at hthread
  rw [hexecuted] at hexecution
  have hthread : run.threadId = "new-thread" := Option.some.inj hthread
  have hexecution : run.threadId = "run" := List.singleton_inj.mp hexecution
  exact absurd (hthread.symm.trans hexecution) (by decide)

end CronRun

end OpenLangGraph

import OpenLangGraph.Api.Crons
import OpenLangGraph.Api.Runs
import OpenLangGraph.Foundation.Processes
import OpenLangGraph.Foundation.Transition
import OpenLangGraph.Services.LangGraphService

/-!
# The cron scheduler

The cron requests, the passes of `services/cron_scheduler_service.py` and the tasks that it starts,
as one labelled transition system. A pass selects the due crons, executes them one by one inside
one transaction, and commits; `trigger_cron_now` is a pass over the one cron it names. The task of
an execution is started before the commit and does not wait for it.

## Ids

`uuid4` never returns an id twice, nor the id of a thread that exists. The server keeps the ids it
has been given, and a step with an id that is not fresh is not enabled.

## The thread of an execution

The row of the run names the thread of the cron, or a new one. The graph is executed on the thread
of the cron, or else on a thread named by the *run*: not on the thread that was created for it.

## Main definitions

* `CronScheduler`, `CronLabel`, `CronScheduler.step`
* `CronScheduler.Isolated` — the invariant that carries the check at creation to every execution

## Main results

* `CronScheduler.tenant_isolation` — crons on accessible threads stay on accessible threads
* `CronScheduler.stranger_thread` — nothing checks that the thread of a cron is accessible
-/

namespace OpenLangGraph

open Transition Processes

/-! ### Executions -/

/-- What `_execute_cron` writes for one cron, inside the transaction of its pass. -/
structure CronExecution where
  cronId : String
  newThread : Option Thread
  run : Run
  nextRunDate : Option ℕ

/-- `_execute_cron`, as far as it writes. -/
def Cron.execution (croniter : Croniter) (cron : Cron) (now : ℕ) (runId newThreadId : String) :
    CronExecution :=
  let newThread : Option Thread := match cron.threadId with
    | some _ => none
    | none => some
      { threadId := newThreadId, status := .idle
        metadataJson := [("cron_id", .str cron.cronId), ("auto_created", .bool true)]
        userId := cron.userId, orgId := none }
  { cronId := cron.cronId, newThread
    run :=
      { runId, threadId := cron.threadId.getD newThreadId, assistantId := some cron.assistantId
        orgId := none, status := .pending, input := .obj cron.payload, config := some (.obj [])
        context := some (.obj [("cron_id", .str cron.cronId)]), userId := cron.userId
        output := none, errorMessage := none }
    nextRunDate := croniter.getNext cron.schedule now }

/-- `cron.thread_id or run_id` -/
def Cron.graphThreadId (cron : Cron) (runId : String) : String :=
  match cron.threadId with
  | none | some "" => runId
  | some threadId => threadId

/-- The new rows of an execution: the thread, if there is one, and the run. -/
def CronExecution.insertRows (db : Database) (e : CronExecution) : Option Database :=
  (e.newThread.elim (some db) db.insertThread).bind (·.insertRun e.run)

/-- The rows that are there afterwards. -/
theorem CronExecution.insertRows_eq_some {db db' : Database} {e : CronExecution}
    (h : e.insertRows db = some db') :
    db'.threads = db.threads ++ e.newThread.toList ∧ db'.runs = db.runs ++ [e.run] := by
  obtain ⟨db₁, hthread, hrun⟩ := Option.bind_eq_some_iff.mp h
  obtain ⟨-, hruns, hthreads, -⟩ := Database.insertRun_eq_some hrun
  cases hnew : e.newThread with
  | none =>
    rw [hnew] at hthread
    cases hthread
    exact ⟨by rw [hthreads]; exact (List.append_nil _).symm, hruns⟩
  | some thread =>
    rw [hnew] at hthread
    obtain ⟨-, hthreads', hruns', -⟩ := Database.insertThread_eq_some hthread
    exact ⟨by rw [hthreads, hthreads']; rfl, by rw [hruns, hruns']⟩

theorem CronExecution.mem_insertRows {db db' : Database} {e : CronExecution}
    (h : e.insertRows db = some db') :
    ∀ id ∈ db.threads.map Thread.threadId, id ∈ db'.threads.map Thread.threadId := by
  rw [(insertRows_eq_some h).1, List.map_append]
  exact fun _ => List.mem_append_left _

/-- The statements of an execution take effect. -/
def CronTables.commitExecution (t : CronTables) (e : CronExecution) : Option CronTables :=
  match h : e.insertRows t.db with
  | none => none
  | some db =>
    some ((t.withDb db (CronExecution.mem_insertRows h)).setNextRunDate e.cronId e.nextRunDate)

/-! ### Tasks -/

/-- Where `_execute_run_async` stands. -/
inductive CronTaskStage
  | loading
  | marking
  | invoking
  | recording (status : RunStatus) (output : Option Json)
  | done

/-- The background task of a run. It keeps the cron as it was selected. -/
structure CronTask where
  runId : String
  cron : Cron
  stage : CronTaskStage

/-- What the outside world answers a task. -/
inductive CronOutcome
  /-- `get_graph` returns a graph or `None` -/
  | loads (found : Bool)
  /-- the graph returns, maybe `None` -/
  | returns (output : Option Json)
  | raises (message : String)
  /-- a status update, whose failure is only logged -/
  | updates (committed : Bool)

/-- `output={"error": error}` -/
def errorOutput (message : String) : Option Json := some (.obj [("error", .str message)])

/-- `_update_run_status` -/
def CronTables.updateRunStatus (t : CronTables) (runId : String) (status : RunStatus)
    (output : Option Json) : CronTables :=
  t.withDb (t.db.updateRuns runId
    (fun run => { run with status, output := output.or run.output }) fun _ => ⟨rfl, rfl⟩)
    fun _ => id

/-- The thread on which the graph is executed, as the checkpointer reads it from the
configuration. -/
def CronTask.checkpointThread (tracingCallbacks : List PyVal) (task : CronTask) : Option String :=
  match LangGraphService.createRunConfig tracingCallbacks task.runId
      (task.cron.graphThreadId task.runId) none none none with
  | .error _ => none
  | .ok cfg => LangGraphService.checkpointThread cfg

/-- What a task does in one step: the status and output that it writes, its next stage, and the
thread on which it executes the graph. -/
structure CronTaskMove where
  update : Option (RunStatus × Option Json)
  stage : CronTaskStage
  executesOn : Option String

def CronTask.step (registry : Registry) (tracingCallbacks : List PyVal) (task : CronTask) :
    CronOutcome → Option CronTaskMove
  | .loads found => match task.stage with
    | .loading =>
      let message := "Graph not found: " ++ task.cron.assistantId
      if task.cron.assistantId ∉ registry.listGraphs then
        some ⟨none, .recording .error (errorOutput message), none⟩
      else if found then some ⟨none, .marking, none⟩
      else some ⟨none, .recording .error (errorOutput "Graph not found"), none⟩
    | _ => none
  | .returns output => match task.stage with
    | .invoking =>
      some ⟨none, .recording .success output, task.checkpointThread tracingCallbacks⟩
    | _ => none
  | .raises message => match task.stage with
    | .loading => some ⟨none, .recording .error (errorOutput message), none⟩
    | .invoking =>
      some ⟨none, .recording .error (errorOutput message),
        task.checkpointThread tracingCallbacks⟩
    | _ => none
  | .updates committed => match task.stage with
    | .marking => some ⟨if committed then some (.running, none) else none, .invoking, none⟩
    | .recording status output =>
      some ⟨if committed then some (status, output) else none, .done, none⟩
    | _ => none

/-- What the answer of `get_graph` does. -/
theorem CronTask.step_loads_cases {registry : Registry} {tracingCallbacks : List PyVal}
    {task : CronTask} {next : CronTaskMove} {found : Bool} (hstage : task.stage = .loading)
    (h : task.step registry tracingCallbacks (.loads found) = some next) :
    (task.cron.assistantId ∈ registry.listGraphs ∧ found = true ∧ next = ⟨none, .marking, none⟩) ∨
      ((decide (task.cron.assistantId ∈ registry.listGraphs) && found) = false ∧
        ∃ message, next = ⟨none, .recording .error (errorOutput message), none⟩) := by
  simp only [step, hstage] at h
  by_cases hgraph : task.cron.assistantId ∈ registry.listGraphs
  · rw [if_neg (not_not.mpr hgraph)] at h
    cases found with
    | true => exact .inl ⟨hgraph, rfl, (Option.some.inj h).symm⟩
    | false => exact .inr ⟨Bool.and_false _, _, (Option.some.inj h).symm⟩
  · rw [if_pos hgraph] at h
    exact .inr ⟨by simp [hgraph], _, (Option.some.inj h).symm⟩

/-! ### The server -/

/-- The session of a pass: the crons that are still to be executed, and the transaction. After a
failed statement nothing of it can be committed. -/
structure CronPass where
  due : List Cron
  executions : List CronExecution
  failed : Bool

structure CronScheduler where
  tables : CronTables
  passes : List CronPass
  tasks : List CronTask
  /-- the ids that `uuid4` has returned for threads and for runs -/
  threadIds : List String
  runIds : List String
  /-- on which threads graphs have been executed, and for whom -/
  executed : List (String × String)

/-- What the server is started with. -/
structure CronSetting where
  croniter : Croniter
  registry : Registry
  tracingCallbacks : List PyVal

inductive CronLabel
  | createCron (user : User) (request : CronCreate) (cronId : String) (now : ℕ)
  | createCronForThread (threadId : String) (user : User) (request : CronCreate)
      (cronId : String) (now : ℕ)
  | deleteCron (user : User) (cronId : String)
  /-- `_process_due_crons` selects the due crons -/
  | selectDue (now : ℕ)
  /-- `trigger_cron_now` selects its cron -/
  | trigger (cronId : String)
  | executeCron (i : ℕ) (runId newThreadId : String) (now : ℕ) (flushed : Bool)
  | commit (i : ℕ) (committed : Bool)
  | runTask (i : ℕ) (outcome : CronOutcome)

namespace CronScheduler

/-- A server that has just been started. -/
def idle (tables : CronTables) : CronScheduler := ⟨tables, [], [], [], [], []⟩

/-- No thread has the id, and `uuid4` has not returned it. -/
def isFresh (s : CronScheduler) (id : String) : Bool :=
  id ∉ s.tables.db.threads.map Thread.threadId ∧ id ∉ s.threadIds ∧ id ∉ s.runIds

/-- `next_run_date <= now and (end_time is None or end_time > now)` -/
def isDue (now : ℕ) (cron : Cron) : Bool :=
  cron.nextRunDate.any (· ≤ now) && cron.endTime.all (now < ·)

def step (setting : CronSetting) (s : CronScheduler) : CronLabel → Option CronScheduler
  | .createCron user request cronId now =>
    some { s with tables := (CronTables.createCron setting.croniter s.tables user request cronId
      now).1 }
  | .createCronForThread threadId user request cronId now =>
    some { s with tables := (CronTables.createCronForThread setting.croniter s.tables threadId
      user request cronId now).1 }
  | .deleteCron user cronId => some { s with tables := (s.tables.deleteCron user cronId).1 }
  | .selectDue now =>
    some { s with passes := s.passes ++ [⟨s.tables.crons.filter (isDue now), [], false⟩] }
  | .trigger cronId =>
    some { s with passes := s.passes ++ [⟨s.tables.crons.filter (·.cronId = cronId), [], false⟩] }
  | .executeCron i runId newThreadId now flushed =>
    match s.passes[i]? with
    | some ⟨cron :: due, executions, failed⟩ =>
      if !(s.isFresh runId && s.isFresh newThreadId && runId ≠ newThreadId) then none
      else
        let s := { s with runIds := runId :: s.runIds, threadIds := newThreadId :: s.threadIds }
        if flushed && !failed then
          let e := cron.execution setting.croniter now runId newThreadId
          some { s with passes := s.passes.set i ⟨due, executions ++ [e], false⟩
                        tasks := s.tasks ++ [⟨runId, cron, .loading⟩] }
        else some { s with passes := s.passes.set i ⟨due, executions, true⟩ }
    | _ => none
  | .commit i committed =>
    match s.passes[i]? with
    | some ⟨[], executions, failed⟩ =>
      let tables := if committed && !failed then
        (executions.foldlM CronTables.commitExecution s.tables).getD s.tables else s.tables
      some { s with tables, passes := s.passes.set i ⟨[], [], false⟩ }
    | _ => none
  | .runTask i outcome => do
    let task ← s.tasks[i]?
    let move ← task.step setting.registry setting.tracingCallbacks outcome
    let tables := match move.update with
      | none => s.tables
      | some (status, output) => s.tables.updateRunStatus task.runId status output
    return { s with tables, tasks := s.tasks.set i { task with stage := move.stage }
                    executed := s.executed ++ move.executesOn.toList.map (task.cron.userId, ·) }

/-! ### The invariant -/

/-- The user may see the thread, which exists. -/
def MayUse (db : Database) (user : User) (threadId : String) : Prop :=
  ∃ thread ∈ db.threads, thread.threadId = threadId ∧
    buildThreadAccessFilter user.identity user.orgId thread = true

/-- If the cron is the user's, its thread is one that the user may see. -/
def Harmless (db : Database) (user : User) (cron : Cron) : Prop :=
  cron.userId = user.identity → ∀ threadId, cron.threadId = some threadId →
    MayUse db user threadId

/-- The thread of a run is one that the user may see, or one created with the run for the user. -/
def HarmlessExecution (db : Database) (user : User) (e : CronExecution) : Prop :=
  e.run.userId = user.identity → MayUse db user e.run.threadId ∨
    ∃ thread, e.newThread = some thread ∧ thread.threadId = e.run.threadId ∧
      thread.userId = user.identity

/-- The invariant of the tables: the user's crons, and their runs, are on threads that the user may
see, and no thread has the id of a run. `old` are the runs from before. -/
structure TablesIsolated (user : User) (old runIds : List String) (t : CronTables) : Prop where
  crons : ∀ cron ∈ t.crons, Harmless t.db user cron
  runs : ∀ run ∈ t.db.runs, run.runId ∉ old → run.userId = user.identity →
    MayUse t.db user run.threadId
  ids : ∀ id ∈ runIds, id ∉ t.db.threads.map Thread.threadId

/-- The invariant of the server. A run's id is never the id of a thread, so a graph executed on a
thread named by the run is executed on nobody's thread. -/
structure Isolated (user : User) (old : List String) (s : CronScheduler) : Prop where
  tables : TablesIsolated user old s.runIds s.tables
  due : ∀ pass ∈ s.passes, ∀ cron ∈ pass.due, Harmless s.tables.db user cron
  executions : ∀ pass ∈ s.passes, ∀ e ∈ pass.executions,
    HarmlessExecution s.tables.db user e ∧
      ∀ thread, e.newThread = some thread → thread.threadId ∈ s.threadIds
  tasks : ∀ task ∈ s.tasks, Harmless s.tables.db user task.cron ∧ task.runId ∈ s.runIds
  executed : ∀ e ∈ s.executed, e.1 = user.identity →
    MayUse s.tables.db user e.2 ∨ e.2 ∈ s.runIds
  ids : ∀ id ∈ s.runIds, id ∉ s.threadIds

variable {user : User} {old runIds : List String} {db db' : Database} {t t' : CronTables}

theorem buildThreadAccessFilter_owner {userId : String} {orgId : Option String} {thread : Thread}
    (h : thread.userId = userId) : buildThreadAccessFilter userId orgId thread = true := by
  cases orgId <;> simp [buildThreadAccessFilter, h]

theorem MayUse.mono (hsub : ∀ thread ∈ db.threads, thread ∈ db'.threads) {threadId : String}
    (h : MayUse db user threadId) : MayUse db' user threadId := by
  obtain ⟨thread, hthread, hid, haccess⟩ := h
  exact ⟨thread, hsub thread hthread, hid, haccess⟩

theorem Harmless.mono (hsub : ∀ thread ∈ db.threads, thread ∈ db'.threads) {cron : Cron}
    (h : Harmless db user cron) : Harmless db' user cron :=
  fun huser threadId hthread => (h huser threadId hthread).mono hsub

theorem HarmlessExecution.mono (hsub : ∀ thread ∈ db.threads, thread ∈ db'.threads)
    {e : CronExecution} (h : HarmlessExecution db user e) :
    HarmlessExecution db' user e :=
  fun huser => (h huser).imp_left (MayUse.mono hsub)

/-- A thread that the user may see is, being the only one with its id, any thread with its id. -/
theorem MayUse.accessible {threadId : String} (h : MayUse db user threadId) :
    ∀ thread ∈ db.threads, thread.threadId = threadId →
      buildThreadAccessFilter user.identity user.orgId thread = true := by
  obtain ⟨thread', hthread', hid', haccess⟩ := h
  intro thread hthread hid
  rwa [List.inj_on_of_nodup_map db.threads_unique hthread hthread' (hid.trans hid'.symm)]

/-! ### What a step keeps -/

theorem mem_setNextRunDate {cronId : String} {nextRunDate : Option ℕ} {cron : Cron}
    (h : cron ∈ (t.setNextRunDate cronId nextRunDate).crons) :
    ∃ row ∈ t.crons, cron.userId = row.userId ∧ cron.threadId = row.threadId := by
  obtain ⟨row, hrow, rfl⟩ := List.mem_map.mp h
  refine ⟨row, hrow, ?_⟩
  split <;> exact ⟨rfl, rfl⟩

theorem commitExecution_eq_some {e : CronExecution} (h : t.commitExecution e = some t') :
    t'.db.threads = t.db.threads ++ e.newThread.toList ∧ t'.db.runs = t.db.runs ++ [e.run] ∧
      ∀ cron ∈ t'.crons, ∃ row ∈ t.crons, cron.userId = row.userId ∧
        cron.threadId = row.threadId := by
  rw [CronTables.commitExecution] at h
  split at h
  · cases h
  · rename_i hrows
    cases h
    obtain ⟨hthreads, hruns⟩ := CronExecution.insertRows_eq_some hrows
    exact ⟨hthreads, hruns, fun cron hcron => mem_setNextRunDate hcron⟩

/-- One execution is committed. -/
theorem TablesIsolated.commitExecution {e : CronExecution} (ht : TablesIsolated user old runIds t)
    (he : HarmlessExecution t.db user e)
    (hnew : ∀ thread, e.newThread = some thread → thread.threadId ∉ runIds)
    (h : t.commitExecution e = some t') :
    TablesIsolated user old runIds t' ∧ ∀ thread ∈ t.db.threads, thread ∈ t'.db.threads := by
  obtain ⟨hthreads, hruns, hcrons⟩ := commitExecution_eq_some h
  have hsub : ∀ thread ∈ t.db.threads, thread ∈ t'.db.threads := fun thread hthread => by
    rw [hthreads]
    exact List.mem_append_left _ hthread
  refine ⟨⟨?_, ?_, ?_⟩, hsub⟩
  · intro cron hcron huser threadId hthread
    obtain ⟨row, hrow, hrowUser, hrowThread⟩ := hcrons cron hcron
    exact (ht.crons row hrow (hrowUser ▸ huser) threadId (hrowThread ▸ hthread)).mono hsub
  · rw [hruns]
    refine forall_append (fun _ huser => ?_) fun run hrun hold huser =>
      (ht.runs run hrun hold huser).mono hsub
    rcases he huser with hmay | ⟨thread, hthread, hid, howner⟩
    · exact hmay.mono hsub
    · refine ⟨thread, ?_, hid, buildThreadAccessFilter_owner howner⟩
      rw [hthreads, hthread]
      exact List.mem_append_right _ (List.mem_singleton_self _)
  · intro id hid hmem
    rw [hthreads, List.map_append] at hmem
    rcases List.mem_append.mp hmem with hmem | hmem
    · exact ht.ids id hid hmem
    · obtain ⟨thread, hthread, rfl⟩ := List.mem_map.mp hmem
      exact hnew thread (Option.mem_toList.mp hthread) hid

/-- A transaction is committed. -/
theorem TablesIsolated.commit {executions : List CronExecution}
    (ht : TablesIsolated user old runIds t)
    (he : ∀ e ∈ executions, HarmlessExecution t.db user e ∧
      ∀ thread, e.newThread = some thread → thread.threadId ∉ runIds)
    (h : executions.foldlM CronTables.commitExecution t = some t') :
    TablesIsolated user old runIds t' ∧ ∀ thread ∈ t.db.threads, thread ∈ t'.db.threads := by
  induction executions generalizing t with
  | nil =>
    cases h
    exact ⟨ht, fun _ => id⟩
  | cons e es ih =>
    obtain ⟨t₁, h₁, h⟩ := Option.bind_eq_some_iff.mp h
    obtain ⟨he₀, hes⟩ := List.forall_mem_cons.mp he
    obtain ⟨ht₁, hsub₁⟩ := ht.commitExecution he₀.1 he₀.2 h₁
    obtain ⟨ht', hsub⟩ := ih ht₁ (fun e he => ⟨(hes e he).1.mono hsub₁, (hes e he).2⟩) h
    exact ⟨ht', fun thread hthread => hsub thread (hsub₁ thread hthread)⟩

variable {setting : CronSetting} {s s' : CronScheduler}

/-- Other tables with more threads, in which the invariant of the tables holds. -/
theorem Isolated.withTables (hs : Isolated user old s) {tables : CronTables}
    (htables : TablesIsolated user old s.runIds tables)
    (hsub : ∀ thread ∈ s.tables.db.threads, thread ∈ tables.db.threads) :
    Isolated user old { s with tables } where
  tables := htables
  due pass hpass cron hcron := (hs.due pass hpass cron hcron).mono hsub
  executions pass hpass e he :=
    ⟨(hs.executions pass hpass e he).1.mono hsub, (hs.executions pass hpass e he).2⟩
  tasks task htask := ⟨(hs.tasks task htask).1.mono hsub, (hs.tasks task htask).2⟩
  executed e he huser := (hs.executed e he huser).imp_left (MayUse.mono hsub)
  ids := hs.ids

/-- The crons change, and the new ones are harmless. -/
theorem Isolated.withCrons (hs : Isolated user old s) {tables : CronTables}
    (hdb : tables.db = s.tables.db)
    (hcrons : ∀ cron ∈ tables.crons, cron ∈ s.tables.crons ∨ Harmless s.tables.db user cron) :
    Isolated user old { s with tables } := by
  refine hs.withTables ⟨fun cron hcron => ?_, ?_, ?_⟩ fun thread hthread => hdb ▸ hthread
  · rw [hdb]
    exact (hcrons cron hcron).elim (hs.tables.crons cron) id
  · rw [hdb]
    exact hs.tables.runs
  · rw [hdb]
    exact hs.tables.ids

/-- A cron is created on no thread, or on one that its user may see. -/
theorem Isolated.createWithThread (hs : Isolated user old s) {threadId : Option String}
    {user' : User} {request : CronCreate} {cronId : String} {now : ℕ}
    (hthread : user'.identity = user.identity → setting.croniter.isValid request.schedule = true →
      ∀ id, threadId = some id → ∀ thread ∈ s.tables.db.threads, thread.threadId = id →
        buildThreadAccessFilter user.identity user.orgId thread = true) :
    Isolated user old { s with tables := (CronTables.createWithThread setting.croniter s.tables
      threadId user' request cronId now).1 } := by
  rcases CronTables.createWithThread_cases setting.croniter s.tables threadId user' request cronId
    now with hsame | ⟨hvalid, cron, huser, hcron, hmem, hdb, hcrons⟩
  · rw [hsame]
    exact hs
  · refine hs.withCrons hdb ?_
    rw [hcrons]
    refine forall_append (.inr fun hidentity id hid => ?_) fun _ => .inl
    rw [hcron] at hid
    obtain ⟨thread, hmem, rfl⟩ := List.mem_map.mp (hmem id hid)
    exact ⟨thread, hmem, rfl, hthread (huser ▸ hidentity) hvalid _ hid thread hmem rfl⟩

theorem Isolated.startPass (hs : Isolated user old s) (p : Cron → Bool) :
    Isolated user old { s with passes := s.passes ++ [⟨s.tables.crons.filter p, [], false⟩] } :=
  { hs with
    due := forall_append (fun cron hcron => hs.tables.crons cron (List.mem_of_mem_filter hcron))
      hs.due
    executions := forall_append (fun e he => by cases he) hs.executions }

/-- Two fresh ids are given out. -/
theorem Isolated.issue (hs : Isolated user old s) {runId threadId : String}
    (hrun : s.isFresh runId = true) (hthread : s.isFresh threadId = true)
    (hne : runId ≠ threadId) :
    Isolated user old
      { s with runIds := runId :: s.runIds, threadIds := threadId :: s.threadIds } := by
  obtain ⟨hrunDb, hrunThreads, -⟩ := of_decide_eq_true hrun
  obtain ⟨-, -, hthreadRuns⟩ := of_decide_eq_true hthread
  refine ⟨⟨hs.tables.crons, hs.tables.runs, ?_⟩, hs.due, ?_, ?_, ?_, ?_⟩
  · exact List.forall_mem_cons.mpr ⟨hrunDb, hs.tables.ids⟩
  · intro pass hpass e he
    refine ⟨(hs.executions pass hpass e he).1, fun thread hnew => ?_⟩
    exact List.mem_cons_of_mem _ ((hs.executions pass hpass e he).2 thread hnew)
  · exact fun task htask =>
      ⟨(hs.tasks task htask).1, List.mem_cons_of_mem _ (hs.tasks task htask).2⟩
  · exact fun e he huser => (hs.executed e he huser).imp_right (List.mem_cons_of_mem _)
  · rw [List.forall_mem_cons]
    constructor
    · rw [List.mem_cons]
      rintro (h | h)
      · exact hne h
      · exact hrunThreads h
    · intro id hid
      rw [List.mem_cons]
      rintro (rfl | h)
      · exact hthreadRuns hid
      · exact hs.ids id hid h

/-- What `_execute_cron` does: it writes for the next cron of the pass and starts the task, or the
transaction of the pass fails. -/
theorem step_executeCron {i : ℕ} {runId newThreadId : String} {now : ℕ} {flushed : Bool}
    (h : step setting s (.executeCron i runId newThreadId now flushed) = some s') :
    ∃ cron due executions failed, s.passes[i]? = some ⟨cron :: due, executions, failed⟩ ∧
      s.isFresh runId = true ∧ s.isFresh newThreadId = true ∧ runId ≠ newThreadId ∧
      let issued : CronScheduler :=
        { s with runIds := runId :: s.runIds, threadIds := newThreadId :: s.threadIds }
      ((flushed && !failed) = true ∧
          s' = { issued with
                 passes := s.passes.set i ⟨due, executions ++
                   [cron.execution setting.croniter now runId newThreadId], false⟩
                 tasks := s.tasks ++ [⟨runId, cron, .loading⟩] } ∨
        (flushed && !failed) = false ∧
          s' = { issued with passes := s.passes.set i ⟨due, executions, true⟩ }) := by
  rw [step.eq_def] at h
  dsimp only at h
  split at h
  · rename_i cron due executions failed hpass
    split at h
    · cases h
    · rename_i hfresh
      simp only [Bool.not_eq_true', Bool.not_eq_false, Bool.and_eq_true, ne_eq,
        decide_eq_true_eq] at hfresh
      refine ⟨cron, due, executions, failed, hpass, hfresh.1.1, hfresh.1.2, hfresh.2, ?_⟩
      split at h
      · rename_i hok
        exact .inl ⟨hok, (Option.some.inj h).symm⟩
      · rename_i hok
        exact .inr ⟨Bool.eq_false_iff.mpr hok, (Option.some.inj h).symm⟩
  · cases h

theorem Isolated.executeCron (hs : Isolated user old s) {i : ℕ} {runId newThreadId : String}
    {now : ℕ} {flushed : Bool}
    (h : step setting s (.executeCron i runId newThreadId now flushed) = some s') :
    Isolated user old s' := by
  obtain ⟨cron, due, executions, failed, hpass, hrun, hthread, hne, hs'⟩ := step_executeCron h
  have hissued := hs.issue hrun hthread hne
  have hmem := List.mem_of_getElem? hpass
  obtain ⟨hcron, hdue⟩ := List.forall_mem_cons.mp (hissued.due _ hmem)
  have hold := hissued.executions _ hmem
  rcases hs' with ⟨-, rfl⟩ | ⟨-, rfl⟩
  · refine ⟨hissued.tables, forall_set hdue hissued.due, forall_set ?_ hissued.executions,
      forall_append ⟨hcron, List.mem_cons_self⟩ hissued.tasks, hissued.executed, hissued.ids⟩
    -- the new execution is on the cron's thread, or on a new one
    refine forall_append ⟨fun huser => ?_, fun thread hnew => ?_⟩ hold
    · cases hcronThread : cron.threadId with
      | none => exact .inr ⟨_, by rw [Cron.execution, hcronThread], by
          rw [Cron.execution, hcronThread]; rfl, huser⟩
      | some threadId =>
        refine .inl ?_
        show MayUse _ _ (cron.threadId.getD newThreadId)
        rw [hcronThread]
        exact hcron huser threadId hcronThread
    · rw [Cron.execution] at hnew
      cases hcronThread : cron.threadId with
      | none =>
        rw [hcronThread] at hnew
        cases hnew
        exact List.mem_cons_self
      | some threadId =>
        rw [hcronThread] at hnew
        cases hnew
  · exact { hissued with
      due := forall_set hdue hissued.due
      executions := forall_set hold hissued.executions }

theorem Isolated.commit (hs : Isolated user old s) {i : ℕ} {committed : Bool}
    (h : step setting s (.commit i committed) = some s') : Isolated user old s' := by
  rw [step.eq_def] at h
  dsimp only at h
  split at h
  · rename_i executions failed hpass
    have hexecutions := hs.executions _ (List.mem_of_getElem? hpass)
    obtain rfl := (Option.some.inj h).symm
    have hclosed : ∀ s : CronScheduler, Isolated user old s →
        Isolated user old { s with passes := s.passes.set i ⟨[], [], false⟩ } := fun s hs =>
      { hs with
        due := forall_set (fun cron hcron => by cases hcron) hs.due
        executions := forall_set (fun e he => by cases he) hs.executions }
    have hcommitted : Isolated user old { s with tables := if committed && !failed then
        (executions.foldlM CronTables.commitExecution s.tables).getD s.tables else s.tables } := by
      by_cases hok : (committed && !failed) = true
      · rw [if_pos hok]
        cases hcommit : executions.foldlM CronTables.commitExecution s.tables with
        | none => exact hs
        | some tables =>
          obtain ⟨htables, hsub⟩ := hs.tables.commit (fun e he =>
            ⟨(hexecutions e he).1, fun thread hnew hid =>
              hs.ids _ hid ((hexecutions e he).2 thread hnew)⟩) hcommit
          exact hs.withTables htables hsub
      · rw [if_neg hok]
        exact hs
    exact hclosed _ hcommitted
  · cases h

/-- A graph is executed on the thread of the cron, or on one named by the run. -/
theorem checkpointThread_eq_some {tracingCallbacks : List PyVal} {task : CronTask}
    {threadId : String} (h : task.checkpointThread tracingCallbacks = some threadId) :
    task.cron.threadId = some threadId ∨ threadId = task.runId := by
  rw [CronTask.checkpointThread] at h
  have hcases := LangGraphService.createRunConfig_cases tracingCallbacks task.runId
    (task.cron.graphThreadId task.runId) none none none
  split at h
  · cases h
  · rename_i cfg hcfg
    rw [hcfg] at hcases
    dsimp only at hcases
    rw [LangGraphService.checkpointThread, hcases] at h
    obtain rfl : task.cron.graphThreadId task.runId = threadId := Option.some.inj h
    rw [Cron.graphThreadId]
    split
    · exact .inr rfl
    · exact .inr rfl
    · rename_i threadId _ hthread
      exact .inl hthread

theorem executesOn_cases {registry : Registry} {tracingCallbacks : List PyVal} {task : CronTask}
    {outcome : CronOutcome} {move : CronTaskMove}
    (h : task.step registry tracingCallbacks outcome = some move) :
    move.executesOn = none ∨ move.executesOn = task.checkpointThread tracingCallbacks := by
  rw [CronTask.step.eq_def] at h
  cases outcome with
  | loads found =>
    cases hstage : task.stage with
    | loading =>
      rw [hstage] at h
      dsimp only at h
      split at h
      · cases h
        exact .inl rfl
      · split at h <;> cases h <;> exact .inl rfl
    | marking | invoking | recording | done => simp [hstage] at h
  | returns output =>
    cases hstage : task.stage with
    | invoking =>
      simp only [hstage] at h
      cases h
      exact .inr rfl
    | loading | marking | recording | done => simp [hstage] at h
  | raises message =>
    cases hstage : task.stage with
    | loading =>
      simp only [hstage] at h
      cases h
      exact .inl rfl
    | invoking =>
      simp only [hstage] at h
      cases h
      exact .inr rfl
    | marking | recording | done => simp [hstage] at h
  | updates committed =>
    cases hstage : task.stage with
    | marking | recording =>
      simp only [hstage] at h
      cases h
      exact .inl rfl
    | loading | invoking | done => simp [hstage] at h

theorem TablesIsolated.updateRunStatus (ht : TablesIsolated user old runIds t) (runId : String)
    (status : RunStatus) (output : Option Json) :
    TablesIsolated user old runIds (t.updateRunStatus runId status output) := by
  refine ⟨ht.crons, fun run hrun hold huser => ?_, ht.ids⟩
  obtain ⟨row, hrow, rfl⟩ := List.mem_map.mp hrun
  by_cases hid : row.runId = runId
  · rw [if_pos hid] at hold huser ⊢
    exact ht.runs row hrow hold huser
  · rw [if_neg hid] at hold huser ⊢
    exact ht.runs row hrow hold huser

theorem Isolated.runTask (hs : Isolated user old s) {i : ℕ} {outcome : CronOutcome}
    (h : step setting s (.runTask i outcome) = some s') : Isolated user old s' := by
  obtain ⟨task, htask, h⟩ := Option.bind_eq_some_iff.mp h
  obtain ⟨move, hmove, h⟩ := Option.bind_eq_some_iff.mp h
  obtain rfl := (Option.some.inj h).symm
  obtain ⟨hcron, hrun⟩ := hs.tasks task (List.mem_of_getElem? htask)
  have hwritten : Isolated user old { s with tables := match move.update with
      | none => s.tables
      | some (status, output) => s.tables.updateRunStatus task.runId status output } := by
    cases move.update with
    | none => exact hs
    | some update =>
      exact hs.withTables (hs.tables.updateRunStatus task.runId update.1 update.2) fun _ => id
  have hthreads : (match move.update with
      | none => s.tables
      | some (status, output) =>
        s.tables.updateRunStatus task.runId status output).db.threads = s.tables.db.threads := by
    cases move.update <;> rfl
  refine { hwritten with
    tasks := forall_set ⟨hcron.mono fun thread hthread => ?_, hrun⟩ hwritten.tasks
    executed := fun e he huser => ?_ }
  · rw [hthreads]
    exact hthread
  · rcases List.mem_append.mp he with he | he
    · exact hwritten.executed e he huser
    · obtain ⟨threadId, hthread, rfl⟩ := List.mem_map.mp he
      rcases executesOn_cases hmove with hnone | hsome
      · rw [hnone] at hthread
        cases hthread
      · rw [hsome, Option.mem_toList] at hthread
        rcases checkpointThread_eq_some hthread with hid | rfl
        · refine .inl ((hcron huser threadId hid).mono fun thread hthread => ?_)
          rw [hthreads]
          exact hthread
        · exact .inr hrun

/-! ### Isolation -/

/-- If the user asks for a cron on a thread, and the schedule is accepted, then the user may see
every thread with that id. -/
def namesAccessibleThread (setting : CronSetting) (user : User) (s : CronScheduler) :
    CronLabel → Bool
  | .createCronForThread threadId user' request _ _ =>
    user'.identity ≠ user.identity || !setting.croniter.isValid request.schedule ||
      s.tables.db.threads.all fun thread =>
        thread.threadId ≠ threadId || buildThreadAccessFilter user.identity user.orgId thread
  | _ => true

/-- **The invariant** is kept by every step in which the user asks for no other thread. -/
theorem isolated_step (a : CronLabel) (hs : Isolated user old s)
    (ha : namesAccessibleThread setting user s a = true) (h : step setting s a = some s') :
    Isolated user old s' := by
  cases a with
  | createCron user' request cronId now =>
    cases h
    exact hs.createWithThread fun _ _ id hid => by cases hid
  | createCronForThread threadId user' request cronId now =>
    cases h
    refine hs.createWithThread fun hidentity hvalid id hid thread hthread hthreadId => ?_
    simp only [namesAccessibleThread, hidentity, hvalid, ne_eq, not_true_eq_false, decide_false,
      Bool.not_true, Bool.false_or, List.all_eq_true, Bool.or_eq_true, decide_eq_true_eq] at ha
    refine (ha thread hthread).resolve_left fun hne => hne ?_
    rw [hthreadId]
    exact (Option.some.inj hid).symm
  | deleteCron user' cronId =>
    cases h
    obtain ⟨hdb, hcrons⟩ := s.tables.deleteCron_cases user' cronId
    exact hs.withCrons hdb fun cron hcron => .inl (hcrons cron hcron)
  | selectDue now =>
    cases h
    exact hs.startPass _
  | trigger cronId =>
    cases h
    exact hs.startPass _
  | executeCron i runId newThreadId now flushed => exact hs.executeCron h
  | commit i committed => exact hs.commit h
  | runTask i outcome => exact hs.runTask h

/-- The server has just been started, and the user has no crons. -/
theorem isolated_idle {tables : CronTables}
    (hnew : ∀ cron ∈ tables.crons, cron.userId ≠ user.identity) :
    Isolated user (tables.db.runs.map Run.runId) (idle tables) := by
  refine ⟨⟨fun cron hcron huser => absurd huser (hnew cron hcron), fun run hrun hold => ?_, ?_⟩,
    ?_, ?_, ?_, ?_, ?_⟩
  · exact absurd (List.mem_map_of_mem hrun) hold
  all_goals
    intro x hx
    cases hx

/-- **Tenant isolation.** While every thread that the user asks crons for is one that the user may
see, no cron of the user adds a run to any other thread, or executes a graph on it. -/
theorem tenant_isolation {tables : CronTables} {labels : List CronLabel}
    (hnew : ∀ cron ∈ tables.crons, cron.userId ≠ user.identity)
    (hlabels : Along (step setting) (fun s a => namesAccessibleThread setting user s a = true)
      (idle tables) labels)
    (h : exec (step setting) (idle tables) labels = some s) :
    ∀ thread ∈ s.tables.db.threads,
      buildThreadAccessFilter user.identity user.orgId thread = false →
      (∀ run ∈ s.tables.db.runs, run.runId ∉ tables.db.runs.map Run.runId →
        run.userId = user.identity → run.threadId ≠ thread.threadId) ∧
      (user.identity, thread.threadId) ∉ s.executed := by
  have hs : Isolated user (tables.db.runs.map Run.runId) s :=
    exec_invariant (fun s a s' hs ha h => isolated_step a hs ha h) (isolated_idle hnew) hlabels h
  intro thread hthread haccess
  have hno : ¬ MayUse s.tables.db user thread.threadId := fun hmay => by
    rw [hmay.accessible thread hthread rfl] at haccess
    cases haccess
  constructor
  · intro run hrun hold huser hid
    exact hno (hid ▸ hs.tables.runs run hrun hold huser)
  · intro he
    rcases hs.executed _ he rfl with hmay | hrun
    · exact hno hmay
    · exact hs.tables.ids _ hrun (List.mem_map_of_mem hthread)

/-! ### A cron on another's thread -/

/-- A cron for every hour, counted in hours. -/
def exampleSetting : CronSetting :=
  ⟨⟨fun _ => true, fun _ now => some (now + 1)⟩, ⟨["agent"], id⟩, []⟩

/-- Alice's thread and Bob's. -/
def exampleTables : CronTables where
  db :=
    { assistants := [⟨"agent", "agent"⟩]
      threads :=
        [⟨"alice-thread", .idle, [], "alice", none⟩, ⟨"bob-thread", .idle, [], "bob", none⟩]
      runs := []
      threads_unique := by decide
      runs_unique := List.nodup_nil
      runs_thread := by decide }
  crons := []
  crons_thread := by simp

/-- Alice asks for a cron on a thread, and an hour later the scheduler executes it. -/
def hourly (threadId : String) : List CronLabel :=
  [.createCronForThread threadId ⟨"alice", none⟩
      ⟨"agent", "0 * * * *", some [], none, none, none, none, none, none⟩ "cron" 0,
    .selectDue 1, .executeCron 0 "run" "new-thread" 1 true, .commit 0 true,
    .runTask 0 (.loads true), .runTask 0 (.updates true), .runTask 0 (.returns none),
    .runTask 0 (.updates true)]

theorem tenant_isolation_own_thread :
    (∀ run ∈ ((exec (step exampleSetting) (idle exampleTables)
        (hourly "alice-thread")).get (by decide)).tables.db.runs,
      run.runId ∉ exampleTables.db.runs.map Run.runId → run.userId = "alice" →
      run.threadId ≠ "bob-thread") ∧
    ("alice", "bob-thread") ∉ ((exec (step exampleSetting) (idle exampleTables)
      (hourly "alice-thread")).get (by decide)).executed :=
  have hnew : ∀ cron ∈ exampleTables.crons, cron.userId ≠ (⟨"alice", none⟩ : User).identity := by
    decide
  tenant_isolation hnew (by decide) (Option.some_get _).symm
    ⟨"bob-thread", .idle, [], "bob", none⟩ (.tail _ (.head _)) (by decide)

/-- Alice asks for a cron on Bob's thread: the scheduler adds a run to it and executes a graph on
it. -/
theorem stranger_thread :
    ¬ ∀ (setting : CronSetting) (user : User) (tables : CronTables) (labels : List CronLabel)
      (s : CronScheduler), (∀ cron ∈ tables.crons, cron.userId ≠ user.identity) →
      exec (step setting) (idle tables) labels = some s →
      ∀ thread ∈ s.tables.db.threads,
        buildThreadAccessFilter user.identity user.orgId thread = false →
        (∀ run ∈ s.tables.db.runs, run.runId ∉ tables.db.runs.map Run.runId →
          run.userId = user.identity → run.threadId ≠ thread.threadId) ∧
        (user.identity, thread.threadId) ∉ s.executed := by
  intro h
  have hrun : (exec (step exampleSetting) (idle exampleTables) (hourly "bob-thread")).any
      (fun s => s.tables.db.threads.any (fun thread => thread.threadId = "bob-thread" &&
        !buildThreadAccessFilter "alice" none thread) &&
        ("alice", "bob-thread") ∈ s.executed) = true := by
    decide
  obtain ⟨s, hs, hstranger⟩ := (Option.any_eq_true _ _).mp hrun
  obtain ⟨hthread, hexecuted⟩ := Bool.and_eq_true_iff.mp hstranger
  obtain ⟨thread, hthread, haccess⟩ := List.any_eq_true.mp hthread
  simp only [Bool.and_eq_true, decide_eq_true_eq, Bool.not_eq_true'] at haccess
  have hclaim := h exampleSetting ⟨"alice", none⟩ exampleTables _ s (by decide) hs thread hthread
    haccess.2
  refine hclaim.2 ?_
  rw [haccess.1]
  exact of_decide_eq_true hexecuted

end CronScheduler

end OpenLangGraph

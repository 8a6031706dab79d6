import OpenLangGraph.Api.RunServer
import OpenLangGraph.Services.CronScheduler

/-!
# The deletion of a thread

`delete_thread`, the cleanup of expired threads, and the runs that execute meanwhile: the run
server of `RunServer` with these two, the requests that create threads and set their time to live,
and the tasks of the cron scheduler.

## What a deletion stops

`delete_thread` selects the active runs of the thread that belong to the *caller*. It cancels and
awaits those of their tasks that it finds in `active_runs`, and then deletes the row of the thread,
with the rows of its runs. The cleanup deletes the rows and stops no task.

## Ids

`uuid4` never returns the id of a thread that has been deleted.

## Main definitions

* `ThreadDeletion.State`, `ThreadDeletion.Label`, `ThreadDeletion.step`
* `ThreadDeletion.NoneOutlives`
* `ThreadDeletion.leavesNone` — the condition on a step

## Main results

* `ThreadDeletion.none_outlives_iff` — in which runs of the server no run outlives its thread
-/

namespace OpenLangGraph

open Runs Transition Processes

namespace ThreadDeletion

/-! ### The processes -/

/-- The next thing `delete_thread` does. -/
inductive DeletionStage
  | checking
  | selecting
  /-- `signal_run_cancelled` for a run, with the runs that come after it -/
  | signalling (runId : String) (rest : List String)
  /-- `_update_run_status` of the streaming service -/
  | sharing (runId : String) (rest : List String)
  /-- the task at this position is awaited -/
  | awaiting (k : ℕ) (rest : List String)
  | deleting
  | replied
  | failed (error : RequestError)

/-- A `DELETE` request. -/
structure Deletion where
  user : User
  threadId : String
  stage : DeletionStage
  /-- the positions of the tasks that it has taken out of `active_runs` and cancelled -/
  taken : List ℕ

/-- The task of a cron's run. -/
structure Scheduled where
  threadId : String
  task : CronTask

/-- `thread.expires_at` and `thread.ttl_strategy` -/
structure Ttl where
  expiresAt : ℕ
  strategy : Option String

/-- A thread that has been deleted, and how many creation requests there were before. -/
structure Deleted where
  threadId : String
  creations : ℕ

structure State where
  server : Server
  scheduled : List Scheduled
  deletions : List Deletion
  /-- the ids of the expired threads that each pass of the cleanup is about to delete -/
  cleanups : List (List String)
  ttls : List (String × Ttl)
  deleted : List Deleted

/-- What the server is started with. -/
structure Setting where
  server : OpenLangGraph.Setting
  croniter : Croniter
  tracingCallbacks : List PyVal

inductive Label
  /-- a step of a run request or of an executor -/
  | server (l : OpenLangGraph.Label)
  | createThread (thread : Thread)
  | setTtl (threadId : String) (ttl : Ttl)
  /-- the scheduler adds a run of a cron and starts its task -/
  | fire (cron : Cron) (now : ℕ) (runId newThreadId : String)
  | runCron (i : ℕ) (outcome : CronOutcome)
  | requestDelete (user : User) (threadId : String)
  | delete (i : ℕ) (ok : Bool)
  /-- `_cleanup_expired_threads` selects the expired threads -/
  | selectExpired (now : ℕ)
  | cleanUp (i : ℕ) (ok : Bool)

/-! ### `delete_thread` -/

namespace Deletion

/-- The runs of the second query. -/
def activeRuns (db : Database) (d : Deletion) : List String :=
  (db.runs.filter fun run =>
    run.threadId = d.threadId && run.userId = d.user.identity && run.status.isActive).map Run.runId

/-- The turn of the next run, or the end of the loop. -/
def next : List String → DeletionStage
  | [] => .deleting
  | runId :: rest => .signalling runId rest

/-- `active_runs.pop(run_id, None)`, and what is done with the task. -/
def take (tasks : List Task) (d : Deletion) (runId : String) (rest : List String) :
    List Task × Deletion :=
  match tasks.zipIdx.find? fun p => p.1.runId = runId && p.1.listed with
  | none => (tasks, { d with stage := next rest })
  | some (task, k) =>
    if task.isDone then (tasks.set k { task with listed := false }, { d with stage := next rest })
    else
      (tasks.set k { task with listed := false, cancelRequested := true },
        { d with stage := .awaiting k rest, taken := k :: d.taken })

/-- One step before the thread is deleted; `ok` says whether what is awaited succeeds. The
exceptions of the streaming service are swallowed, and so is the one of the task. -/
def step (db : Database) (tasks : List Task) (d : Deletion) (ok : Bool) :
    Option (Database × List Task × Deletion) :=
  match d.stage with
  | .checking =>
    match (db.thread? d.threadId).filter (·.userId = d.user.identity) with
    | none => some (db, tasks, { d with stage := .failed (.httpException 404
        ("Thread '" ++ d.threadId ++ "' not found")) })
    | some _ => some (db, tasks, { d with stage := .selecting })
  | .selecting => some (db, tasks, { d with stage := next (d.activeRuns db) })
  | .signalling runId rest =>
    if ok then some (db, tasks, { d with stage := .sharing runId rest })
    else some (db, d.take tasks runId rest)
  | .sharing runId rest =>
    some (if ok then updateRunStatus db runId .cancelled none none else db,
      d.take tasks runId rest)
  | .awaiting k rest =>
    if (tasks[k]?).any Task.isDone then some (db, tasks, { d with stage := next rest }) else none
  | .deleting | .replied | .failed _ => none

end Deletion

/-! ### The cleanup -/

/-- The thread is to be deleted: `expires_at <= now`, and `ttl_strategy or "delete"`. -/
def Ttl.deletes (now : ℕ) (ttl : Ttl) : Bool :=
  ttl.expiresAt ≤ now && (ttl.strategy.filter (· ≠ "")).getD "delete" = "delete"

/-- The expired threads that are deleted. -/
def State.expired (s : State) (now : ℕ) : List String :=
  (s.server.db.threads.map Thread.threadId).filter fun threadId =>
    (s.ttls.lookup threadId).any (·.deletes now)

/-! ### The server -/

/-- The task of a cron's run is done. -/
def Scheduled.isDone (scheduled : Scheduled) : Bool :=
  match scheduled.task.stage with
  | .done => true
  | _ => false

namespace State

/-- A server that has just been started. -/
def start (db : Database) : State := ⟨.idle db, [], [], [], [], []⟩

def withDb (s : State) (db : Database) : State := { s with server := { s.server with db } }

/-- The row of a thread is deleted, if it is there. -/
def deleteThread (s : State) (threadId : String) : State :=
  if threadId ∈ s.server.db.threads.map Thread.threadId then
    { s.withDb (s.server.db.deleteThread threadId) with
      deleted := ⟨threadId, s.server.creations.length⟩ :: s.deleted }
  else s

/-- The thread has been deleted. -/
def isDeleted (s : State) (threadId : String) : Bool := threadId ∈ s.deleted.map Deleted.threadId

end State

theorem keys_recorded (status : RunStatus) (output : Option Json) (run : Run) :
    ({ run with status, output := output.or run.output } : Run).runId = run.runId ∧
      ({ run with status, output := output.or run.output } : Run).threadId = run.threadId :=
  ⟨rfl, rfl⟩

/-- `_update_run_status` of the scheduler. -/
def recordCron (db : Database) (runId : String) : Option (RunStatus × Option Json) → Database
  | none => db
  | some (status, output) => db.updateRuns runId
      (fun run => { run with status, output := output.or run.output }) (keys_recorded status output)

def step (setting : Setting) (s : State) : Label → Option State
  | .server l => (Server.step setting.server s.server l).map fun server => { s with server }
  | .createThread thread =>
    if s.isDeleted thread.threadId then none
    else (s.server.db.insertThread thread).map s.withDb
  | .setTtl threadId ttl => some { s with ttls := (threadId, ttl) :: s.ttls }
  | .fire cron now runId newThreadId =>
    if s.isDeleted newThreadId then none
    else
      let e := cron.execution setting.croniter now runId newThreadId
      (e.insertRows s.server.db).map fun db =>
        { s.withDb db with
          scheduled := s.scheduled ++ [⟨e.run.threadId, ⟨runId, cron, .loading⟩⟩] }
  | .runCron i outcome => do
    let scheduled ← s.scheduled[i]?
    let move ← scheduled.task.step setting.server.registry setting.tracingCallbacks outcome
    return { s.withDb (recordCron s.server.db scheduled.task.runId move.update) with
             scheduled := s.scheduled.set i
               { scheduled with task := { scheduled.task with stage := move.stage } } }
  | .requestDelete user threadId =>
    some { s with deletions := s.deletions ++ [⟨user, threadId, .checking, []⟩] }
  | .delete i ok => do
    let d ← s.deletions[i]?
    match d.stage with
    | .deleting =>
      return { (if ok then s.deleteThread d.threadId else s) with
               deletions := s.deletions.set i
                 { d with stage := if ok then .replied else .failed .integrityError } }
    | _ =>
      let (db, tasks, d) ← d.step s.server.db s.server.tasks ok
      return { s with server := { s.server with db, tasks }, deletions := s.deletions.set i d }
  | .selectExpired now => some { s with cleanups := s.cleanups ++ [s.expired now] }
  | .cleanUp i ok => do
    let threadIds ← s.cleanups[i]?
    return { (if ok then threadIds.foldl State.deleteThread s else s) with
             cleanups := s.cleanups.set i [] }

/-! ### What is asked of the server -/

namespace State

/-- A task of the thread is live that is not one of those at the positions `taken`. -/
def isLiveBeside (s : State) (taken : List ℕ) (threadId : String) : Bool :=
  (s.server.tasks.zipIdx.any fun p =>
    p.1.threadId = threadId && !p.1.isDone && !taken.contains p.2) ||
    s.scheduled.any fun scheduled => scheduled.threadId = threadId && !scheduled.isDone

/-- A task of the thread is live. -/
def isLive (s : State) (threadId : String) : Bool := s.isLiveBeside [] threadId

end State

/-- **No run outlives its thread**: when a thread has been deleted, no task of a run of it is
executing, and no later request creates a run on it. -/
def NoneOutlives (s : State) : Prop :=
  ∀ d ∈ s.deleted, s.isLive d.threadId = false ∧
    ∀ j c, d.creations ≤ j → s.server.creations[j]? = some c → c.threadId = d.threadId →
      c.stage ≠ .succeeded

/-- The row of the thread is not there, or no task of it is live that is not one of those at the
positions `taken`. -/
def State.mayDelete (s : State) (taken : List ℕ) (threadId : String) : Bool :=
  threadId ∉ s.server.db.threads.map Thread.threadId || !s.isLiveBeside taken threadId

/-- A deletion that takes effect has taken all live tasks of the thread. The cleanup deletes only
threads without a live task. A creation request starts its task only if its thread has not been
deleted since the row of the run was added. -/
def leavesNone (s : State) : Label → Bool
  | .server (.create i) => (s.server.creations[i]?).all fun c =>
    c.spawned.all fun task => !s.isDeleted task.threadId
  | .delete i true => (s.deletions[i]?).all fun d =>
    match d.stage with
    | .deleting => s.mayDelete d.taken d.threadId
    | _ => true
  | .cleanUp i true => (s.cleanups[i]?).all fun threadIds => threadIds.all (s.mayDelete [])
  | _ => true

/-! ### Tasks grow older -/

/-- Every task is still there, and one that was done is done. -/
def Ages (tasks tasks' : List Task) : Prop :=
  tasks'.length = tasks.length ∧
    ∀ (k : ℕ) (task task' : Task), tasks[k]? = some task → tasks'[k]? = some task' →
      task'.threadId = task.threadId ∧ (task.isDone = true → task'.isDone = true)

variable {tasks tasks' : List Task} {k : ℕ} {task task' : Task}

theorem Ages.refl (tasks : List Task) : Ages tasks tasks := by
  refine ⟨rfl, fun k task task' h h' => ?_⟩
  obtain rfl := Option.some.inj (h.symm.trans h')
  exact ⟨rfl, id⟩

theorem Ages.set (h : tasks[k]? = some task) (hthread : task'.threadId = task.threadId)
    (hdone : task.isDone = true → task'.isDone = true) : Ages tasks (tasks.set k task') := by
  refine ⟨List.length_set, fun j old new hold hnew => ?_⟩
  rcases getElem?_set_cases hnew with ⟨rfl, rfl⟩ | ⟨-, hnew⟩
  · obtain rfl := Option.some.inj (h.symm.trans hold)
    exact ⟨hthread, hdone⟩
  · obtain rfl := Option.some.inj (hold.symm.trans hnew)
    exact ⟨rfl, id⟩

theorem Ages.cancelTask (tasks : List Task) (runId : String) :
    Ages tasks (cancelTask tasks runId) := by
  refine ⟨List.length_map .., fun k task task' h h' => ?_⟩
  rw [OpenLangGraph.cancelTask, List.getElem?_map, h, Option.map_some] at h'
  obtain rfl := Option.some.inj h'
  split
  · exact ⟨rfl, id⟩
  · exact ⟨rfl, id⟩

theorem Ages.done (hages : Ages tasks tasks') (h : tasks[k]? = some task)
    (hdone : task.isDone = true) : ∃ task', tasks'[k]? = some task' ∧ task'.isDone = true := by
  have hk : k < tasks'.length := hages.1 ▸ (List.getElem?_eq_some_iff.mp h).1
  have h' := List.getElem?_eq_getElem hk
  exact ⟨_, h', (hages.2 k task _ h h').2 hdone⟩

/-- A task that is live was live before. -/
theorem Ages.was_live (hages : Ages tasks tasks') (h' : tasks'[k]? = some task')
    (hlive : task'.isDone = false) :
    ∃ task, tasks[k]? = some task ∧ task.threadId = task'.threadId ∧ task.isDone = false := by
  have hk : k < tasks.length := hages.1 ▸ (List.getElem?_eq_some_iff.mp h').1
  have h := List.getElem?_eq_getElem hk
  obtain ⟨hthread, hdone⟩ := hages.2 k _ task' h h'
  refine ⟨_, h, hthread.symm, ?_⟩
  rw [← Bool.not_eq_true]
  intro hd
  cases (hdone hd).symm.trans hlive

/-- A task that is done makes no step. -/
theorem isDone_of_step {jsonb : Jsonb} {db db' : Database} {outcome : Outcome}
    (h : task.step jsonb db outcome = some (db', task')) : task.isDone = false := by
  rw [← Bool.not_eq_true]
  intro hdone
  have hex : ∃ result, task.executor = .ended result := by
    rw [Task.isDone] at hdone
    split at hdone
    · exact ⟨_, ‹_›⟩
    · cases hdone
  obtain ⟨result, hex⟩ := hex
  rcases (Task.step_cases h).2.2 with ⟨-, hnext⟩ | ⟨-, hstreaming, -⟩ | ⟨cause, -, -, -, hnext⟩
  · rw [hex] at hnext
    cases hnext
  · rw [hex] at hstreaming
    cases hstreaming
  · rw [hex] at hnext
    cases hnext

/-! ### Creations on a thread that is gone -/

/-- The request has not got past the step at which the thread is read. -/
def isEarly (c : Creation) : Bool :=
  match c.stage with
  | .checking | .rejected _ | .failed _ => true
  | .resolving _ | .settingBusy _ _ | .readingThread _ _ => c.kind ≠ .batch
  | .writingMetadata _ _ | .inserting _ _ | .spawning | .succeeded => false

variable {c : Creation} {db db' : Database} {threadId : String}

theorem thread?_eq_none_iff :
    db.thread? threadId = none ↔ threadId ∉ db.threads.map Thread.threadId := by
  rw [Database.thread?, List.find?_eq_none]
  simp

/-- A request that has not got past the thread does not get past a thread that is gone. -/
theorem isEarly_step {registry : Registry} {stage : CreationStage}
    (h : c.step registry db = some (db', stage)) (hgone : db.thread? c.threadId = none)
    (hearly : isEarly c = true) : isEarly { c with stage } = true := by
  rw [isEarly] at hearly
  cases hstage : c.stage with
  | checking =>
    simp only [Creation.step, hstage] at h
    cases hkind : c.kind with
    | batch =>
      have hcheck : ∃ e, c.check db = .error e := by
        simp [Creation.check, hkind, hgone]
      obtain ⟨e, hcheck⟩ := hcheck
      rw [hcheck] at h
      cases h
      rfl
    | run | stream =>
      split at h
      · cases h
        rfl
      · cases h
        simp [isEarly]
  | resolving loaded =>
    have hkind : c.kind ≠ .batch := by simpa [hstage] using hearly
    simp only [Creation.step, hstage, if_neg hkind] at h
    split at h
    · cases h
      rfl
    · cases h
      simp [isEarly, hkind]
  | settingBusy loaded assistant =>
    have hkind : c.kind ≠ .batch := by simpa [hstage] using hearly
    simp only [Creation.step, hstage] at h
    cases h
    simp [isEarly, hkind]
  | readingThread loaded assistant =>
    simp only [Creation.step, hstage, hgone] at h
    cases h
    rfl
  | writingMetadata | inserting | spawning | succeeded => simp [hstage] at hearly
  | rejected | failed =>
    simp only [Creation.step, hstage] at h
    cases h

/-! ### What a step of the run server does -/

theorem threadIds_moves {stage : CreationStage} (h : c.Moves db db' stage) :
    db'.threads.map Thread.threadId = db.threads.map Thread.threadId := by
  cases h with
  | setBusy => exact Database.map_threadId_updateThreads _ _
  | wrote => exact Database.map_threadId_updateThreads _ _
  | wroteBatch => exact Database.map_threadId_updateThreads _ _
  | inserted _ _ hinsert => rw [(Database.insertRun_eq_some hinsert).2.2.1]
  | insertedBatch _ _ hinsert => rw [(Database.insertRun_eq_some hinsert).2.2.1]
  | _ => rfl

theorem threadIds_write {jsonb : Jsonb} (h : task.write jsonb db = some db') :
    db'.threads.map Thread.threadId = db.threads.map Thread.threadId := by
  rcases Task.write_cases h with ⟨status, output, error, rfl, -⟩ | ⟨status, rfl, -⟩ | rfl
  · rfl
  · exact Database.map_threadId_updateThreads _ _
  · rfl

theorem threadIds_execute {jsonb : Jsonb} {outcome : Outcome}
    (h : task.step jsonb db outcome = some (db', task')) :
    db'.threads.map Thread.threadId = db.threads.map Thread.threadId := by
  rcases (Task.step_cases h).2.2 with ⟨hwrite, -⟩ | ⟨rfl, -⟩ | ⟨cause, applied, -, hwrite, -⟩
  · exact threadIds_write hwrite
  · rfl
  · cases applied with
    | false => exact Option.some.inj hwrite ▸ rfl
    | true => exact threadIds_write hwrite

/-- Every creation request is new, or it is on a thread that exists, or has not got past it. -/
def CreationsFollow (s s' : Server) : Prop :=
  ∀ (j : ℕ) (c' : Creation), s'.creations[j]? = some c' → s.db.thread? c'.threadId = none →
    isEarly c' = true ∨
      ∃ c, s.creations[j]? = some c ∧ c.threadId = c'.threadId ∧
        (isEarly c = true → isEarly c' = true)

theorem CreationsFollow.of_eq {s s' : Server} (h : s'.creations = s.creations) :
    CreationsFollow s s' := by
  intro j c' hc' _
  rw [h] at hc'
  exact .inr ⟨c', hc', rfl, id⟩

/-- The tasks after a step: a creation request has started its task, or none is new. -/
inductive TasksFollow (s s' : Server) : OpenLangGraph.Label → Prop
  | started {i : ℕ} {c : Creation} (hc : s.creations[i]? = some c) (hspawned : c.spawned = [c.task])
      (htasks : s'.tasks = s.tasks ++ [c.task]) : TasksFollow s s' (.create i)
  | aged {l : OpenLangGraph.Label} (hages : Ages s.tasks s'.tasks)
      (hnone : ∀ i c, l = .create i → s.creations[i]? = some c → c.spawned = []) :
      TasksFollow s s' l

theorem aged_create {s : Server} {i : ℕ} {c : Creation} {creations : List Creation}
    (hc : s.creations[i]? = some c) (hspawned : c.spawned = []) :
    TasksFollow s { s with db, tasks := s.tasks ++ c.spawned, creations } (.create i) := by
  refine .aged ?_ fun i' c' hi hc' => ?_
  · rw [hspawned, List.append_nil]
    exact .refl _
  · obtain rfl := OpenLangGraph.Label.create.inj hi
    exact Option.some.inj (hc.symm.trans hc') ▸ hspawned

/-- **What a step of the run server does** to the threads, the creation requests and the tasks. -/
theorem server_step {setting : OpenLangGraph.Setting} {s s' : Server} {l : OpenLangGraph.Label}
    (h : Server.step setting s l = some s') :
    s'.db.threads.map Thread.threadId = s.db.threads.map Thread.threadId ∧
      CreationsFollow s s' ∧ TasksFollow s s' l := by
  cases l with
  | requestRun kind user threadId request runId =>
    cases h
    refine ⟨rfl, fun j c' hc' _ => ?_, .aged (.refl _) (by simp)⟩
    rcases getElem?_append_cases hc' with hc' | ⟨-, rfl⟩
    · exact .inr ⟨c', hc', rfl, id⟩
    · exact .inl rfl
  | create i =>
    obtain ⟨c, hc, h⟩ := Option.bind_eq_some_iff.mp h
    obtain ⟨⟨db, stage⟩, hstep, h⟩ := Option.bind_eq_some_iff.mp h
    obtain rfl := Option.some.inj h
    have hmoves := Creation.moves_of_step hstep
    refine ⟨threadIds_moves hmoves, fun j c' hc' hgone => ?_, ?_⟩
    · rcases getElem?_set_cases hc' with ⟨rfl, rfl⟩ | ⟨-, hc'⟩
      · exact .inr ⟨c, hc, rfl, isEarly_step hstep hgone⟩
      · exact .inr ⟨c', hc', rfl, id⟩
    · rcases hmoves.row_cases with ⟨hspawned, -⟩ | ⟨hspawned, -⟩ | ⟨hspawned, -⟩
      · exact aged_create hc hspawned
      · exact aged_create hc hspawned
      · exact .started hc hspawned (by rw [hspawned])
  | execute i outcome =>
    obtain ⟨task, db, task', htask, hstep, rfl⟩ := Server.step_execute h
    refine ⟨threadIds_execute hstep, .of_eq rfl, .aged (.set htask ?_ ?_) (by simp)⟩
    · exact (Task.step_cases hstep).2.1
    · intro hdone
      cases hdone.symm.trans (isDone_of_step hstep)
  | disconnect runId =>
    rcases Server.step_disconnect h with rfl | rfl
    · exact ⟨rfl, .of_eq rfl, .aged (.refl _) (by simp)⟩
    · exact ⟨rfl, .of_eq rfl, .aged (.cancelTask _ _) (by simp)⟩
  | requestControl endpoint user threadId runId =>
    cases h
    exact ⟨rfl, .of_eq rfl, .aged (.refl _) (by simp)⟩
  | control i ok =>
    obtain ⟨c, db, stage, -, hstep, rfl⟩ := Server.step_control h
    refine ⟨?_, .of_eq rfl, .aged (.refl _) (by simp)⟩
    rcases Control.step_cases hstep with rfl | ⟨action, -, -, rfl⟩
    · rfl
    · rfl
  | requestObserver kind user threadId runId =>
    cases h
    exact ⟨rfl, .of_eq rfl, .aged (.refl _) (by simp)⟩
  | observe i timeout =>
    obtain ⟨o, stage, cancels, -, -, rfl⟩ := Server.step_observe h
    refine ⟨rfl, .of_eq rfl, .aged ?_ (by simp)⟩
    cases cancels with
    | false => exact .refl _
    | true => exact .cancelTask _ _

/-! ### What a step of `delete_thread` does -/

/-- What a step of `delete_thread` does to the tasks, before it deletes the thread. -/
inductive Deletion.Moves (tasks : List Task) (d : Deletion) : List Task → Deletion → Prop
  /-- a query, or a step of the streaming service -/
  | goesOn {stage : DeletionStage} (hstage : ∀ k rest, d.stage ≠ .awaiting k rest) :
      Moves tasks d tasks { d with stage }
  /-- the task of a run is done, and is taken out of `active_runs` -/
  | unlists {k : ℕ} {task : Task} {stage : DeletionStage} (htask : tasks[k]? = some task)
      (hstage : ∀ k rest, d.stage ≠ .awaiting k rest) :
      Moves tasks d (tasks.set k { task with listed := false }) { d with stage }
  /-- the task of a run is cancelled -/
  | takes {k : ℕ} {task : Task} {rest : List String} (htask : tasks[k]? = some task)
      (hstage : ∀ k rest, d.stage ≠ .awaiting k rest) :
      Moves tasks d (tasks.set k { task with listed := false, cancelRequested := true })
        { d with stage := .awaiting k rest, taken := k :: d.taken }
  /-- the task that was awaited is done -/
  | awaited {k : ℕ} {task : Task} {rest : List String} {stage : DeletionStage}
      (hstage : d.stage = .awaiting k rest) (htask : tasks[k]? = some task)
      (hdone : task.isDone = true) : Moves tasks d tasks { d with stage }

variable {d d' : Deletion}

theorem Deletion.moves_take {runId : String} {rest : List String}
    (h : d.take tasks runId rest = (tasks', d'))
    (hstage : ∀ k rest, d.stage ≠ .awaiting k rest) : d.Moves tasks tasks' d' := by
  rw [take] at h
  cases hfind : tasks.zipIdx.find? fun p => p.1.runId = runId && p.1.listed with
  | none =>
    rw [hfind] at h
    cases h
    exact .goesOn hstage
  | some p =>
    obtain ⟨task, k⟩ := p
    have htask := List.mem_zipIdx_iff_getElem?.mp (List.mem_of_find?_eq_some hfind)
    rw [hfind] at h
    dsimp only at h
    split at h
    · cases h
      exact .unlists htask hstage
    · cases h
      exact .takes htask hstage

theorem Deletion.moves_of_step {ok : Bool} (h : d.step db tasks ok = some (db', tasks', d')) :
    db'.threads = db.threads ∧ d.Moves tasks tasks' d' := by
  rw [step] at h
  cases hstage : d.stage with
  | checking =>
    simp only [hstage] at h
    split at h
    · cases h
      exact ⟨rfl, .goesOn (by simp [hstage])⟩
    · cases h
      exact ⟨rfl, .goesOn (by simp [hstage])⟩
  | selecting =>
    simp only [hstage] at h
    cases h
    exact ⟨rfl, .goesOn (by simp [hstage])⟩
  | signalling runId rest =>
    simp only [hstage] at h
    split at h
    · cases h
      exact ⟨rfl, .goesOn (by simp [hstage])⟩
    · obtain ⟨rfl, htake⟩ := Prod.mk.inj (Option.some.inj h)
      exact ⟨rfl, moves_take htake (by simp [hstage])⟩
  | sharing runId rest =>
    simp only [hstage] at h
    obtain ⟨rfl, htake⟩ := Prod.mk.inj (Option.some.inj h)
    refine ⟨?_, moves_take htake (by simp [hstage])⟩
    split <;> rfl
  | awaiting k rest =>
    simp only [hstage] at h
    split at h
    · rename_i hdone
      cases h
      obtain ⟨task, htask, hdone⟩ := (Option.any_eq_true _ _).mp hdone
      exact ⟨rfl, .awaited hstage htask hdone⟩
    · cases h
  | deleting | replied | failed =>
    simp only [hstage] at h
    cases h

theorem Deletion.Moves.ages (h : d.Moves tasks tasks' d') : Ages tasks tasks' := by
  cases h with
  | goesOn => exact .refl _
  | unlists htask => exact .set htask rfl id
  | takes htask => exact .set htask rfl id
  | awaited => exact .refl _

/-- The tasks that a deletion has taken are done, but for the one that it is awaiting. -/
def TakenDone (tasks : List Task) (d : Deletion) : Prop :=
  ∀ k ∈ d.taken, (∃ task, tasks[k]? = some task ∧ task.isDone = true) ∨
    ∃ rest, d.stage = .awaiting k rest

theorem TakenDone.ages (h : TakenDone tasks d) (hages : Ages tasks tasks') :
    TakenDone tasks' d := by
  intro k hk
  rcases h k hk with ⟨task, htask, hdone⟩ | hawaiting
  · exact .inl (hages.done htask hdone)
  · exact .inr hawaiting

/-- Outside of an await, all of them are done. -/
theorem TakenDone.done (h : TakenDone tasks d) (hstage : ∀ k rest, d.stage ≠ .awaiting k rest) :
    ∀ k ∈ d.taken, ∃ task, tasks[k]? = some task ∧ task.isDone = true := by
  intro k hk
  rcases h k hk with hdone | ⟨rest, hawaiting⟩
  · exact hdone
  · exact absurd hawaiting (hstage k rest)

theorem TakenDone.moves (h : TakenDone tasks d) (hmoves : d.Moves tasks tasks' d') :
    TakenDone tasks' d' := by
  have hages := hmoves.ages
  cases hmoves with
  | goesOn hstage => exact fun k hk => .inl (h.done hstage k hk)
  | unlists htask hstage =>
    intro k hk
    obtain ⟨task, htask, hdone⟩ := h.done hstage k hk
    exact .inl (hages.done htask hdone)
  | takes htask hstage =>
    intro k hk
    rcases List.mem_cons.mp hk with rfl | hk
    · exact .inr ⟨_, rfl⟩
    · obtain ⟨task, htask, hdone⟩ := h.done hstage k hk
      exact .inl (hages.done htask hdone)
  | awaited hstage htask hdone =>
    intro k hk
    rcases h k hk with hold | ⟨rest, hawaiting⟩
    · exact .inl hold
    · obtain ⟨rfl, -⟩ := DeletionStage.awaiting.inj (hstage.symm.trans hawaiting)
      exact .inl ⟨_, htask, hdone⟩

/-! ### The invariant -/

variable {s s' : State} {taken : List ℕ}

/-- The invariant of a run: a thread that has been deleted stays away, a deletion awaits the tasks
that it has taken, and later creation requests do not get past the thread. -/
structure Sound (s : State) : Prop where
  gone : ∀ d ∈ s.deleted, d.threadId ∉ s.server.db.threads.map Thread.threadId
  taken : ∀ d ∈ s.deletions, TakenDone s.server.tasks d
  later : ∀ d ∈ s.deleted, ∀ (j : ℕ) (c : Creation), d.creations ≤ j →
    s.server.creations[j]? = some c → c.threadId = d.threadId → isEarly c = true

/-- No task of a deleted thread is live. -/
def Quiet (s : State) : Prop :=
  ∀ threadId, s.isDeleted threadId = true → s.isLive threadId = false

theorem isDeleted_eq_true :
    s.isDeleted threadId = true ↔ ∃ d ∈ s.deleted, d.threadId = threadId := by
  simp [State.isDeleted]

theorem isLiveBeside_eq_false :
    s.isLiveBeside taken threadId = false ↔
      (∀ k task, s.server.tasks[k]? = some task → task.threadId = threadId → k ∉ taken →
        task.isDone = true) ∧
      ∀ scheduled ∈ s.scheduled, scheduled.threadId = threadId → scheduled.isDone = true := by
  rw [State.isLiveBeside, Bool.or_eq_false_iff, List.any_eq_false, List.any_eq_false]
  refine and_congr ⟨fun h k task htask hthread hk => ?_, fun h p hp => ?_⟩ ?_
  · have hp := h (task, k) (List.mem_zipIdx_iff_getElem?.mpr htask)
    simpa [hthread, hk] using hp
  · have htask := h p.2 p.1 (List.mem_zipIdx_iff_getElem?.mp hp)
    simp only [Bool.and_eq_true, decide_eq_true_eq, Bool.not_eq_true', List.contains_eq_mem,
      decide_eq_false_iff_not]
    rintro ⟨⟨hthread, hlive⟩, hk⟩
    cases hlive.symm.trans (htask hthread hk)
  · refine forall₂_congr fun scheduled _ => ?_
    simp

theorem isLive_eq_false :
    s.isLive threadId = false ↔
      (∀ (k : ℕ) (task : Task), s.server.tasks[k]? = some task → task.threadId = threadId →
        task.isDone = true) ∧
      ∀ scheduled ∈ s.scheduled, scheduled.threadId = threadId → scheduled.isDone = true := by
  rw [State.isLive, isLiveBeside_eq_false]
  simp

/-- What a deletion has taken need not be looked at. -/
theorem isLiveBeside_eq_isLive
    (h : ∀ k ∈ taken, ∃ task, s.server.tasks[k]? = some task ∧ task.isDone = true) :
    s.isLiveBeside taken threadId = s.isLive threadId := by
  rw [Bool.eq_iff_iff, ← Bool.not_eq_false, ← Bool.not_eq_false, not_iff_not,
    isLiveBeside_eq_false, isLive_eq_false]
  refine and_congr_left fun _ => ⟨fun hall k task htask hthread => ?_, fun hall k task htask
    hthread _ => hall k task htask hthread⟩
  by_cases hk : k ∈ taken
  · obtain ⟨task', htask', hdone⟩ := h k hk
    obtain rfl := Option.some.inj (htask.symm.trans htask')
    exact hdone
  · exact hall k task htask hthread hk

/-- Once a thread is quiet, it stays so when no task is new. -/
theorem isLive_of_ages (hages : Ages s.server.tasks s'.server.tasks)
    (hscheduled : s'.scheduled = s.scheduled) (h : s.isLive threadId = false) :
    s'.isLive threadId = false := by
  obtain ⟨htasks, hcrons⟩ := isLive_eq_false.mp h
  refine isLive_eq_false.mpr ⟨fun k task' htask' hthread => ?_, hscheduled ▸ hcrons⟩
  rw [← Bool.not_eq_false]
  intro hlive
  obtain ⟨task, htask, hthread', hlive'⟩ := hages.was_live htask' hlive
  cases hlive'.symm.trans (htasks k task htask (hthread'.trans hthread))

theorem Quiet.ages (hq : Quiet s) (hages : Ages s.server.tasks s'.server.tasks)
    (hscheduled : s'.scheduled = s.scheduled) (hdeleted : s'.deleted = s.deleted) : Quiet s' := by
  intro threadId hthread
  rw [State.isDeleted, hdeleted] at hthread
  exact isLive_of_ages hages hscheduled (hq threadId hthread)

/-- A step that deletes no thread. -/
theorem Sound.frame (hs : Sound s) (hdeleted : s'.deleted = s.deleted)
    (hgone : ∀ d ∈ s.deleted, d.threadId ∉ s'.server.db.threads.map Thread.threadId)
    (htaken : ∀ d ∈ s'.deletions, TakenDone s'.server.tasks d)
    (hcreations : CreationsFollow s.server s'.server) : Sound s' where
  gone := hdeleted ▸ hgone
  taken := htaken
  later := by
    rw [hdeleted]
    intro d hd j c' hj hc' hthread
    have hnone := thread?_eq_none_iff.mpr (hthread ▸ hs.gone d hd)
    rcases hcreations j c' hc' hnone with hearly | ⟨c, hc, hthread', hearly⟩
    · exact hearly
    · exact hearly (hs.later d hd j c hj hc (hthread'.trans hthread))

/-! ### Deleting a thread -/

theorem isDeleted_deleteThread (s : State) (threadId threadId' : String) :
    (s.deleteThread threadId).isDeleted threadId' = true ↔
      s.isDeleted threadId' = true ∨
        threadId' = threadId ∧ threadId ∈ s.server.db.threads.map Thread.threadId := by
  rw [State.deleteThread]
  split
  · rename_i hmem
    simp only [State.isDeleted, List.map_cons, List.mem_cons, decide_eq_true_eq]
    rw [or_comm, and_iff_left hmem]
  · rename_i hmem
    rw [or_iff_left]
    exact fun h => hmem h.2

theorem mem_threadIds_deleteThread (s : State) (threadId threadId' : String) :
    threadId' ∈ (s.deleteThread threadId).server.db.threads.map Thread.threadId ↔
      threadId' ∈ s.server.db.threads.map Thread.threadId ∧ threadId' ≠ threadId := by
  rw [State.deleteThread]
  split
  · exact Database.mem_threadIds_deleteThread
  · rename_i hmem
    exact ⟨fun h => ⟨h, fun heq => hmem (heq ▸ h)⟩, And.left⟩

theorem isLive_deleteThread (s : State) (threadId threadId' : String) :
    (s.deleteThread threadId).isLive threadId' = s.isLive threadId' := by
  rw [State.deleteThread]
  split <;> rfl

theorem tasks_deleteThread (s : State) (threadId : String) :
    (s.deleteThread threadId).server.tasks = s.server.tasks := by
  rw [State.deleteThread]
  split <;> rfl

theorem Sound.deleteThread (hs : Sound s) (threadId : String) :
    Sound (s.deleteThread threadId) := by
  refine ⟨fun d hd => ?_, ?_, ?_⟩
  · rw [mem_threadIds_deleteThread]
    rintro ⟨hmem, hne⟩
    rcases (isDeleted_deleteThread s threadId d.threadId).mp (isDeleted_eq_true.mpr ⟨d, hd, rfl⟩)
      with hold | ⟨heq, -⟩
    · obtain ⟨d', hd', hthread⟩ := isDeleted_eq_true.mp hold
      exact hs.gone d' hd' (hthread ▸ hmem)
    · exact hne heq
  · rw [State.deleteThread]
    split <;> exact hs.taken
  · rw [State.deleteThread]
    split
    · intro d hd j c hj hc hthread
      rcases List.mem_cons.mp hd with rfl | hd
      · have hlt := (List.getElem?_eq_some_iff.mp hc).1
        exact absurd hlt (Nat.not_lt.mpr hj)
      · exact hs.later d hd j c hj hc hthread
    · exact hs.later

theorem sound_foldl (hs : Sound s) (threadIds : List String) :
    Sound (threadIds.foldl State.deleteThread s) := by
  induction threadIds generalizing s with
  | nil => exact hs
  | cons threadId threadIds ih => exact ih (hs.deleteThread threadId)

theorem isLive_foldl (s : State) (threadIds : List String) (threadId : String) :
    (threadIds.foldl State.deleteThread s).isLive threadId = s.isLive threadId := by
  induction threadIds generalizing s with
  | nil => rfl
  | cons threadId' threadIds ih => rw [List.foldl_cons, ih, isLive_deleteThread]

theorem isDeleted_foldl (s : State) (threadIds : List String) (threadId : String) :
    (threadIds.foldl State.deleteThread s).isDeleted threadId = true ↔
      s.isDeleted threadId = true ∨
        threadId ∈ threadIds ∧ threadId ∈ s.server.db.threads.map Thread.threadId := by
  induction threadIds generalizing s with
  | nil => simp
  | cons threadId' threadIds ih =>
    rw [List.foldl_cons, ih, isDeleted_deleteThread, mem_threadIds_deleteThread, List.mem_cons]
    by_cases heq : threadId = threadId'
    · subst heq
      tauto
    · tauto

theorem mayDelete_iff :
    s.mayDelete taken threadId = true ↔
      (threadId ∈ s.server.db.threads.map Thread.threadId →
        s.isLiveBeside taken threadId = false) := by
  rw [State.mayDelete, Bool.or_eq_true, Bool.not_eq_true', decide_eq_true_eq, imp_iff_not_or]

/-- Some threads are deleted: there must be no live task of them. -/
theorem quiet_foldl_iff (hq : Quiet s) (threadIds : List String) :
    Quiet (threadIds.foldl State.deleteThread s) ↔ threadIds.all (s.mayDelete []) = true := by
  rw [List.all_eq_true]
  constructor
  · intro hq' threadId hmem
    refine mayDelete_iff.mpr fun hrow => ?_
    have hlive := hq' threadId ((isDeleted_foldl s threadIds threadId).mpr (.inr ⟨hmem, hrow⟩))
    rwa [isLive_foldl] at hlive
  · intro hall threadId hdeleted
    rw [isLive_foldl]
    rcases (isDeleted_foldl s threadIds threadId).mp hdeleted with hold | ⟨hmem, hrow⟩
    · exact hq threadId hold
    · exact mayDelete_iff.mp (hall threadId hmem) hrow

/-! ### What a step keeps -/

variable {setting : Setting} {a : Label}

/-- What is to be shown of every step. -/
structure Keeps (s : State) (a : Label) (s' : State) : Prop where
  sound : Sound s'
  quiet : Quiet s → (Quiet s' ↔ leavesNone s a = true)

theorem keeps_server {l : OpenLangGraph.Label} {server : Server} (hs : Sound s)
    (h : Server.step setting.server s.server l = some server) :
    Keeps s (.server l) { s with server } := by
  obtain ⟨hthreads, hcreations, htasks⟩ := server_step h
  have hgone : ∀ d ∈ s.deleted, d.threadId ∉ server.db.threads.map Thread.threadId := by
    rw [hthreads]
    exact hs.gone
  cases htasks with
  | @started i c hc hspawned htasks =>
    refine ⟨hs.frame rfl hgone (fun d hd k hk => ?_) hcreations, fun hq => ?_⟩
    · rcases hs.taken d hd k hk with ⟨task, htask, hdone⟩ | hawaiting
      · refine .inl ⟨task, ?_, hdone⟩
        show server.tasks[k]? = some task
        rw [htasks, List.getElem?_append_left (List.getElem?_eq_some_iff.mp htask).1]
        exact htask
      · exact .inr hawaiting
    · have hleaves : leavesNone s (.server (.create i)) = !s.isDeleted c.threadId := by
        simp [leavesNone, hc, hspawned, Creation.task]
      rw [hleaves, Bool.not_eq_true']
      constructor
      · intro hq'
        rw [← Bool.not_eq_true]
        intro hdeleted
        obtain ⟨hlive, -⟩ := isLive_eq_false.mp (hq' c.threadId hdeleted)
        have hdone := hlive s.server.tasks.length c.task (by simp [htasks]) rfl
        cases hdone
      · intro hdeleted threadId hthread
        obtain ⟨hold, hcrons⟩ := isLive_eq_false.mp (hq threadId hthread)
        refine isLive_eq_false.mpr ⟨fun k task htask hid => ?_, hcrons⟩
        have htask : (s.server.tasks ++ [c.task])[k]? = some task := htasks ▸ htask
        rcases getElem?_append_cases htask with htask | ⟨-, rfl⟩
        · exact hold k task htask hid
        · obtain rfl : c.threadId = threadId := hid
          cases hdeleted.symm.trans hthread
  | aged hages hnone =>
    refine ⟨hs.frame rfl hgone (fun d hd => (hs.taken d hd).ages hages) hcreations, fun hq => ?_⟩
    refine iff_of_true (hq.ages hages rfl rfl) ?_
    cases l with
    | create i =>
      refine (Option.all_eq_true _ _).mpr fun c hc => ?_
      rw [hnone i c rfl hc]
      rfl
    | _ => rfl

/-- The thread of a cron's run is the one of the cron or a new one. -/
theorem newThread_execution {croniter : Croniter} {cron : Cron} {now : ℕ}
    {runId newThreadId : String} {thread : Thread}
    (h : (cron.execution croniter now runId newThreadId).newThread = some thread) :
    thread.threadId = newThreadId := by
  rw [Cron.execution] at h
  dsimp only at h
  split at h
  · cases h
  · rw [← Option.some.inj h]

theorem keeps_fire {cron : Cron} {now : ℕ} {runId newThreadId : String} (hs : Sound s)
    (h : step setting s (.fire cron now runId newThreadId) = some s') :
    Keeps s (.fire cron now runId newThreadId) s' := by
  rw [step] at h
  split at h
  · cases h
  · rename_i hfresh
    obtain ⟨db, hrows, rfl⟩ := Option.map_eq_some_iff.mp h
    obtain ⟨hthreads, hruns⟩ := CronExecution.insertRows_eq_some hrows
    have hgone : ∀ d ∈ s.deleted, d.threadId ∉ db.threads.map Thread.threadId := by
      intro d hd hmem
      rw [hthreads, List.map_append] at hmem
      rcases List.mem_append.mp hmem with hold | hnew
      · exact hs.gone d hd hold
      · obtain ⟨thread, hthread, hid⟩ := List.mem_map.mp hnew
        have hid' := newThread_execution (Option.mem_toList.mp hthread)
        exact hfresh (isDeleted_eq_true.mpr ⟨d, hd, hid.symm.trans hid'⟩)
    refine ⟨hs.frame rfl hgone hs.taken (.of_eq rfl), fun hq => iff_of_true ?_ rfl⟩
    intro threadId hdeleted
    obtain ⟨htasks, hcrons⟩ := isLive_eq_false.mp (hq threadId hdeleted)
    refine isLive_eq_false.mpr ⟨htasks, forall_append (fun hthread => ?_) hcrons⟩
    -- the row of the run has its thread
    obtain ⟨d, hd, hid⟩ := isDeleted_eq_true.mp hdeleted
    refine absurd (db.runs_thread _ ?_) (hid.trans hthread.symm ▸ hgone d hd)
    rw [hruns]
    exact List.mem_append_right _ (List.mem_singleton_self _)

theorem threads_recordCron (db : Database) (runId : String)
    (update : Option (RunStatus × Option Json)) :
    (recordCron db runId update).threads = db.threads := by
  cases update <;> rfl

theorem keeps_runCron {i : ℕ} {outcome : CronOutcome} (hs : Sound s)
    (h : step setting s (.runCron i outcome) = some s') : Keeps s (.runCron i outcome) s' := by
  obtain ⟨scheduled, hscheduled, h⟩ := Option.bind_eq_some_iff.mp h
  obtain ⟨move, hmove, h⟩ := Option.bind_eq_some_iff.mp h
  obtain rfl := Option.some.inj h
  have hgone : ∀ d ∈ s.deleted, d.threadId ∉
      (recordCron s.server.db scheduled.task.runId move.update).threads.map Thread.threadId := by
    rw [threads_recordCron]
    exact hs.gone
  refine ⟨hs.frame rfl hgone hs.taken (.of_eq rfl), fun hq => iff_of_true ?_ rfl⟩
  intro threadId hdeleted
  obtain ⟨htasks, hcrons⟩ := isLive_eq_false.mp (hq threadId hdeleted)
  refine isLive_eq_false.mpr ⟨htasks, forall_set (fun hthread => ?_) hcrons⟩
  have hdone := hcrons scheduled (List.mem_of_getElem? hscheduled) hthread
  have hstage : scheduled.task.stage = .done := by
    rw [Scheduled.isDone] at hdone
    split at hdone
    · assumption
    · cases hdone
  cases outcome <;> simp [CronTask.step, hstage] at hmove

theorem keeps_delete {i : ℕ} {ok : Bool} (hs : Sound s)
    (h : step setting s (.delete i ok) = some s') : Keeps s (.delete i ok) s' := by
  obtain ⟨d, hd, h⟩ := Option.bind_eq_some_iff.mp h
  by_cases hstage : d.stage = .deleting
  · simp only [hstage] at h
    obtain rfl := Option.some.inj h
    have hdone := (hs.taken d (List.mem_of_getElem? hd)).done (by simp [hstage])
    cases ok with
    | false =>
      refine ⟨hs.frame rfl hs.gone (forall_set ?_ hs.taken) (.of_eq rfl),
        fun hq => iff_of_true hq rfl⟩
      exact fun k hk => .inl (hdone k hk)
    | true =>
      have hs' := hs.deleteThread d.threadId
      have htaken : ∀ d' ∈ s.deletions,
          TakenDone (s.deleteThread d.threadId).server.tasks d' := by
        rw [tasks_deleteThread]
        exact hs.taken
      have hdone' : ∀ k ∈ d.taken,
          ∃ task, (s.deleteThread d.threadId).server.tasks[k]? = some task ∧
            task.isDone = true := by
        rw [tasks_deleteThread]
        exact hdone
      refine ⟨⟨hs'.gone, forall_set (fun k hk => .inl (hdone' k hk)) htaken, hs'.later⟩,
        fun hq => ?_⟩
      · have hleaves : leavesNone s (.delete i true) = s.mayDelete d.taken d.threadId := by
          simp [leavesNone, hd, hstage]
        have hbeside : s.mayDelete d.taken d.threadId = s.mayDelete [] d.threadId := by
          rw [State.mayDelete, State.mayDelete, isLiveBeside_eq_isLive hdone]
          rfl
        rw [hleaves, hbeside]
        refine (quiet_foldl_iff hq [d.threadId]).trans ?_
        simp
  · have hmoves : ∃ db tasks d', d.step s.server.db s.server.tasks ok = some (db, tasks, d') ∧
        s' = { s with server := { s.server with db, tasks }
                      deletions := s.deletions.set i d' } := by
      split at h
      · exact absurd ‹_› hstage
      · obtain ⟨⟨db, tasks, d'⟩, hstep, h⟩ := Option.bind_eq_some_iff.mp h
        exact ⟨db, tasks, d', hstep, (Option.some.inj h).symm⟩
    obtain ⟨db, tasks, d', hstep, rfl⟩ := hmoves
    obtain ⟨hthreads, hmoves⟩ := Deletion.moves_of_step hstep
    refine ⟨hs.frame rfl ?_ (forall_set ?_ ?_) (.of_eq rfl), fun hq => iff_of_true ?_ ?_⟩
    · show ∀ d ∈ s.deleted, d.threadId ∉ db.threads.map Thread.threadId
      rw [hthreads]
      exact hs.gone
    · exact (hs.taken d (List.mem_of_getElem? hd)).moves hmoves
    · exact fun d hd => (hs.taken d hd).ages hmoves.ages
    · exact hq.ages hmoves.ages rfl rfl
    · cases ok with
      | false => rfl
      | true =>
        simp [leavesNone, hd]

theorem keeps_cleanUp {i : ℕ} {ok : Bool} (hs : Sound s)
    (h : step setting s (.cleanUp i ok) = some s') : Keeps s (.cleanUp i ok) s' := by
  obtain ⟨threadIds, hthreadIds, h⟩ := Option.bind_eq_some_iff.mp h
  obtain rfl := Option.some.inj h
  cases ok with
  | false => exact ⟨⟨hs.gone, hs.taken, hs.later⟩, fun hq => iff_of_true hq rfl⟩
  | true =>
    have hs' := sound_foldl hs threadIds
    refine ⟨⟨hs'.gone, hs'.taken, hs'.later⟩, fun hq => ?_⟩
    have hleaves : leavesNone s (.cleanUp i true) = threadIds.all (s.mayDelete []) := by
      simp [leavesNone, hthreadIds]
    rw [hleaves]
    exact quiet_foldl_iff hq threadIds

/-- **Step lemma.** -/
theorem keeps_step (hs : Sound s) (h : step setting s a = some s') : Keeps s a s' := by
  cases a with
  | server l =>
    obtain ⟨server, hserver, rfl⟩ := Option.map_eq_some_iff.mp h
    exact keeps_server hs hserver
  | createThread thread =>
    rw [step] at h
    split at h
    · cases h
    · rename_i hfresh
      obtain ⟨db, hinsert, rfl⟩ := Option.map_eq_some_iff.mp h
      refine ⟨hs.frame rfl (fun d hd hmem => ?_) hs.taken (.of_eq rfl),
        fun hq => iff_of_true hq rfl⟩
      have hmem : d.threadId ∈ db.threads.map Thread.threadId := hmem
      rw [(Database.insertThread_eq_some hinsert).2.1, List.map_append] at hmem
      rcases List.mem_append.mp hmem with hold | hnew
      · exact hs.gone d hd hold
      · exact hfresh (isDeleted_eq_true.mpr ⟨d, hd, List.mem_singleton.mp hnew⟩)
  | setTtl threadId ttl =>
    cases h
    exact ⟨⟨hs.gone, hs.taken, hs.later⟩, fun hq => iff_of_true hq rfl⟩
  | fire cron now runId newThreadId => exact keeps_fire hs h
  | runCron i outcome => exact keeps_runCron hs h
  | requestDelete user threadId =>
    cases h
    refine ⟨⟨hs.gone, forall_append ?_ hs.taken, hs.later⟩, fun hq => iff_of_true hq rfl⟩
    intro k hk
    cases hk
  | delete i ok => exact keeps_delete hs h
  | selectExpired now =>
    cases h
    exact ⟨⟨hs.gone, hs.taken, hs.later⟩, fun hq => iff_of_true hq rfl⟩
  | cleanUp i ok => exact keeps_cleanUp hs h

/-- Later creation requests never succeed. -/
theorem noneOutlives_iff (hs : Sound s) : NoneOutlives s ↔ Quiet s := by
  constructor
  · intro h threadId hdeleted
    obtain ⟨d, hd, rfl⟩ := isDeleted_eq_true.mp hdeleted
    exact (h d hd).1
  · intro hq d hd
    refine ⟨hq d.threadId (isDeleted_eq_true.mpr ⟨d, hd, rfl⟩), fun j c hj hc hthread => ?_⟩
    intro hstage
    have hearly := hs.later d hd j c hj hc hthread
    rw [isEarly, hstage] at hearly
    cases hearly

theorem sound_start (db : Database) : Sound (.start db) := by
  constructor <;> simp [State.start]

/-- **In which runs no run outlives its thread**: those in which every deletion has taken all live
tasks of its thread, the cleanup deletes only threads without a live task, and no request starts a
task after its thread has been deleted. -/
theorem none_outlives_iff (setting : Setting) (db : Database) (t : State) (as : List Label)
    (h : exec (step setting) (.start db) as = some t) :
    (∀ pre t, pre <+: as → exec (step setting) (.start db) pre = some t → NoneOutlives t) ↔
      Along (step setting) (fun s a => leavesNone s a = true) (.start db) as := by
  refine forall_prefix_iff_along (fun s a s' hs hstep => (keeps_step hs hstep).sound)
    (fun s a s' hs hn hstep => ?_) (sound_start db) ?_ h
  · have hkeeps := keeps_step hs hstep
    rw [noneOutlives_iff hkeeps.sound]
    exact hkeeps.quiet ((noneOutlives_iff hs).mp hn)
  · intro d hd
    cases hd

/-! ### Two runs -/

def exampleServer : Setting := ⟨exampleSetting, ⟨fun _ => true, fun _ now => some (now + 1)⟩, []⟩

/-- Bob's request for a run on Alice's thread, until its task is started. -/
def bobsRun : List Label :=
  .server (.requestRun .run ⟨"bob", none⟩ "t" (exampleRequest false) "r") ::
    List.replicate 7 (.server (.create 0))

/-- Alice's request for a run, and her request to delete the thread; the task that it cancels ends
before it has begun. -/
def alicesDeletion : List Label :=
  (creationLabels .run "t" "r" 0).map Label.server ++
    [.requestDelete ⟨"alice", none⟩ "t", .delete 0 true, .delete 0 true, .delete 0 true,
      .delete 0 true, .server (.execute 0 (.cancelled false)), .delete 0 true, .delete 0 true]

/-- Alice's thread is deleted, and no run outlives it. -/
theorem none_outlives_alone :
    (∃ t, exec (step exampleServer) (.start exampleDatabase) alicesDeletion = some t ∧
      t.isDeleted "t" = true) ∧
    ∀ pre t, pre <+: alicesDeletion →
      exec (step exampleServer) (.start exampleDatabase) pre = some t → NoneOutlives t :=
  ⟨⟨_, rfl, by decide⟩,
    (none_outlives_iff exampleServer exampleDatabase _ alicesDeletion rfl).mpr (by decide)⟩

/-- **A run that outlives its thread**: Bob's run is not among those that Alice's request stops. -/
theorem run_outlives_thread :
    ¬ ∀ (setting : Setting) (db : Database) (as : List Label) (t : State),
      exec (step setting) (.start db) as = some t → NoneOutlives t := by
  intro h
  have hn := h exampleServer exampleDatabase
    (bobsRun ++ [.requestDelete ⟨"alice", none⟩ "t", .delete 0 true, .delete 0 true,
      .delete 0 true]) _ rfl
  have hlive := (hn ⟨"t", 1⟩ (List.mem_singleton_self _)).1
  cases hlive

end ThreadDeletion

end OpenLangGraph

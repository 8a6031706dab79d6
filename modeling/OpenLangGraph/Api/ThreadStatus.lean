import OpenLangGraph.Api.RunServer

/-!
# The status of a thread and its runs

`set_thread_status` is documented to keep the status of a thread in step with its runs, but every
run sets it on its own: `busy` before its row is added (the batch endpoint: after), and `idle` or
`interrupted` when it ends, whatever the other runs of the thread do. The status says what it
should as long as the runs of a thread come one after the other.

## Coming one after the other

A creation request *enters* the thread with its first write: its status write, or for a batch item
the insertion of its row. From then on it is the one that may write an active run, until its task
takes over; the task is *live* until its last write of the thread's status. The condition on a run
of the server is that requests enter one at a time, when nothing is active or live, and that a
batch item finds the thread busy.

## Main definitions

* `Database.isFree`, `Database.hasActive`
* `Creation.isEntered`, `Task.isLive`
* `Server.crowds` — a request enters the thread at the wrong moment
* `Server.Tracks` — the invariant

## Main results

* `Server.status_tracks_runs` — without crowding, an idle or interrupted thread has no active run
* `Server.idle_with_active_run` — with it, it may have one
-/

namespace OpenLangGraph

open Runs Transition Processes

/-! ### Active runs -/

namespace Database

variable {db db' : Database} {threadId runId : String}

/-- The stored status of the thread is idle or interrupted. -/
def isFree (db : Database) (threadId : String) : Bool :=
  (db.thread? threadId).any (·.status ≠ .busy)

/-- A run of the thread is pending, running or streaming. -/
def hasActive (db : Database) (threadId : String) : Bool :=
  db.runs.any fun run => run.threadId = threadId && run.status.isActive

/-- This run of the thread is pending, running or streaming. -/
def ActiveRun (db : Database) (threadId runId : String) : Prop :=
  ∃ run ∈ db.runs, run.threadId = threadId ∧ run.runId = runId ∧ run.status.isActive = true

theorem hasActive_eq_true :
    db.hasActive threadId = true ↔ ∃ runId, db.ActiveRun threadId runId := by
  simp [hasActive, ActiveRun]

theorem activeRun_of_runs (h : db'.runs = db.runs) :
    db'.ActiveRun threadId runId ↔ db.ActiveRun threadId runId := by
  rw [ActiveRun, ActiveRun, h]

theorem isFree_of_threads (h : db'.threads = db.threads) :
    db'.isFree threadId = db.isFree threadId := by
  rw [isFree, isFree, thread?, thread?, h]

theorem isFree_setThreadStatus (threadId' : String) (status : ThreadStatus) :
    (setThreadStatus db threadId' status).isFree threadId =
      if threadId = threadId' then decide (status ≠ .busy) && (db.thread? threadId).isSome
      else db.isFree threadId := by
  rw [isFree, isFree, thread?_setThreadStatus]
  split
  · cases db.thread? threadId <;> simp
  · rfl

theorem isFree_writeThreadMetadata (threadId' : String) (metadata : JsonObject) :
    (writeThreadMetadata db threadId' metadata).isFree threadId = db.isFree threadId := by
  rw [isFree, isFree, thread?_writeThreadMetadata]
  split
  · rw [Option.any_map]
  · rfl

/-- After a write of a status, another run is active if it was, and this one if the status is an
active one. -/
theorem activeRun_updateRunStatus {runId' : String} {status : RunStatus} {output : Option Json}
    {error : Option String}
    (h : (updateRunStatus db runId' status output error).ActiveRun threadId runId) :
    (runId ≠ runId' ∧ db.ActiveRun threadId runId) ∨
      (runId = runId' ∧ status.isActive = true ∧ (runId', threadId) ∈ db.keys) := by
  obtain ⟨run, hrun, hthread, hid, hactive⟩ := h
  obtain ⟨row, hrow, rfl⟩ := mem_updateRuns.mp hrun
  by_cases hrowId : row.runId = runId'
  · rw [if_pos hrowId] at hthread hid hactive
    refine .inr ⟨hid.symm.trans hrowId, hactive, List.mem_map.mpr ⟨row, hrow, ?_⟩⟩
    exact Prod.ext hrowId hthread
  · rw [if_neg hrowId] at hthread hid hactive
    exact .inl ⟨fun heq => hrowId (hid.trans heq), row, hrow, hthread, hid, hactive⟩

theorem activeRun_insertRun {run : Run} (hinsert : db.insertRun run = some db')
    (h : db'.ActiveRun threadId runId) :
    db.ActiveRun threadId runId ∨ (run.threadId = threadId ∧ run.runId = runId) := by
  obtain ⟨row, hrow, hthread, hid, hactive⟩ := h
  rw [(insertRun_eq_some hinsert).2.1] at hrow
  rcases List.mem_append.mp hrow with hrow | hrow
  · exact .inl ⟨row, hrow, hthread, hid, hactive⟩
  · obtain rfl := List.mem_singleton.mp hrow
    exact .inr ⟨hthread, hid⟩

/-- No run of the thread becomes active, and the thread does not become free. -/
structure Quieter (threadId : String) (db db' : Database) : Prop where
  active : ∀ runId, db'.ActiveRun threadId runId → db.ActiveRun threadId runId
  free : db.isFree threadId = false → db'.isFree threadId = false

theorem Quieter.refl (threadId : String) (db : Database) : Quieter threadId db db :=
  ⟨fun _ => id, id⟩

/-- The status of a thread is in step with its runs. -/
def InStep (threadId : String) (db : Database) : Prop :=
  ∀ runId, db.ActiveRun threadId runId → db.isFree threadId = false

theorem InStep.quieter (h : InStep threadId db) (hq : Quieter threadId db db') :
    InStep threadId db' :=
  fun runId hactive => hq.free (h runId (hq.active runId hactive))

end Database

/-! ### The process that may write an active run -/

/-- The request has entered the thread, and has not started the task. -/
def Creation.isEntered (c : Creation) (threadId : String) : Bool :=
  c.threadId = threadId &&
    match c.stage with
    | .readingThread _ _ | .writingMetadata _ _ | .spawning => true
    | .settingBusy _ _ => c.kind = .batch
    | .inserting _ _ => c.kind ≠ .batch
    | _ => false

/-- The next step of the request enters the thread. -/
def Creation.enters (c : Creation) (threadId : String) : Bool :=
  c.threadId = threadId &&
    match c.stage with
    | .settingBusy _ _ => c.kind ≠ .batch
    | .inserting _ _ => c.kind = .batch
    | _ => false

/-- The task is still to write the status of the thread. -/
def Task.isLive (task : Task) (threadId : String) : Bool :=
  task.threadId = threadId &&
    match task.executor with
    | .created | .settingRunning | .streaming | .recording _ _ | .releasing _ | .recordingCause _
    | .releasingCause _ => true
    | .signallingCause _ | .cleaning _ | .ended _ => false

/-- The task is still to write that its run is running. -/
def Task.isStarting (task : Task) : Bool :=
  match task.executor with
  | .created | .settingRunning => true
  | _ => false

/-- The task is about to write the status of the thread. -/
def Task.isReleasing (task : Task) : Bool :=
  match task.executor with
  | .releasing _ | .releasingCause _ => true
  | _ => false

/-- A thread that a request has entered is busy, and has no active run but the one of the request,
once its row is added. -/
structure Creation.Tracks (threadId : String) (db : Database) (c : Creation) : Prop where
  busy : db.isFree threadId = false
  active : ∀ runId, db.ActiveRun threadId runId → runId = c.runId ∧ c.hasRow = true

/-- The thread of a live task has no active run but the one of the task, and none when the task is
about to write the status of the thread. -/
structure Task.Tracks (threadId : String) (db : Database) (task : Task) : Prop where
  busy : task.isStarting = true → db.isFree threadId = false
  active : ∀ runId, db.ActiveRun threadId runId → runId = task.runId ∧ task.isReleasing = false

theorem Creation.Tracks.quieter {threadId : String} {db db' : Database} {c : Creation}
    (h : c.Tracks threadId db) (hq : Database.Quieter threadId db db') : c.Tracks threadId db' :=
  ⟨hq.free h.busy, fun runId hactive => h.active runId (hq.active runId hactive)⟩

theorem Task.Tracks.quieter {threadId : String} {db db' : Database} {task : Task}
    (h : task.Tracks threadId db) (hq : Database.Quieter threadId db db') :
    task.Tracks threadId db' :=
  ⟨fun hstarting => hq.free (h.busy hstarting),
    fun runId hactive => h.active runId (hq.active runId hactive)⟩

namespace Creation

variable {threadId : String} {db db' : Database} {c : Creation} {stage : CreationStage}

theorem Tracks.at (h : c.Tracks threadId db)
    (hrow : c.hasRow = true → { c with stage }.hasRow = true) :
    { c with stage }.Tracks threadId db :=
  ⟨h.busy, fun runId hactive => (h.active runId hactive).imp_right hrow⟩

/-- A step that does not add a run to the thread leaves it quieter. -/
theorem Moves.quieter (h : c.Moves db db' stage)
    (hinsert : c.threadId = threadId → ∀ loaded assistant, c.stage ≠ .inserting loaded assistant) :
    Database.Quieter threadId db db' := by
  cases h with
  | checked | rejected | resolved | resolvedBatch | read | failed | spawned =>
    exact .refl threadId db
  | setBusy =>
    refine ⟨fun _ => (Database.activeRun_of_runs rfl).mp, fun hfree => ?_⟩
    rw [Database.isFree_setThreadStatus]
    split
    · simp
    · exact hfree
  | wrote | wroteBatch =>
    refine ⟨fun _ => (Database.activeRun_of_runs rfl).mp, fun hfree => ?_⟩
    rwa [Database.isFree_writeThreadMetadata]
  | inserted hstage _ hrow | insertedBatch hstage _ hrow =>
    refine ⟨fun runId hactive => ?_, fun hfree => ?_⟩
    · rcases Database.activeRun_insertRun hrow hactive with hactive | ⟨hthread, -⟩
      · exact hactive
      · exact absurd hstage (hinsert hthread _ _)
    · rwa [Database.isFree_of_threads (Database.insertRun_eq_some hrow).2.2.1]

/-- A request that neither enters the thread nor has entered it. -/
theorem Moves.outside (h : c.Moves db db' stage) (henters : c.enters threadId = false)
    (hentered : c.isEntered threadId = false) :
    Database.Quieter threadId db db' ∧ { c with stage }.isEntered threadId = false ∧
      ∀ task ∈ c.spawned, task.isLive threadId = false := by
  by_cases hthread : c.threadId = threadId
  · have hout : ∀ loaded assistant, c.stage ≠ .inserting loaded assistant := by
      intro loaded assistant hstage
      by_cases hkind : c.kind = .batch
      · simp [enters, hthread, hstage, hkind] at henters
      · simp [isEntered, hthread, hstage, hkind] at hentered
    refine ⟨h.quieter fun _ => hout, ?_, ?_⟩
    · cases h with
      | checked | rejected | failed => simp [isEntered]
      | resolved _ hkind | resolvedBatch _ hkind => simp [isEntered, hkind]
      | inserted hstage | insertedBatch hstage => exact absurd hstage (hout _ _)
      | spawned => simp [isEntered]
      | read hstage | wrote hstage | wroteBatch hstage =>
        simp [isEntered, hthread, hstage] at hentered
      | setBusy hstage =>
        by_cases hkind : c.kind = .batch
        · simp [isEntered, hthread, hstage, hkind] at hentered
        · simp [enters, hthread, hstage, hkind] at henters
    · cases hstage : c.stage <;> simp [Creation.spawned, hstage]
      simp [isEntered, hthread, hstage] at hentered
  · refine ⟨h.quieter fun heq => absurd heq hthread, by simp [isEntered, hthread], ?_⟩
    cases hstage : c.stage <;> simp [Creation.spawned, hstage, Creation.task, Task.isLive, hthread]

/-- The step that enters the thread, or fails to. -/
theorem Moves.entering (h : c.Moves db db' stage) (henters : c.enters threadId = true)
    (hactive : db.hasActive threadId = false)
    (hbatch : c.kind = .batch → db.isFree threadId = false) :
    c.spawned = [] ∧ ((db' = db ∧ { c with stage }.isEntered threadId = false) ∨
      { c with stage }.Tracks threadId db') := by
  have hnone : ∀ runId, ¬ db.ActiveRun threadId runId := by
    intro runId hrun
    rw [Database.hasActive_eq_true.mpr ⟨runId, hrun⟩] at hactive
    cases hactive
  obtain ⟨hthread, hstages⟩ := Bool.and_eq_true_iff.mp henters
  have hthread := of_decide_eq_true hthread
  cases h with
  | checked hstage | resolved hstage | resolvedBatch hstage | read hstage | wrote hstage
  | wroteBatch hstage | spawned hstage => simp [hstage] at hstages
  | rejected hstage =>
    rcases hstage with hstage | ⟨loaded, hstage⟩ <;> simp [hstage] at hstages
  | setBusy hstage =>
    refine ⟨by simp [Creation.spawned, hstage], .inr ⟨?_, fun runId hrun => ?_⟩⟩
    · rw [Database.isFree_setThreadStatus, if_pos hthread.symm]
      rfl
    · exact absurd ((Database.activeRun_of_runs rfl).mp hrun) (hnone runId)
  | inserted hstage hkind => simp [hstage, hkind] at hstages
  | insertedBatch hstage hkind hrow =>
    refine ⟨by simp [Creation.spawned, hstage], .inr ⟨?_, fun runId hrun => ?_⟩⟩
    · rw [Database.isFree_of_threads (Database.insertRun_eq_some hrow).2.2.1]
      exact hbatch hkind
    · rcases Database.activeRun_insertRun hrow hrun with hrun | ⟨-, hid⟩
      · exact absurd hrun (hnone runId)
      · exact ⟨hid.symm, by simp [hasRow, hkind]⟩
  | failed hstage =>
    rcases hstage with hstage | hstage <;>
      exact ⟨by simp [Creation.spawned, hstage], .inl ⟨rfl, by simp [isEntered]⟩⟩

/-- A step of the request that has entered the thread. -/
theorem Moves.inside (h : c.Moves db db' stage) (hentered : c.isEntered threadId = true)
    (hc : c.Tracks threadId db) :
    (c.spawned = [] ∧ { c with stage }.isEntered threadId = true ∧
        { c with stage }.Tracks threadId db') ∨
      (c.spawned = [] ∧ { c with stage }.isEntered threadId = false ∧ db' = db) ∨
      (c.spawned = [c.task] ∧ { c with stage }.isEntered threadId = false ∧ db' = db ∧
        c.task.isLive threadId = true ∧ c.task.Tracks threadId db) := by
  obtain ⟨hthread, hstages⟩ := Bool.and_eq_true_iff.mp hentered
  have hthread := of_decide_eq_true hthread
  have hquieter : (∀ loaded assistant, c.stage ≠ .inserting loaded assistant) →
      c.Tracks threadId db' := fun hout => hc.quieter (h.quieter fun _ => hout)
  cases h with
  | checked hstage | resolved hstage | resolvedBatch hstage => simp [hstage] at hstages
  | rejected hstage =>
    rcases hstage with hstage | ⟨loaded, hstage⟩ <;> simp [hstage] at hstages
  | setBusy hstage =>
    refine .inl ⟨by simp [Creation.spawned, hstage], by simp [isEntered, hthread], ?_⟩
    exact (hquieter (by simp [hstage])).at (by simp [hasRow, hstage])
  | read hstage =>
    refine .inl ⟨by simp [Creation.spawned, hstage], by simp [isEntered, hthread], ?_⟩
    exact hc.at (by simp [hasRow, hstage])
  | wrote hstage hkind =>
    refine .inl ⟨by simp [Creation.spawned, hstage], by simp [isEntered, hthread, hkind], ?_⟩
    exact (hquieter (by simp [hstage])).at (by simp [hasRow, hstage, hkind])
  | wroteBatch hstage hkind =>
    refine .inl ⟨by simp [Creation.spawned, hstage], by simp [isEntered, hthread], ?_⟩
    exact (hquieter (by simp [hstage])).at (by simp [hasRow])
  | inserted hstage hkind hrow =>
    refine .inl ⟨by simp [Creation.spawned, hstage], by simp [isEntered, hthread], ?_, ?_⟩
    · rw [Database.isFree_of_threads (Database.insertRun_eq_some hrow).2.2.1]
      exact hc.busy
    · intro runId hrun
      rcases Database.activeRun_insertRun hrow hrun with hrun | ⟨-, hid⟩
      · have hnoRow := (hc.active runId hrun).2
        simp [hasRow, hstage] at hnoRow
      · exact ⟨hid.symm, rfl⟩
  | insertedBatch hstage hkind => simp [hstage, hkind] at hstages
  | failed hstage =>
    rcases hstage with hstage | hstage <;>
      exact .inr (.inl ⟨by simp [Creation.spawned, hstage], by simp [isEntered], rfl⟩)
  | spawned hstage =>
    refine .inr (.inr ⟨by simp [Creation.spawned, hstage], by simp [isEntered], rfl, ?_, ?_⟩)
    · simp [Task.isLive, Creation.task, hthread]
    · exact ⟨fun _ => hc.busy, fun runId hrun => ⟨(hc.active runId hrun).1, rfl⟩⟩

end Creation

namespace Task

variable {threadId : String} {jsonb : Jsonb} {db db' : Database} {task task' : Task}
  {outcome : Outcome}

/-- The task is about to write the final status of its run. -/
def isRecording (task : Task) : Bool :=
  match task.executor with
  | .recording _ _ | .recordingCause _ => true
  | _ => false

/-- A write of the status of a run does not concern the status of a thread. -/
theorem isFree_updateRunStatus (runId : String) (status : RunStatus) (output : Option Json)
    (error : Option String) :
    (updateRunStatus db runId status output error).isFree threadId = db.isFree threadId :=
  Database.isFree_of_threads rfl

/-- A task on another thread. -/
theorem write_elsewhere (h : task.write jsonb db = some db') (hthread : task.threadId ≠ threadId)
    (hrow : (task.runId, task.threadId) ∈ db.keys) : Database.Quieter threadId db db' := by
  rcases write_cases h with ⟨status, output, error, rfl, -⟩ | ⟨status, rfl, -⟩ | rfl
  · refine ⟨fun runId hrun => ?_, fun hfree => by rwa [isFree_updateRunStatus]⟩
    rcases Database.activeRun_updateRunStatus hrun with ⟨-, hrun⟩ | ⟨-, -, hkey⟩
    · exact hrun
    · exact absurd (Database.threadId_unique hrow hkey) hthread
  · refine ⟨fun _ => (Database.activeRun_of_runs rfl).mp, fun hfree => ?_⟩
    rwa [Database.isFree_setThreadStatus, if_neg (Ne.symm hthread)]
  · exact .refl threadId db'

/-- A task that has written the status of the thread writes nothing more. -/
theorem write_done (h : task.write jsonb db = some db') (hthread : task.threadId = threadId)
    (hlive : task.isLive threadId = false) : db' = db := by
  cases hex : task.executor with
  | created | settingRunning | streaming | recording | releasing | recordingCause
  | releasingCause => simp [isLive, hthread, hex] at hlive
  | signallingCause | cleaning | ended =>
    rw [write, hex] at h
    exact (Option.some.inj h).symm

theorem not_isLive_next {executor : Executor} (hthread : task.threadId = threadId)
    (hlive : task.isLive threadId = false)
    (hnext : task.executor.next = some executor ∨
      ∃ cause, task.executor.interruptedBy cause = some executor) :
    { task with executor }.isLive threadId = false := by
  cases hex : task.executor with
  | created | settingRunning | streaming | recording | releasing | recordingCause
  | releasingCause => simp [isLive, hthread, hex] at hlive
  | signallingCause | cleaning | ended =>
    rcases hnext with hnext | ⟨cause, hnext⟩ <;>
      simp only [hex, Executor.next, Executor.interruptedBy, Option.some.injEq,
        reduceCtorEq] at hnext <;>
      simp [isLive, ← hnext]

/-- A task that is not live on the thread, or lives on another one, leaves it quieter. -/
theorem step_outside (h : task.step jsonb db outcome = some (db', task'))
    (hlive : task.isLive threadId = false) (hrow : (task.runId, task.threadId) ∈ db.keys) :
    Database.Quieter threadId db db' ∧ task'.isLive threadId = false := by
  obtain ⟨-, hthread', hcases⟩ := step_cases h
  by_cases hthread : task.threadId = threadId
  · have hwrite : ∀ db', task.write jsonb db = some db' → Database.Quieter threadId db db' :=
      fun db' hwrite => write_done hwrite hthread hlive ▸ .refl threadId db
    have hnext : ∀ executor, (task.executor.next = some executor ∨
        ∃ cause, task.executor.interruptedBy cause = some executor) →
        task'.executor = executor → task'.isLive threadId = false := by
      rintro executor hnext rfl
      have := not_isLive_next hthread hlive hnext
      rw [isLive] at this ⊢
      rwa [hthread']
    rcases hcases with ⟨hdb, hexec⟩ | ⟨rfl, hex, -⟩ | ⟨cause, applied, -, hdb, hexec⟩
    · exact ⟨hwrite db' hdb, hnext _ (.inl hexec) rfl⟩
    · simp [isLive, hthread, hex] at hlive
    · refine ⟨?_, hnext _ (.inr ⟨cause, hexec⟩) rfl⟩
      cases applied with
      | false => exact Option.some.inj hdb ▸ .refl threadId db
      | true => exact hwrite db' hdb
  · refine ⟨?_, by simp [isLive, hthread', hthread]⟩
    rcases hcases with ⟨hwrite, -⟩ | ⟨rfl, -⟩ | ⟨cause, applied, -, hwrite, -⟩
    · exact write_elsewhere hwrite hthread hrow
    · exact .refl threadId db'
    · cases applied with
      | false => exact Option.some.inj hwrite ▸ .refl threadId db
      | true => exact write_elsewhere hwrite hthread hrow

/-- A thread without active runs is in step. -/
theorem inStep_of_none (h : ∀ runId, ¬ db.ActiveRun threadId runId) : db.InStep threadId :=
  fun runId hrun => absurd hrun (h runId)

/-- The final status of the one active run leaves none. -/
theorem none_after_final {status : RunStatus} {output : Option Json} {error : Option String}
    (hstatus : status.isActive = false) (ht : task.Tracks threadId db) (runId : String) :
    ¬ (updateRunStatus db task.runId status output error).ActiveRun threadId runId := by
  intro hrun
  rcases Database.activeRun_updateRunStatus hrun with ⟨hne, hrun⟩ | ⟨-, hactive, -⟩
  · exact hne (ht.active runId hrun).1
  · rw [hstatus] at hactive
    cases hactive

/-- What the statement of a live task leaves active is its own run, and nothing once it has written
a final status or the status of the thread. -/
theorem write_inside (h : task.write jsonb db = some db') (hin : db.InStep threadId)
    (ht : task.Tracks threadId db) :
    db'.InStep threadId ∧ ∀ runId, db'.ActiveRun threadId runId →
      runId = task.runId ∧ task.isRecording = false ∧ task.isReleasing = false := by
  have hnone : (∀ runId, ¬ db'.ActiveRun threadId runId) → db'.InStep threadId ∧
      ∀ runId, db'.ActiveRun threadId runId →
        runId = task.runId ∧ task.isRecording = false ∧ task.isReleasing = false :=
    fun hnone => ⟨inStep_of_none hnone, fun runId hrun => absurd hrun (hnone runId)⟩
  cases hex : task.executor with
  | settingRunning =>
    rw [write, hex] at h
    cases h
    refine ⟨fun runId _ => ?_,
      fun runId hrun => ⟨?_, by simp [isRecording, hex], by simp [isReleasing, hex]⟩⟩
    · rw [isFree_updateRunStatus]
      exact ht.busy (by simp [isStarting, hex])
    · rcases Database.activeRun_updateRunStatus hrun with ⟨-, hrun⟩ | ⟨hid, -⟩
      · exact (ht.active runId hrun).1
      · exact hid
  | recording interrupted output =>
    rw [write, hex] at h
    obtain ⟨json, -, rfl⟩ := Option.map_eq_some_iff.mp h
    exact hnone (none_after_final (by cases interrupted <;> rfl) ht)
  | recordingCause cause =>
    rw [write, hex] at h
    cases h
    exact hnone (none_after_final (by cases cause <;> rfl) ht)
  | releasing | releasingCause =>
    rw [write, hex] at h
    cases h
    refine hnone fun runId hrun => ?_
    have hnot := (ht.active runId ((Database.activeRun_of_runs rfl).mp hrun)).2
    simp [isReleasing, hex] at hnot
  | created | streaming | signallingCause | cleaning | ended =>
    rw [write, hex] at h
    cases h
    exact ⟨hin, fun runId hrun =>
      ⟨(ht.active runId hrun).1, by simp [isRecording, hex], by simp [isReleasing, hex]⟩⟩

/-- **A step of a live task** keeps the status of the thread in step. -/
theorem step_inside (h : task.step jsonb db outcome = some (db', task'))
    (hin : db.InStep threadId) (ht : task.Tracks threadId db) :
    db'.InStep threadId ∧ (task'.isLive threadId = true → task'.Tracks threadId db') := by
  obtain ⟨hrun', -, hcases⟩ := step_cases h
  rcases hcases with ⟨hwrite, hnext⟩ | ⟨rfl, hex, interrupted, output, hex'⟩ |
    ⟨cause, applied, -, hwrite, hnext⟩
  · obtain ⟨hin', hactive⟩ := write_inside hwrite hin ht
    refine ⟨hin', fun _ => ⟨fun hstarting => ?_, fun runId hrun => ?_⟩⟩
    · cases hex : task.executor with
      | created =>
        rw [write, hex] at hwrite
        cases hwrite
        exact ht.busy (by simp [isStarting, hex])
      | streaming | ended => simp [hex, Executor.next] at hnext
      | settingRunning | recording | releasing | recordingCause | releasingCause
      | signallingCause | cleaning =>
        simp only [hex, Executor.next, Option.some.injEq] at hnext
        simp [isStarting, ← hnext] at hstarting
    · obtain ⟨hid, hrecording, -⟩ := hactive runId hrun
      refine ⟨hid.trans hrun'.symm, ?_⟩
      cases hex : task.executor with
      | recording | recordingCause => simp [isRecording, hex] at hrecording
      | streaming | ended => simp [hex, Executor.next] at hnext
      | created | settingRunning | releasing | releasingCause | signallingCause | cleaning =>
        simp only [hex, Executor.next, Option.some.injEq] at hnext
        simp [isReleasing, ← hnext]
  · refine ⟨hin, fun _ => ⟨fun hstarting => ?_, fun runId hrun => ?_⟩⟩
    · simp [isStarting, hex'] at hstarting
    · exact ⟨(ht.active runId hrun).1.trans hrun'.symm, by simp [isReleasing, hex']⟩
  · have hafter : db'.InStep threadId ∧ ∀ runId, db'.ActiveRun threadId runId →
        runId = task.runId := by
      cases applied with
      | false =>
        cases hwrite
        exact ⟨hin, fun runId hrun => (ht.active runId hrun).1⟩
      | true =>
        obtain ⟨hin', hactive⟩ := write_inside hwrite hin ht
        exact ⟨hin', fun runId hrun => (hactive runId hrun).1⟩
    -- an exception leads to an `except` clause or to the end
    have hexec : task'.isStarting = false ∧ task'.isReleasing = false := by
      cases hex : task.executor <;> cases cause <;>
        simp only [hex, Executor.interruptedBy, Option.some.injEq, reduceCtorEq] at hnext <;>
        simp [isStarting, isReleasing, ← hnext]
    refine ⟨hafter.1, fun _ => ⟨fun hstarting => ?_, fun runId hrun => ?_⟩⟩
    · rw [hexec.1] at hstarting
      cases hstarting
    · exact ⟨(hafter.2 runId hrun).trans hrun'.symm, hexec.2⟩

end Task

namespace Server

variable {setting : Setting} {s s' t : Server} {threadId : String} {a : Label}

/-- A request enters the thread while a run of it is active or a process on it is live, or a batch
item enters it although it is not busy. -/
def crowds (threadId : String) (s : Server) : Label → Bool
  | .create i => s.creations[i]?.any fun c =>
      c.enters threadId && (s.db.hasActive threadId || s.tasks.any (·.isLive threadId) ||
        s.creations.any (·.isEntered threadId) || (c.kind = .batch && s.db.isFree threadId))
  | _ => false

/-- What every run without crowding keeps. -/
structure Tracks (threadId : String) (s : Server) : Prop where
  owned : s.Owned
  inStep : s.db.InStep threadId
  one : s.tasks.countP (·.isLive threadId) + s.creations.countP (·.isEntered threadId) ≤ 1
  task : ∀ task ∈ s.tasks, task.isLive threadId = true → task.Tracks threadId s.db
  creation : ∀ c ∈ s.creations, c.isEntered threadId = true → c.Tracks threadId s.db

/-- Where one process at most is on the thread, a request that has entered it is that one. -/
theorem Tracks.only_creation {i : ℕ} {c : Creation} (hs : Tracks threadId s)
    (hc : s.creations[i]? = some c) (hentered : c.isEntered threadId = true) :
    (∀ task ∈ s.tasks, task.isLive threadId = false) ∧
      ∀ (j : ℕ) (c' : Creation), s.creations[j]? = some c' → c'.isEntered threadId = true →
        j = i := by
  have hone := hs.one
  have hpos := one_le_countP (p := (·.isEntered threadId)) (List.mem_of_getElem? hc) hentered
  have hzero : s.tasks.countP (·.isLive threadId) = 0 := by omega
  refine ⟨fun task htask => ?_, fun j c' hc' hentered' => ?_⟩
  · simpa using List.countP_eq_zero.mp hzero task htask
  · have hle : s.creations.countP (·.isEntered threadId) ≤ 1 := by omega
    exact eq_of_countP_le_one hle hc' hentered' hc hentered

theorem Tracks.only_task {i : ℕ} {task : Task} (hs : Tracks threadId s)
    (htask : s.tasks[i]? = some task) (hlive : task.isLive threadId = true) :
    (∀ c ∈ s.creations, c.isEntered threadId = false) ∧
      ∀ (j : ℕ) (task' : Task), s.tasks[j]? = some task' → task'.isLive threadId = true →
        j = i := by
  have hone := hs.one
  have hpos := one_le_countP (p := (·.isLive threadId)) (List.mem_of_getElem? htask) hlive
  have hzero : s.creations.countP (·.isEntered threadId) = 0 := by omega
  refine ⟨fun c hc => ?_, fun j task' htask' hlive' => ?_⟩
  · simpa using List.countP_eq_zero.mp hzero c hc
  · have hle : s.tasks.countP (·.isLive threadId) ≤ 1 := by omega
    exact eq_of_countP_le_one hle htask' hlive' htask hlive

section create

variable {i : ℕ} {c : Creation} {db : Database} {stage : CreationStage}

/-- A step of the request that has entered the thread: it is the only one, and no task is live. -/
theorem tracks_create_inside (hs : Tracks threadId s) (hc : s.creations[i]? = some c)
    (hmoves : c.Moves s.db db stage) (hentered : c.isEntered threadId = true) :
    Tracks threadId { s with db, tasks := s.tasks ++ c.spawned
                             creations := s.creations.set i { c with stage } } := by
  have howned := owned_create hs.owned hc hmoves
  have hcount := countP_set_add (y := { c with stage }) (·.isEntered threadId) hc
  have hone := hs.one
  obtain ⟨hnotLive, honly⟩ := hs.only_creation hc hentered
  have hothers : ∀ c' ∈ s.creations.set i { c with stage }, c'.isEntered threadId = true →
      c' = { c with stage } := by
    intro c' hc' hentered'
    rcases mem_set_cases hc' with rfl | ⟨j, hji, hj⟩
    · rfl
    · exact absurd (honly j c' hj hentered') hji
  have htasks : ∀ task ∈ s.tasks, task.isLive threadId = true → task.Tracks threadId db :=
    fun task htask hlive => absurd hlive (by simp [hnotLive task htask])
  rcases hmoves.inside hentered (hs.creation c (List.mem_of_getElem? hc) hentered) with
    ⟨hspawned, hentered', htracks⟩ | ⟨hspawned, hentered', rfl⟩ |
      ⟨hspawned, hentered', rfl, hlive, htracks⟩
  · simp only [hentered, hentered', if_true] at hcount
    rw [hspawned, List.append_nil] at howned ⊢
    refine ⟨howned, fun _ _ => htracks.busy, ?_, htasks, ?_⟩
    · show s.tasks.countP _ + (s.creations.set i { c with stage }).countP _ ≤ 1
      omega
    · exact fun c' hc' hentered' => hothers c' hc' hentered' ▸ htracks
  · simp only [hentered, hentered', if_true, Bool.false_eq_true, if_false] at hcount
    rw [hspawned, List.append_nil] at howned ⊢
    refine ⟨howned, hs.inStep, ?_, htasks, ?_⟩
    · show s.tasks.countP _ + (s.creations.set i { c with stage }).countP _ ≤ 1
      omega
    · intro c' hc' hentered''
      rw [hothers c' hc' hentered'', hentered'] at hentered''
      cases hentered''
  · simp only [hentered, hentered', if_true, Bool.false_eq_true, if_false] at hcount
    rw [hspawned] at howned ⊢
    refine ⟨howned, hs.inStep, ?_, forall_append (fun _ => htracks) htasks, ?_⟩
    · show (s.tasks ++ [c.task]).countP _ + (s.creations.set i { c with stage }).countP _ ≤ 1
      rw [List.countP_append, List.countP_singleton, if_pos hlive]
      omega
    · intro c' hc' hentered''
      rw [hothers c' hc' hentered'', hentered'] at hentered''
      cases hentered''

/-- The step that enters the thread, when nobody else has. -/
theorem tracks_create_entering (hs : Tracks threadId s) (hc : s.creations[i]? = some c)
    (hmoves : c.Moves s.db db stage) (henters : c.enters threadId = true)
    (hcrowds : crowds threadId s (.create i) = false) :
    Tracks threadId { s with db, tasks := s.tasks ++ c.spawned
                             creations := s.creations.set i { c with stage } } := by
  have howned := owned_create hs.owned hc hmoves
  have hcount := countP_set_add (y := { c with stage }) (·.isEntered threadId) hc
  obtain ⟨hactive, hlive, hothers, hbatch⟩ : s.db.hasActive threadId = false ∧
      (∀ task ∈ s.tasks, task.isLive threadId = false) ∧
      (∀ c ∈ s.creations, c.isEntered threadId = false) ∧
      (c.kind = .batch → s.db.isFree threadId = false) := by
    simpa [crowds, hc, henters, and_assoc] using hcrowds
  have htasks : ∀ task ∈ s.tasks, task.isLive threadId = true → task.Tracks threadId db :=
    fun task htask hlive' => absurd hlive' (by simp [hlive task htask])
  have hnotLive : s.tasks.countP (·.isLive threadId) = 0 :=
    List.countP_eq_zero.mpr (by simpa using hlive)
  have hnotEntered : s.creations.countP (·.isEntered threadId) = 0 :=
    List.countP_eq_zero.mpr (by simpa using hothers)
  obtain ⟨hspawned, hafter⟩ := hmoves.entering henters hactive hbatch
  rw [hspawned, List.append_nil] at howned ⊢
  have hcreations : { c with stage }.isEntered threadId = true →
      { c with stage }.Tracks threadId db := by
    rcases hafter with ⟨-, hentered'⟩ | htracks
    · exact fun h => absurd h (by simp [hentered'])
    · exact fun _ => htracks
  refine ⟨howned, ?_, ?_, htasks, ?_⟩
  · rcases hafter with ⟨rfl, -⟩ | htracks
    · exact hs.inStep
    · exact fun _ _ => htracks.busy
  · show s.tasks.countP _ + (s.creations.set i { c with stage }).countP _ ≤ 1
    split at hcount <;> split at hcount <;> omega
  · exact forall_set hcreations fun c' hc' h => absurd h (by simp [hothers c' hc'])

/-- A step of a request that has nothing to do with the thread. -/
theorem tracks_create_outside (hs : Tracks threadId s) (hc : s.creations[i]? = some c)
    (hmoves : c.Moves s.db db stage) (henters : c.enters threadId = false)
    (hentered : c.isEntered threadId = false) :
    Tracks threadId { s with db, tasks := s.tasks ++ c.spawned
                             creations := s.creations.set i { c with stage } } := by
  have hcount := countP_set_add (y := { c with stage }) (·.isEntered threadId) hc
  have hone := hs.one
  obtain ⟨hquieter, hentered', hspawned⟩ := hmoves.outside henters hentered
  simp only [hentered, hentered', Bool.false_eq_true, if_false] at hcount
  refine ⟨owned_create hs.owned hc hmoves, hs.inStep.quieter hquieter, ?_, ?_, ?_⟩
  · have hzero : c.spawned.countP (·.isLive threadId) = 0 :=
      List.countP_eq_zero.mpr (by simpa using hspawned)
    show (s.tasks ++ c.spawned).countP _ + (s.creations.set i { c with stage }).countP _ ≤ 1
    rw [List.countP_append]
    omega
  · intro task htask hlive
    rcases List.mem_append.mp htask with htask | htask
    · exact (hs.task task htask hlive).quieter hquieter
    · rw [hspawned task htask] at hlive
      cases hlive
  · refine forall_set (fun h => absurd h (by simp [hentered'])) fun c' hc' h => ?_
    exact (hs.creation c' hc' h).quieter hquieter

/-- **Creation steps** keep the status in step, without crowding. -/
theorem tracks_create (hs : Tracks threadId s) (hc : s.creations[i]? = some c)
    (hmoves : c.Moves s.db db stage) (hcrowds : crowds threadId s (.create i) = false) :
    Tracks threadId { s with db, tasks := s.tasks ++ c.spawned
                             creations := s.creations.set i { c with stage } } := by
  cases hentered : c.isEntered threadId with
  | true => exact tracks_create_inside hs hc hmoves hentered
  | false =>
    cases henters : c.enters threadId with
    | true => exact tracks_create_entering hs hc hmoves henters hcrowds
    | false => exact tracks_create_outside hs hc hmoves henters hentered

end create

theorem tracks_execute {i : ℕ} {outcome : Outcome} {task task' : Task} {db : Database}
    (hs : Tracks threadId s) (htask : s.tasks[i]? = some task)
    (hstep : task.step setting.jsonb s.db outcome = some (db, task')) :
    Tracks threadId { s with db, tasks := s.tasks.set i task' } := by
  have howned := owned_execute hs.owned htask hstep
  have hmem := List.mem_of_getElem? htask
  have hcount := countP_set_add (y := task') (·.isLive threadId) htask
  have hone := hs.one
  cases hlive : task.isLive threadId with
  | true =>
    obtain ⟨hnotEntered, honly⟩ := hs.only_task htask hlive
    obtain ⟨hin, htracks⟩ := Task.step_inside hstep hs.inStep (hs.task task hmem hlive)
    refine ⟨howned, hin, ?_, fun other hother hlive' => ?_, fun c hc hentered => ?_⟩
    · show (s.tasks.set i task').countP _ + s.creations.countP _ ≤ 1
      rw [hlive, if_pos rfl] at hcount
      split at hcount <;> omega
    · rcases mem_set_cases hother with rfl | ⟨j, hji, hj⟩
      · exact htracks hlive'
      · exact absurd (honly j other hj hlive') hji
    · rw [hnotEntered c hc] at hentered
      cases hentered
  | false =>
    obtain ⟨hquieter, hlive'⟩ := Task.step_outside hstep hlive (hs.owned.task_row task hmem)
    simp only [hlive, hlive', Bool.false_eq_true, if_false] at hcount
    refine ⟨howned, hs.inStep.quieter hquieter, ?_, ?_, fun c hc hentered => ?_⟩
    · show (s.tasks.set i task').countP _ + s.creations.countP _ ≤ 1
      omega
    · refine forall_set (fun h => absurd h (by simp [hlive'])) fun other hother hlive'' => ?_
      exact (hs.task other hother hlive'').quieter hquieter
    · exact (hs.creation c hc hentered).quieter hquieter

/-- A control request writes no active status. -/
theorem quieter_control {db db' : Database} {tasks : List Task} {c : Control} {ok : Bool}
    {stage : ControlStage} (h : c.step db tasks ok = some (db', stage)) :
    Database.Quieter threadId db db' := by
  rcases Control.step_cases h with rfl | ⟨action, -, -, rfl⟩
  · exact .refl threadId db'
  · refine ⟨fun runId hrun => ?_, fun hfree => by rwa [Task.isFree_updateRunStatus]⟩
    rcases Database.activeRun_updateRunStatus hrun with ⟨-, hrun⟩ | ⟨-, hactive, -⟩
    · exact hrun
    · cases action <;> cases hactive

theorem tracks_cancelTask (hs : Tracks threadId s) (runId : String) :
    Tracks threadId { s with tasks := cancelTask s.tasks runId } := by
  have hcancel : ∀ task ∈ cancelTask s.tasks runId, task.isLive threadId = true →
      task.Tracks threadId s.db :=
    forall_cancelTask runId (fun task h hlive => ⟨(h hlive).busy, (h hlive).active⟩) hs.task
  refine ⟨owned_cancelTask hs.owned runId, hs.inStep, ?_, hcancel, hs.creation⟩
  show (cancelTask s.tasks runId).countP _ + s.creations.countP _ ≤ 1
  rw [countP_cancelTask s.tasks runId fun _ => rfl]
  exact hs.one

theorem tracks_step (hs : Tracks threadId s) (hcrowds : crowds threadId s a = false)
    (h : s.step setting a = some s') : Tracks threadId s' := by
  cases a with
  | requestRun kind user threadId' request runId =>
    have howned := owned_step _ hs.owned h
    cases h
    refine ⟨howned, hs.inStep, ?_, hs.task, ?_⟩
    · simpa [Creation.isEntered] using hs.one
    · exact forall_append (by simp [Creation.isEntered]) hs.creation
  | create i =>
    obtain ⟨c, db, stage, hc, hmoves, rfl⟩ := step_create h
    exact tracks_create hs hc hmoves hcrowds
  | execute i outcome =>
    obtain ⟨task, db, task', htask, hstep, rfl⟩ := step_execute h
    exact tracks_execute hs htask hstep
  | disconnect runId =>
    rcases step_disconnect h with rfl | rfl
    · exact hs
    · exact tracks_cancelTask hs runId
  | requestControl | requestObserver =>
    have howned := owned_step _ hs.owned h
    cases h
    exact ⟨howned, hs.inStep, hs.one, hs.task, hs.creation⟩
  | control i ok =>
    have howned := owned_step _ hs.owned h
    obtain ⟨c, db, stage, -, hstep, rfl⟩ := step_control h
    have hquieter : Database.Quieter threadId s.db db := quieter_control hstep
    refine ⟨howned, hs.inStep.quieter hquieter, hs.one, fun task htask hlive => ?_,
      fun c hc hentered => ?_⟩
    · exact (hs.task task htask hlive).quieter hquieter
    · exact (hs.creation c hc hentered).quieter hquieter
  | observe i timeout =>
    have howned := owned_step _ hs.owned h
    obtain ⟨o, stage, cancels, -, -, rfl⟩ := step_observe h
    cases cancels with
    | false => exact ⟨howned, hs.inStep, hs.one, hs.task, hs.creation⟩
    | true =>
      have hcancel := tracks_cancelTask hs o.runId
      exact ⟨howned, hcancel.inStep, hcancel.one, hcancel.task, hcancel.creation⟩

/-- **Thread status tracks its runs** in every run of the server from tables in which it does, as
long as the requests that create runs on the thread enter it one at a time, when no run of it is
active and no task is still to write its status, and a batch item finds it busy. -/
theorem status_tracks_runs (setting : Setting) (threadId : String) (db : Database) (t : Server)
    (as : List Label) (hstart : db.isFree threadId = true → db.hasActive threadId = false)
    (hcrowds : Along (step setting) (fun s a => crowds threadId s a = false) (idle db) as)
    (hrun : exec (step setting) (idle db) as = some t) :
    t.db.isFree threadId = true → t.db.hasActive threadId = false := by
  have hin : db.InStep threadId := by
    intro runId hactive
    rw [← Bool.not_eq_true]
    intro hfree
    have := hstart hfree
    rw [Database.hasActive_eq_true.mpr ⟨runId, hactive⟩] at this
    cases this
  have hs : Tracks threadId (idle db) :=
    ⟨owned_idle db, hin, by simp [idle], by simp [idle], by simp [idle]⟩
  have ht := exec_invariant (fun _ _ _ hs hP h => tracks_step hs hP h) hs hcrowds hrun
  intro hfree
  rw [← Bool.not_eq_true]
  intro hactive
  obtain ⟨runId, hactive⟩ := Database.hasActive_eq_true.mp hactive
  rw [ht.inStep runId hactive] at hfree
  cases hfree

/-- One run after the other. -/
def sequentialLabels : List Label :=
  creationLabels .run "t" "r" 0 ++ taskLabels 0 false ++ creationLabels .stream "t" "q" 1 ++
    taskLabels 1 true

def sequentialServer : Server :=
  (exec (step exampleSetting) (idle exampleDatabase) sequentialLabels).get (by decide)

theorem status_tracks_runs_sequential :
    sequentialServer.db.isFree "t" = true ∧ sequentialServer.db.hasActive "t" = false :=
  have hfree : sequentialServer.db.isFree "t" = true := by decide
  ⟨hfree, status_tracks_runs exampleSetting "t" exampleDatabase sequentialServer sequentialLabels
    (by decide) (by decide) (Option.some_get _).symm hfree⟩

/-- Two runs at a time: the first one to end sets the thread to idle. -/
theorem idle_with_active_run :
    ¬ ∀ (setting : Setting) (threadId : String) (db : Database) (t : Server) (as : List Label),
      (db.isFree threadId = true → db.hasActive threadId = false) →
      exec (step setting) (idle db) as = some t →
      t.db.isFree threadId = true → t.db.hasActive threadId = false := by
  intro h
  have hrun : (exec (step exampleSetting) (idle exampleDatabase)
      (creationLabels .run "t" "r" 0 ++ creationLabels .run "t" "q" 1 ++ taskLabels 0 false)).any
        (fun t => t.db.isFree "t" && t.db.hasActive "t") = true := by
    decide
  obtain ⟨t, ht, hboth⟩ := (Option.any_eq_true _ _).mp hrun
  obtain ⟨hfree, hactive⟩ := Bool.and_eq_true_iff.mp hboth
  rw [h exampleSetting "t" exampleDatabase t _ (by decide) ht hfree] at hactive
  cases hactive

end Server

end OpenLangGraph

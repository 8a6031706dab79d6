import OpenLangGraph.Api.Runs
import OpenLangGraph.Core.Serializers
import OpenLangGraph.Services.EventStore

/-!
# The executor of a run

`execute_run_async` of `api/runs.py` as a background task. A stage is the await the task is at,
and a step is the end of this await: the awaited statement has run, or it has raised, or the
cancellation of the task has been delivered there. An exception may come before or after the
statement took effect. What the graph streams is the subject of `RunStream`; here a stream ends,
raises or is cancelled.

## Leaving the body

Every exception but `CancelledError` is recorded as `failed`, a cancellation as `cancelled`, and
then the thread is set to idle, whatever had been written before. An exception in these handlers
ends them. `active_runs.pop` comes last, so a task that was cancelled before it began, or whose
cleanup raised, stays in `active_runs`.

## Main definitions

* `Executor`, `Outcome`, `Task.step`
* `Task.write` — what the awaited statement of a stage does to the tables

## Main results

* `Task.step_cases` — the task goes on, the graph ends, or an exception leads away
* `Task.write_cases` — a statement changes one run, or the status of one thread, or nothing
-/

namespace OpenLangGraph

open Runs GeneralSerializer

/-- How a task has ended. -/
inductive TaskResult
  | returned
  | raised
  | cancelled
deriving DecidableEq

/-- The two `except` clauses. -/
inductive Cause
  | cancelled
  | failed (error : String)
deriving DecidableEq

namespace Cause

/-- The status that the handler records. -/
def status : Cause → RunStatus
  | .cancelled => .cancelled
  | .failed _ => .failed

/-- The error message that the handler records. -/
def errorMessage : Cause → Option String
  | .cancelled => none
  | .failed error => some error

/-- The exception is raised again. -/
def result : Cause → TaskResult
  | .cancelled => .cancelled
  | .failed _ => .raised

end Cause

/-- The await that the executor is at. -/
inductive Executor
  /-- the task exists, but has not begun -/
  | created
  /-- `update_run_status(run_id, "running")` -/
  | settingRunning
  /-- the graph is streaming -/
  | streaming
  /-- `update_run_status` with the final status -/
  | recording (interrupted : Bool) (output : PyVal)
  /-- `set_thread_status` after it -/
  | releasing (interrupted : Bool)
  /-- `update_run_status` in an `except` clause -/
  | recordingCause (cause : Cause)
  /-- `set_thread_status` in an `except` clause -/
  | releasingCause (cause : Cause)
  /-- `signal_run_cancelled` or `signal_run_error` -/
  | signallingCause (cause : Cause)
  /-- `cleanup_run` in the `finally` clause -/
  | cleaning (result : TaskResult)
  | ended (result : TaskResult)

structure Task where
  runId : String
  threadId : String
  executor : Executor
  /-- `task.cancel()` was called, and the `CancelledError` is still to be raised. -/
  cancelRequested : Bool
  /-- The task is in `active_runs`. -/
  listed : Bool

/-- How an await ends. -/
inductive Outcome
  | completes
  /-- the graph has come to an end, with or without an interrupt -/
  | ends (interrupted : Bool) (finalOutput : PyVal)
  | raises (error : String) (applied : Bool)
  | cancelled (applied : Bool)

/-- The exception that ends the await, and whether it came after the statement took effect. -/
def Outcome.cause? : Outcome → Option (Cause × Bool)
  | .raises error applied => some (.failed error, applied)
  | .cancelled applied => some (.cancelled, applied)
  | .completes | .ends _ _ => none

/-! ### Statements -/

/-- `update_run_status`; an output or error of `None` leaves the column alone. -/
def updateRunStatus (db : Database) (runId : String) (status : RunStatus) (output : Option Json)
    (error : Option String) : Database :=
  db.updateRuns runId
    (fun run => { run with status, output := output.or run.output
                           errorMessage := error.or run.errorMessage })
    fun _ => ⟨rfl, rfl⟩

@[simp] theorem keys_updateRunStatus (db : Database) (runId : String) (status : RunStatus)
    (output : Option Json) (error : Option String) :
    (updateRunStatus db runId status output error).keys = db.keys :=
  Database.keys_updateRuns _ _

/-- `final_output or {}` -/
def orEmpty (finalOutput : PyVal) : PyVal := if finalOutput.truthy then finalOutput else .dict []

/-- An output as it is bound to its column; `none` if it cannot be. -/
def outputColumn (jsonb : Jsonb) (output : PyVal) : Option Json :=
  (dumps false (serialize output)).filter jsonb.accepts

/-! ### The task -/

/-- The stage after an await that has completed. -/
def Executor.next : Executor → Option Executor
  | .created => some .settingRunning
  | .settingRunning => some .streaming
  | .streaming => none
  | .recording interrupted _ => some (.releasing interrupted)
  | .releasing _ => some (.cleaning .returned)
  | .recordingCause cause => some (.releasingCause cause)
  | .releasingCause cause => some (.signallingCause cause)
  | .signallingCause cause => some (.cleaning cause.result)
  | .cleaning result => some (.ended result)
  | .ended _ => none

/-- The stage after an exception. A task that has not begun can only be cancelled, and then its
body is never entered. -/
def Executor.interruptedBy (cause : Cause) : Executor → Option Executor
  | .created =>
    match cause with
    | .cancelled => some (.ended .cancelled)
    | .failed _ => none
  | .settingRunning | .streaming | .recording _ _ | .releasing _ => some (.recordingCause cause)
  | .recordingCause _ | .releasingCause _ | .signallingCause _ => some (.cleaning cause.result)
  | .cleaning _ => some (.ended cause.result)
  | .ended _ => none

namespace Task

/-- The tables after the awaited statement; `none` if it cannot succeed. -/
def write (jsonb : Jsonb) (db : Database) (task : Task) : Option Database :=
  match task.executor with
  | .settingRunning => some (updateRunStatus db task.runId .running none none)
  | .recording interrupted output => (outputColumn jsonb output).map fun json =>
    updateRunStatus db task.runId (if interrupted then .interrupted else .completed) (some json)
      none
  | .releasing interrupted =>
    some (setThreadStatus db task.threadId (if interrupted then .interrupted else .idle))
  | .recordingCause cause =>
    some (updateRunStatus db task.runId cause.status (some (.obj [])) cause.errorMessage)
  | .releasingCause _ => some (setThreadStatus db task.threadId .idle)
  | .created | .streaming | .signallingCause _ | .cleaning _ | .ended _ => some db

/-- The last step of a task takes it out of `active_runs`. -/
def unlist (task : Task) : Bool :=
  match task.executor with
  | .cleaning _ => false
  | _ => task.listed

/-- An exception at the await, before or after the statement took effect. -/
def interrupt (jsonb : Jsonb) (db : Database) (task : Task) (cause : Cause) (applied : Bool) :
    Option (Database × Task) := do
  let db ← (if applied then task.write jsonb db else some db)
  let executor ← task.executor.interruptedBy cause
  return (db, { task with executor })

/-- One step of the task. -/
def step (jsonb : Jsonb) (db : Database) (task : Task) : Outcome → Option (Database × Task)
  | .completes => do
    let db ← task.write jsonb db
    let executor ← task.executor.next
    return (db, { task with executor, listed := task.unlist })
  | .ends interrupted finalOutput =>
    match task.executor with
    | .streaming =>
      some (db, { task with executor := .recording interrupted (orEmpty finalOutput) })
    | _ => none
  | .raises error applied => task.interrupt jsonb db (.failed error) applied
  | .cancelled applied =>
    if task.cancelRequested then
      { task with cancelRequested := false }.interrupt jsonb db .cancelled applied
    else none

/-! ### What a step can do -/

variable {jsonb : Jsonb} {db db' : Database} {task task' : Task}

/-- What the awaited statement changes: a run, the status of a thread, or nothing. -/
theorem write_cases (h : task.write jsonb db = some db') :
    (∃ status output error, db' = updateRunStatus db task.runId status output error ∧
      (task.executor = .settingRunning ∧ status = .running ∨
        (∃ interrupted finalOutput, task.executor = .recording interrupted finalOutput ∧
          status = if interrupted then .interrupted else .completed) ∨
        ∃ cause, task.executor = .recordingCause cause ∧ status = cause.status)) ∨
    (∃ status, db' = setThreadStatus db task.threadId status ∧ status ≠ .busy ∧
      ((∃ interrupted, task.executor = .releasing interrupted) ∨
        ∃ cause, task.executor = .releasingCause cause)) ∨
    db' = db := by
  cases hex : task.executor with
  | settingRunning =>
    rw [write, hex] at h
    exact .inl ⟨_, _, _, (Option.some.inj h).symm, .inl ⟨rfl, rfl⟩⟩
  | recording interrupted output =>
    rw [write, hex] at h
    obtain ⟨json, -, rfl⟩ := Option.map_eq_some_iff.mp h
    exact .inl ⟨_, _, _, rfl, .inr (.inl ⟨interrupted, output, rfl, rfl⟩)⟩
  | releasing interrupted =>
    rw [write, hex] at h
    refine .inr (.inl ⟨_, (Option.some.inj h).symm, ?_, .inl ⟨interrupted, rfl⟩⟩)
    cases interrupted <;> simp
  | recordingCause cause =>
    rw [write, hex] at h
    exact .inl ⟨_, _, _, (Option.some.inj h).symm, .inr (.inr ⟨cause, rfl, rfl⟩)⟩
  | releasingCause cause =>
    rw [write, hex] at h
    exact .inr (.inl ⟨_, (Option.some.inj h).symm, by simp, .inr ⟨cause, rfl⟩⟩)
  | created | streaming | signallingCause | cleaning | ended =>
    rw [write, hex] at h
    exact .inr (.inr (Option.some.inj h).symm)

theorem interrupt_eq_some {cause : Cause} {applied : Bool}
    (h : task.interrupt jsonb db cause applied = some (db', task')) :
    task'.runId = task.runId ∧ task'.threadId = task.threadId ∧
      (if applied then task.write jsonb db else some db) = some db' ∧
        task.executor.interruptedBy cause = some task'.executor := by
  rw [interrupt] at h
  obtain ⟨db₁, hdb, h⟩ := Option.bind_eq_some_iff.mp h
  obtain ⟨executor, hexec, h⟩ := Option.bind_eq_some_iff.mp h
  cases h
  exact ⟨rfl, rfl, hdb, hexec⟩

/-- **What a step can do**: the awaited statement has run and the task goes on, the graph has
ended, or an exception leads away from the await. -/
theorem step_cases {outcome : Outcome} (h : task.step jsonb db outcome = some (db', task')) :
    task'.runId = task.runId ∧ task'.threadId = task.threadId ∧
      ((task.write jsonb db = some db' ∧ task.executor.next = some task'.executor) ∨
        (db' = db ∧ task.executor = .streaming ∧
          ∃ interrupted output, task'.executor = .recording interrupted output) ∨
        ∃ cause applied, outcome.cause? = some (cause, applied) ∧
          (if applied then task.write jsonb db else some db) = some db' ∧
            task.executor.interruptedBy cause = some task'.executor) := by
  cases outcome with
  | completes =>
    rw [step] at h
    obtain ⟨db₁, hdb, h⟩ := Option.bind_eq_some_iff.mp h
    obtain ⟨executor, hexec, h⟩ := Option.bind_eq_some_iff.mp h
    cases h
    exact ⟨rfl, rfl, .inl ⟨hdb, hexec⟩⟩
  | ends interrupted finalOutput =>
    rw [step] at h
    split at h
    · rename_i hex
      cases h
      exact ⟨rfl, rfl, .inr (.inl ⟨rfl, hex, _, _, rfl⟩)⟩
    · cases h
  | raises error applied =>
    obtain ⟨hrun, hthread, hdb, hexec⟩ := interrupt_eq_some h
    exact ⟨hrun, hthread, .inr (.inr ⟨_, _, rfl, hdb, hexec⟩)⟩
  | cancelled applied =>
    rw [step] at h
    split at h
    · obtain ⟨hrun, hthread, hdb, hexec⟩ := interrupt_eq_some h
      exact ⟨hrun, hthread, .inr (.inr ⟨_, _, rfl, hdb, hexec⟩)⟩
    · cases h

theorem keys_write (h : task.write jsonb db = some db') : db'.keys = db.keys := by
  rcases write_cases h with ⟨status, output, error, rfl, -⟩ | ⟨status, rfl, -⟩ | rfl
  · exact keys_updateRunStatus _ _ _ _ _
  · rfl
  · rfl

theorem keys_step {outcome : Outcome} (h : task.step jsonb db outcome = some (db', task')) :
    db'.keys = db.keys := by
  rcases (step_cases h).2.2 with ⟨hwrite, -⟩ | ⟨rfl, -⟩ | ⟨cause, applied, -, hwrite, -⟩
  · exact keys_write hwrite
  · rfl
  · cases applied with
    | false => exact Option.some.inj hwrite ▸ rfl
    | true => exact keys_write hwrite

end Task

end OpenLangGraph

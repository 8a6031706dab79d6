import Mathlib.Logic.Relation
import OpenLangGraph.Api.ExecuteRun

/-!
# The requests about a run

Every request is a process with a stage, the await it is at; between two awaits nothing else runs.
There are three kinds of requests beside the executors:

* creations: `create_run`, `create_and_stream_run`, and one item of `create_batch_runs` (the items
  of a batch are created one after the other, so an item starts when its predecessor is done);
* controls: `update_run` and `cancel_run_endpoint`, which go through `cancel_run` and
  `interrupt_run` of the streaming service;
* observers: `join_run`, `wait_for_run_standalone`, and the waiting part of `create_run_and_wait`.

## Waiting

Observers await the executor's own task under a timeout. When the time is up, `wait_for` cancels
the task it awaits and waits for it to end.

## Main definitions

* `Creation.step`, `Control.step`, `Observer.step`
* `Creation.Moves` — the steps of a creation, one by one

## Main results

* `Creation.does_create`, `Creation.does_createBatchItem` — a creation request that runs alone does
  what `Runs` says
* `Creation.Moves.row_cases`, `Control.step_cases` — what a step writes
-/

namespace OpenLangGraph

open Runs

/-! ### Creations -/

inductive CreationKind
  | run
  | stream
  | batch
deriving DecidableEq

/-- The status of the new row. -/
def CreationKind.status : CreationKind → RunStatus
  | .run | .batch => .pending
  | .stream => .streaming

/-- The next thing a creation request does. A thread that an earlier query has loaded stays in
the session, and a later query returns it as it was loaded. -/
inductive CreationStage
  | checking
  | resolving (loaded : Option Thread)
  | settingBusy (loaded : Option Thread) (assistant : Assistant)
  | readingThread (loaded : Option Thread) (assistant : Assistant)
  | writingMetadata (assistant : Assistant) (metadata : JsonObject)
  | inserting (loaded : Option Thread) (assistant : Assistant)
  | spawning
  | succeeded
  /-- turned down by one of the checks -/
  | rejected (error : RequestError)
  /-- failed after the checks -/
  | failed (error : RequestError)

structure Creation where
  kind : CreationKind
  user : User
  threadId : String
  request : RunCreate
  runId : String
  stage : CreationStage

namespace Creation

/-- The first query: the check of a resume command, or of the access to the thread of a batch
item. -/
def check (db : Database) (c : Creation) : Except RequestError (Option Thread) :=
  match c.kind with
  | .run | .stream =>
    if c.request.hasResume then
      (checkResume c.threadId (db.thread? c.threadId)).map fun _ => db.thread? c.threadId
    else .ok none
  | .batch =>
    match (db.thread? c.threadId).filter (buildThreadAccessFilter c.user.identity c.user.orgId) with
    | none => .error (.httpException 404 ("Thread '" ++ c.threadId ++ "' not found"))
    | some thread => .ok (some thread)

/-- The row that is added. -/
def row (c : Creation) (assistant : Assistant) : Run :=
  newRun c.user c.threadId assistant c.kind.status c.request.input c.request.config
    (if c.kind = .batch then none else c.request.context) c.runId

/-- One step of a creation request. A batch item adds its run first; the others add it last. -/
def step (registry : Registry) (db : Database) (c : Creation) : Option (Database × CreationStage) :=
  match c.stage with
  | .checking =>
    match c.check db with
    | .error e => some (db, .rejected e)
    | .ok loaded => some (db, .resolving loaded)
  | .resolving loaded =>
    match findAssistant registry db c.request.assistantId with
    | .error e => some (db, .rejected e)
    | .ok assistant =>
      some (db, if c.kind = .batch then .inserting loaded assistant
        else .settingBusy loaded assistant)
  | .settingBusy loaded assistant =>
    some (setThreadStatus db c.threadId .busy, .readingThread loaded assistant)
  | .readingThread loaded assistant =>
    match db.thread? c.threadId with
    | none => some (db, .failed (.httpException 404
        ("Thread '" ++ c.threadId ++ "' not found for metadata update")))
    | some thread =>
      some (db, .writingMetadata assistant
        (mergeMetadata (loaded.getD thread).metadataJson assistant))
  | .writingMetadata assistant metadata =>
    some (writeThreadMetadata db c.threadId metadata,
      if c.kind = .batch then .spawning else .inserting none assistant)
  | .inserting loaded assistant =>
    match db.insertRun (c.row assistant) with
    | none => some (db, .failed .integrityError)
    | some db => some (db, if c.kind = .batch then .settingBusy loaded assistant else .spawning)
  | .spawning => some (db, .succeeded)
  | .succeeded | .rejected _ | .failed _ => none

/-- The background task that a creation request starts. -/
def task (c : Creation) : Task :=
  { runId := c.runId, threadId := c.threadId, executor := .created, cancelRequested := false
    listed := true }

/-- The row of the run has been added, and its task has not been started. -/
def hasRow (c : Creation) : Bool :=
  match c.stage with
  | .spawning => true
  | .settingBusy _ _ | .readingThread _ _ | .writingMetadata _ _ => c.kind = .batch
  | _ => false

/-- The request is the one that drives the run until its task is started. -/
def drives (c : Creation) (runId : String) : Bool := c.hasRow && c.runId = runId

theorem drives_eq_true {c : Creation} {runId : String} :
    c.drives runId = true ↔ c.hasRow = true ∧ c.runId = runId := by
  simp [drives]

/-- The task that the step starts, if it does. -/
def spawned (c : Creation) : List Task :=
  match c.stage with
  | .spawning => [c.task]
  | _ => []

/-! ### What a creation step can do -/

/-- The steps of a creation request: the tables and the stage afterwards. -/
inductive Moves (db : Database) (c : Creation) : Database → CreationStage → Prop
  | checked {loaded} : c.stage = .checking → c.check db = .ok loaded →
    Moves db c db (.resolving loaded)
  | rejected {e} : (c.stage = .checking ∨ ∃ loaded, c.stage = .resolving loaded) →
      Moves db c db (.rejected e)
  | resolved {loaded assistant} : c.stage = .resolving loaded → c.kind ≠ .batch →
      Moves db c db (.settingBusy loaded assistant)
  | resolvedBatch {loaded assistant} : c.stage = .resolving loaded → c.kind = .batch →
      Moves db c db (.inserting loaded assistant)
  | setBusy {loaded assistant} : c.stage = .settingBusy loaded assistant →
      Moves db c (setThreadStatus db c.threadId .busy) (.readingThread loaded assistant)
  | read {loaded assistant metadata} : c.stage = .readingThread loaded assistant →
      Moves db c db (.writingMetadata assistant metadata)
  | wrote {assistant metadata} : c.stage = .writingMetadata assistant metadata → c.kind ≠ .batch →
      Moves db c (writeThreadMetadata db c.threadId metadata) (.inserting none assistant)
  | wroteBatch {assistant metadata} : c.stage = .writingMetadata assistant metadata →
      c.kind = .batch → Moves db c (writeThreadMetadata db c.threadId metadata) .spawning
  | inserted {loaded assistant db'} : c.stage = .inserting loaded assistant → c.kind ≠ .batch →
      db.insertRun (c.row assistant) = some db' → Moves db c db' .spawning
  | insertedBatch {loaded assistant db'} : c.stage = .inserting loaded assistant →
      c.kind = .batch → db.insertRun (c.row assistant) = some db' →
      Moves db c db' (.settingBusy loaded assistant)
  | failed {loaded assistant e} :
      (c.stage = .readingThread loaded assistant ∨ c.stage = .inserting loaded assistant) →
      Moves db c db (.failed e)
  | spawned : c.stage = .spawning → Moves db c db .succeeded

theorem moves_of_step {registry : Registry} {db db' : Database} {c : Creation}
    {stage : CreationStage} (h : c.step registry db = some (db', stage)) :
    Moves db c db' stage := by
  rw [step] at h
  cases hstage : c.stage with
  | checking =>
    simp only [hstage] at h
    cases hcheck : c.check db with
    | error e =>
      rw [hcheck] at h
      cases h
      exact .rejected (.inl hstage)
    | ok loaded =>
      rw [hcheck] at h
      cases h
      exact .checked hstage hcheck
  | resolving loaded =>
    simp only [hstage] at h
    split at h
    · cases h
      exact .rejected (.inr ⟨loaded, hstage⟩)
    · by_cases hkind : c.kind = .batch
      · rw [if_pos hkind] at h
        cases h
        exact .resolvedBatch hstage hkind
      · rw [if_neg hkind] at h
        cases h
        exact .resolved hstage hkind
  | settingBusy loaded assistant =>
    simp only [hstage] at h
    cases h
    exact .setBusy hstage
  | readingThread loaded assistant =>
    simp only [hstage] at h
    split at h
    · cases h
      exact .failed (.inl hstage)
    · cases h
      exact .read hstage
  | writingMetadata assistant metadata =>
    simp only [hstage] at h
    by_cases hkind : c.kind = .batch
    · rw [if_pos hkind] at h
      cases h
      exact .wroteBatch hstage hkind
    · rw [if_neg hkind] at h
      cases h
      exact .wrote hstage hkind
  | inserting loaded assistant =>
    simp only [hstage] at h
    split at h
    · cases h
      exact .failed (.inr hstage)
    · rename_i hinsert
      by_cases hkind : c.kind = .batch
      · rw [if_pos hkind] at h
        cases h
        exact .insertedBatch hstage hkind hinsert
      · rw [if_neg hkind] at h
        cases h
        exact .inserted hstage hkind hinsert
  | spawning =>
    simp only [hstage] at h
    cases h
    exact .spawned hstage
  | succeeded | rejected | failed =>
    simp only [hstage] at h
    cases h

/-- A creation step adds the row of its run, starts the task of a run whose row was added, or does
neither. -/
theorem Moves.row_cases {db db' : Database} {c : Creation} {stage : CreationStage}
    (h : c.Moves db db' stage) :
    (c.spawned = [] ∧ db'.keys = db.keys ∧ ({ c with stage }.hasRow = true → c.hasRow = true)) ∨
    (c.spawned = [] ∧ c.hasRow = false ∧ c.runId ∉ db.runs.map Run.runId ∧
      db'.keys = db.keys ++ [(c.runId, c.threadId)]) ∨
    (c.spawned = [c.task] ∧ db' = db ∧ c.hasRow = true ∧ { c with stage }.hasRow = false) := by
  cases h with
  | checked hstage => simp [Creation.spawned, hasRow, hstage]
  | rejected hstage =>
    rcases hstage with hstage | ⟨loaded, hstage⟩ <;> simp [Creation.spawned, hasRow, hstage]
  | resolved hstage hkind => simp [Creation.spawned, hasRow, hstage, hkind]
  | resolvedBatch hstage => simp [Creation.spawned, hasRow, hstage]
  | setBusy hstage => simp [Creation.spawned, hasRow, hstage, setThreadStatus]
  | read hstage => simp [Creation.spawned, hasRow, hstage]
  | wrote hstage => simp [Creation.spawned, hasRow, hstage, writeThreadMetadata]
  | wroteBatch hstage hkind => simp [Creation.spawned, hasRow, hstage, hkind, writeThreadMetadata]
  | inserted hstage _ hinsert | insertedBatch hstage _ hinsert =>
    obtain ⟨hnew, hruns, -⟩ := Database.insertRun_eq_some hinsert
    refine .inr (.inl ⟨by simp [Creation.spawned, hstage], by simp [hasRow, hstage], hnew, ?_⟩)
    rw [Database.keys, hruns, List.map_append]
    rfl
  | failed hstage => rcases hstage with hstage | hstage <;> simp [Creation.spawned, hasRow, hstage]
  | spawned hstage => simp [Creation.spawned, hasRow, hstage]

/-! ### A creation request alone -/

/-- A result as a stage. -/
def Ends (c : Creation) : Except RequestError Run → CreationStage → Prop
  | .ok run, stage => stage = .spawning ∧ ∃ assistant, run = c.row assistant
  | .error e, stage => stage = .rejected e ∨ stage = .failed e

/-- From this stage on the request alone, step after step, comes to this result. -/
def Does (registry : Registry) (c : Creation) (db : Database) (stage : CreationStage)
    (result : Database × Except RequestError Run) : Prop :=
  ∃ stage', c.Ends result.2 stage' ∧
    Relation.ReflTransGen (fun p q => { c with stage := p.2 }.step registry p.1 = some q)
      (db, stage) (result.1, stage')

variable {registry : Registry} {db db' : Database} {c : Creation} {loaded : Option Thread}
  {assistant : Assistant} {stage stage' : CreationStage}
  {result : Database × Except RequestError Run}

theorem Does.step (h : { c with stage }.step registry db = some (db', stage'))
    (hrest : c.Does registry db' stage' result) : c.Does registry db stage result := by
  obtain ⟨stage'', hends, hrun⟩ := hrest
  exact ⟨stage'', hends, .head h hrun⟩

theorem does_error {e : RequestError}
    (h : { c with stage }.step registry db = some (db, .rejected e) ∨
      { c with stage }.step registry db = some (db, .failed e)) :
    c.Does registry db stage (db, .error e) := by
  rcases h with h | h
  · exact .step h ⟨_, .inl rfl, .refl⟩
  · exact .step h ⟨_, .inr rfl, .refl⟩

/-- The metadata that are written are the current ones, whether the thread was loaded or not. -/
theorem metadataJson_loaded {thread : Thread}
    (hloaded : loaded = none ∨ loaded = db.thread? c.threadId)
    (hthread : (setThreadStatus db c.threadId .busy).thread? c.threadId = some thread) :
    (loaded.getD thread).metadataJson = thread.metadataJson := by
  rcases hloaded with rfl | rfl
  · rfl
  · rw [thread?_setThreadStatus, if_pos rfl, Option.map_eq_some_iff] at hthread
    obtain ⟨thread, hthread, rfl⟩ := hthread
    rw [hthread]
    rfl

theorem does_metadata_error {e : RequestError}
    (h : updateThreadMetadata db c.threadId assistant = .error e) :
    c.Does registry db (.readingThread loaded assistant) (db, .error e) := by
  rw [updateThreadMetadata] at h
  split at h
  · rename_i hnone
    cases h
    exact does_error (.inr (by simp only [step, hnone]))
  · cases h

theorem does_metadata_ok (hloaded : loaded = none ∨ loaded = db.thread? c.threadId)
    (h : updateThreadMetadata (setThreadStatus db c.threadId .busy) c.threadId assistant = .ok db')
    (hrest : c.Does registry db' (if c.kind = .batch then .spawning else .inserting none assistant)
      result) :
    c.Does registry (setThreadStatus db c.threadId .busy) (.readingThread loaded assistant)
      result := by
  rw [updateThreadMetadata] at h
  split at h
  · cases h
  · rename_i thread hthread
    cases h
    have hread : { c with stage := .readingThread loaded assistant }.step registry
        (setThreadStatus db c.threadId .busy) = some (setThreadStatus db c.threadId .busy,
          .writingMetadata assistant (mergeMetadata thread.metadataJson assistant)) := by
      simp only [step, hthread, mergeMetadata, metadataJson_loaded hloaded hthread]
    exact .step hread (.step rfl hrest)

/-- The thread that the first query of a request leaves in the session. -/
theorem check_eq (hkind : c.kind ≠ .batch) (stage : CreationStage) :
    { c with stage }.check db =
      (if c.request.hasResume then checkResume c.threadId (db.thread? c.threadId) else .ok ()).map
        fun _ => if c.request.hasResume then db.thread? c.threadId else none := by
  rw [check]
  split
  · split <;> rfl
  · split <;> rfl
  · exact absurd ‹_› hkind

/-- **A request alone** does what `create_run` and `create_and_stream_run` do. -/
theorem does_create (hkind : c.kind ≠ .batch) :
    c.Does registry db .checking
      (createWithStatus c.kind.status registry db c.user c.threadId c.request c.runId) := by
  rw [createWithStatus]
  split
  · rename_i e he
    exact does_error (.inl (by simp only [step, check_eq hkind, he, Except.map]))
  rename_i hok
  have hchecked : { c with stage := .checking }.step registry db = some (db, .resolving
      (if c.request.hasResume then db.thread? c.threadId else none)) := by
    simp only [step, check_eq hkind, hok, Except.map]
  refine .step hchecked ?_
  generalize hloaded : (if c.request.hasResume then db.thread? c.threadId else none) = loaded
  have hloaded : loaded = none ∨ loaded = db.thread? c.threadId := by
    split at hloaded
    · exact .inr hloaded.symm
    · exact .inl hloaded.symm
  split
  · rename_i e he
    exact does_error (.inl (by simp only [step, he]))
  rename_i assistant hassistant
  have hresolved : { c with stage := .resolving loaded }.step registry db =
      some (db, .settingBusy loaded assistant) := by
    simp only [step, hassistant, if_neg hkind]
  have hbusy : { c with stage := .settingBusy loaded assistant }.step registry db =
      some (setThreadStatus db c.threadId .busy, .readingThread loaded assistant) := rfl
  refine .step hresolved (.step hbusy ?_)
  dsimp only
  split
  · exact does_metadata_error ‹_›
  · refine does_metadata_ok hloaded ‹_› ?_
    have hrow : ∀ stage, { c with stage }.row assistant = newRun c.user c.threadId assistant
        c.kind.status c.request.input c.request.config c.request.context c.runId := by
      intro stage
      rw [row, if_neg hkind]
    rw [if_neg hkind]
    split
    · rename_i hinsert
      exact does_error (.inr (by simp only [step, hrow, hinsert]))
    · rename_i db₂ hinsert
      refine ⟨.spawning, ⟨rfl, assistant, (hrow c.stage).symm⟩, .single ?_⟩
      simp only [step, hrow, hinsert, if_neg hkind]

/-- **A batch item alone** does what `create_batch_runs` does for it. -/
theorem does_createBatchItem (hkind : c.kind = .batch) :
    c.Does registry db .checking (createBatchItem registry db c.user
      ⟨c.threadId, c.request.assistantId, c.request.input, c.request.config⟩ c.runId) := by
  rw [createBatchItem]
  split
  · rename_i hnone
    exact does_error (.inl (by simp only [step, check, hkind, hnone]))
  rename_i thread hthread
  have hchecked : { c with stage := .checking }.step registry db =
      some (db, .resolving (some thread)) := by
    simp only [step, check, hkind, hthread]
  have hloaded : some thread = db.thread? c.threadId :=
    (Option.filter_eq_some_iff.mp hthread).1.symm
  refine .step hchecked ?_
  split
  · rename_i e he
    exact does_error (.inl (by simp only [step, he]))
  rename_i assistant hassistant
  have hresolved : { c with stage := .resolving (some thread) }.step registry db =
      some (db, .inserting (some thread) assistant) := by
    simp only [step, hassistant, if_pos hkind]
  refine .step hresolved ?_
  dsimp only
  have hrow : ∀ stage, { c with stage }.row assistant = newRun c.user c.threadId assistant
      .pending c.request.input c.request.config none c.runId := by
    intro stage
    rw [row, if_pos hkind]
    simp only [hkind, CreationKind.status]
  split
  · rename_i hinsert
    exact does_error (.inr (by simp only [step, hrow, hinsert]))
  rename_i db₁ hinsert
  have hinserted : { c with stage := .inserting (some thread) assistant }.step registry db =
      some (db₁, .settingBusy (some thread) assistant) := by
    simp only [step, hrow, hinsert, if_pos hkind]
  have hbusy : { c with stage := .settingBusy (some thread) assistant }.step registry db₁ =
      some (setThreadStatus db₁ c.threadId .busy, .readingThread (some thread) assistant) := rfl
  refine .step hinserted (.step hbusy ?_)
  split
  · exact does_metadata_error ‹_›
  · have hthreads : db₁.thread? c.threadId = db.thread? c.threadId := by
      rw [Database.thread?, (Database.insertRun_eq_some hinsert).2.2.1, Database.thread?]
    refine does_metadata_ok (.inr (hloaded.trans hthreads.symm)) ‹_› ?_
    rw [if_pos hkind]
    exact ⟨.spawning, ⟨rfl, assistant, (hrow c.stage).symm⟩, .refl⟩

end Creation

/-! ### Controls -/

inductive ControlAction
  | cancel
  | interrupt
deriving DecidableEq

def ControlAction.status : ControlAction → RunStatus
  | .cancel => .cancelled
  | .interrupt => .interrupted

/-- A control request. `update_run` may ask for a status that means no action. -/
inductive ControlEndpoint
  | updateRun (action : Option ControlAction)
  | cancelRun (action : ControlAction) (wait : Bool)
deriving DecidableEq

def ControlEndpoint.action : ControlEndpoint → Option ControlAction
  | .updateRun action => action
  | .cancelRun action _ => some action

/-- The next thing a control request does. -/
inductive ControlStage
  | reading
  /-- `signal_run_cancelled` or `signal_run_error` -/
  | signalling
  /-- `_update_run_status` of the streaming service -/
  | sharing
  /-- the endpoint's own `UPDATE` -/
  | writing
  | waiting
  | reloading
  | replied (status : RunStatus)
  | failed (error : RequestError)

structure Control where
  endpoint : ControlEndpoint
  user : User
  threadId : String
  runId : String
  stage : ControlStage

/-- `active_runs.get(run_id)` -/
def activeTask (tasks : List Task) (runId : String) : Option Task :=
  tasks.find? fun task => task.runId = runId && task.listed

/-- `task.done()` -/
def Task.isDone (task : Task) : Bool :=
  match task.executor with
  | .ended _ => true
  | _ => false

namespace Control

/-- The run of the request, if the user owns it. -/
def lookup (db : Database) (c : Control) : Option Run :=
  db.runs.find? fun run =>
    run.runId = c.runId && run.threadId = c.threadId && run.userId = c.user.identity

/-- The stage after the endpoint's own write. -/
def afterWrite (c : Control) : ControlStage :=
  match c.endpoint with
  | .cancelRun _ true => .waiting
  | _ => .reloading

/-- The reply. The session of `cancel_run_endpoint` still has the row as its own write left it;
`update_run` refreshes it. -/
def reply (db : Database) (c : Control) : ControlStage :=
  match db.run? c.runId with
  | none => .failed (.httpException 404 ("Run '" ++ c.runId ++ "' not found after cancellation"))
  | some run =>
    match c.endpoint with
    | .cancelRun action _ => .replied action.status
    | .updateRun _ => .replied run.status

/-- One step of a control request; `ok` says whether what it awaits succeeds. The exceptions of
the streaming service are swallowed. -/
def step (db : Database) (tasks : List Task) (c : Control) (ok : Bool) :
    Option (Database × ControlStage) :=
  match c.stage, c.endpoint.action with
  | .reading, action =>
    match c.lookup db with
    | none => some (db, .failed (.httpException 404 ("Run '" ++ c.runId ++ "' not found")))
    | some _ => some (db, if action.isSome then .signalling else .reloading)
  | .signalling, some _ => some (db, if ok then .sharing else .writing)
  | .sharing, some action =>
    some (if ok then updateRunStatus db c.runId action.status none none else db, .writing)
  | .writing, some action =>
    if ok then some (updateRunStatus db c.runId action.status none none, c.afterWrite)
    else some (db, .failed .integrityError)
  | .waiting, some _ =>
    match activeTask tasks c.runId with
    | none => some (db, .reloading)
    | some task => if task.isDone then some (db, .reloading) else none
  | .reloading, _ => some (db, c.reply db)
  | _, _ => none

end Control

/-- A control step writes the status of its run, or nothing. -/
theorem Control.step_cases {db db' : Database} {tasks : List Task} {c : Control} {ok : Bool}
    {stage : ControlStage} (h : c.step db tasks ok = some (db', stage)) :
    db' = db ∨ ∃ action, c.endpoint.action = some action ∧
      (c.stage = .sharing ∨ c.stage = .writing) ∧
      db' = updateRunStatus db c.runId action.status none none := by
  rw [step] at h
  split at h
  · split at h <;> cases h <;> exact .inl rfl
  · cases h
    exact .inl rfl
  · rename_i action hstage haction
    cases ok with
    | false =>
      cases h
      exact .inl rfl
    | true =>
      cases h
      exact .inr ⟨action, haction, .inl hstage, rfl⟩
  · rename_i action hstage haction
    cases ok with
    | false =>
      cases h
      exact .inl rfl
    | true =>
      cases h
      exact .inr ⟨action, haction, .inr hstage, rfl⟩
  · split at h
    · cases h
      exact .inl rfl
    · split at h
      · cases h
        exact .inl rfl
      · cases h
  · cases h
    exact .inl rfl
  · cases h

theorem Control.keys_step {db db' : Database} {tasks : List Task} {c : Control} {ok : Bool}
    {stage : ControlStage} (h : c.step db tasks ok = some (db', stage)) : db'.keys = db.keys := by
  rcases Control.step_cases h with rfl | ⟨action, -, -, rfl⟩
  · rfl
  · exact keys_updateRunStatus _ _ _ _ _

/-! ### Observers -/

inductive ObserverKind
  | joinRun
  | waitForRun
  | createAndWait
deriving DecidableEq

/-- What an observer returns: the output, or a `RunWaitResponse`, whose status is "unknown" for a
run that is gone. -/
inductive Response
  | output (members : JsonObject)
  | result (status : Option RunStatus) (output : Option JsonObject) (error : Option String)

inductive ObserverError
  | notFound
  | timedOut
  /-- the exception of the awaited task -/
  | taskException
  /-- the persisted output does not fit the response model -/
  | invalidResponse
deriving DecidableEq

/-- The next thing an observer does. -/
inductive ObserverStage
  | reading
  | waiting
  /-- the time is up: the task was cancelled and is awaited until it has ended -/
  | timedOut
  | rereading
  | returned (response : Response)
  | raised (error : ObserverError)

structure Observer where
  kind : ObserverKind
  user : User
  threadId : String
  runId : String
  stage : ObserverStage

/-- The output as the response model has it, `none` being a validation error. -/
def outputMembers : Option Json → Option (Option JsonObject)
  | none | some .null => some none
  | some (.obj members) => some (some members)
  | some _ => none

namespace Observer

/-- The response from the row of the run, if there is one. -/
def respond (kind : ObserverKind) (run : Option Run) : Option Response :=
  match kind with
  | .joinRun =>
    -- `output or {}`
    match (run.bind (·.output)).filter Json.truthy with
    | none => some (.output [])
    | some (.obj members) => some (.output members)
    | some _ => none
  | .waitForRun | .createAndWait =>
    (outputMembers (run.bind (·.output))).map fun output =>
      .result (run.map (·.status)) output (run.bind (·.errorMessage))

/-- The stage after the response was built. -/
def reply (kind : ObserverKind) (run : Option Run) : ObserverStage :=
  match respond kind run with
  | some response => .returned response
  | none => .raised .invalidResponse

/-- The statuses for which the endpoint does not wait. -/
def answersAtOnce : ObserverKind → RunStatus → Bool
  | .joinRun, status => status.isTerminal
  | .waitForRun, status => status.isOver
  | .createAndWait, _ => false

/-- The run of the request, if the user owns it. -/
def lookup (db : Database) (o : Observer) : Option Run :=
  db.runs.find? fun run =>
    run.runId = o.runId && run.userId = o.user.identity &&
      (o.kind ≠ .joinRun || run.threadId = o.threadId)

/-- `active_runs.get(run_id)`, and the await if there is a task. -/
def attach (tasks : List Task) (o : Observer) : ObserverStage :=
  if (activeTask tasks o.runId).isSome then .waiting else .rereading

/-- The stage after the first query; `create_run_and_wait` has just created the run. -/
def afterReading (db : Database) (tasks : List Task) (o : Observer) : ObserverStage :=
  match o.kind with
  | .createAndWait => o.attach tasks
  | .joinRun | .waitForRun =>
    match o.lookup db with
    | none => .raised .notFound
    | some run => if answersAtOnce o.kind run.status then .rereading else o.attach tasks

/-- The stage after the awaited task has ended. -/
def afterTask (kind : ObserverKind) (timedOut : Bool) : TaskResult → ObserverStage
  | .returned => .rereading
  | .raised => .raised .taskException
  | .cancelled =>
    if timedOut && kind = .createAndWait then .raised .timedOut else .rereading

/-- The task that is awaited, if it has not ended, or how it has ended. -/
def awaited (tasks : List Task) (o : Observer) : Option (Option TaskResult) :=
  (tasks.find? (·.runId = o.runId)).map fun task =>
    match task.executor with
    | .ended result => some result
    | _ => none

/-- One step of an observer; `timeout` says whether its time is up. The second component says
whether it cancels the task. -/
def step (db : Database) (tasks : List Task) (o : Observer) (timeout : Bool) :
    Option (ObserverStage × Bool) :=
  match o.stage with
  | .reading => some (o.afterReading db tasks, false)
  | .waiting =>
    match o.awaited tasks, timeout with
    | some (some result), _ => some (afterTask o.kind false result, false)
    | some none, true => some (.timedOut, true)
    | _, _ => none
  | .timedOut =>
    match o.awaited tasks with
    | some (some result) => some (afterTask o.kind true result, false)
    | _ => none
  | .rereading => some (reply o.kind (db.run? o.runId), false)
  | .returned _ | .raised _ => none

end Observer

end OpenLangGraph

import OpenLangGraph.Api.ExecuteRun
import OpenLangGraph.Foundation.UnitOfWork

/-!
# A run creation that fails

`create_run` and `create_and_stream_run` as programs over one session, any statement of which may
fail. The status of the thread, its metadata and the row of the run are committed one after the
other, and nothing is undone when a later statement fails.

## What may fail

Every statement and every commit, for a reason outside of the program, and the insert of the run
when its id is taken. Nobody else writes to the database meanwhile.

## Main definitions

* `CreationPoint` — the statements of a creation
* `createProgram` — `create_run` and `create_and_stream_run`
* `LeavesAsItWas`

## Main results

* `run_createProgram` — without a failure the program does what `Runs` says
* `failed_creation_leaves_iff` — which failures leave the thread as it was
-/

namespace OpenLangGraph

open UnitOfWork

namespace Runs

/-! ### The programs -/

/-- The statements of a run creation. -/
inductive CreationPoint
  | checking
  | resolving
  | settingBusy
  | committingBusy
  | readingThread
  | writingMetadata
  | committingMetadata
  | insertingRun
  | committingRun
deriving DecidableEq

abbrev CreationProgram := UnitOfWork.Program Database CreationPoint Task RequestError Run

/-- A result of a check as a program. -/
def checked {α : Type} (result : Except RequestError α) (next : α → CreationProgram) :
    CreationProgram :=
  match result with
  | .error e => .raise e
  | .ok a => next a

/-- The assistant and its graph. -/
def resolving (registry : Registry) (assistantId : String) (next : Assistant → CreationProgram) :
    CreationProgram :=
  .query .resolving fun db => checked (findAssistant registry db assistantId) next

/-- The thread of `update_thread_metadata`. -/
def findThread (db : Database) (threadId : String) : Except RequestError Thread :=
  match db.thread? threadId with
  | none => .error (.httpException 404
      ("Thread '" ++ threadId ++ "' not found for metadata update"))
  | some thread => .ok thread

/-- `set_thread_status`, and `update_thread_metadata` -/
def markBusy (threadId : String) (assistant : Assistant) (next : CreationProgram) :
    CreationProgram :=
  .execute .settingBusy (setThreadStatus · threadId .busy) <|
  .commit .committingBusy <|
  .query .readingThread fun db => checked (findThread db threadId) fun thread =>
  .execute .writingMetadata
    (writeThreadMetadata · threadId (mergeMetadata thread.metadataJson assistant)) <|
  .commit .committingMetadata next

/-- `session.add(run_orm)` and its commit. -/
def addRun (run : Run) (next : CreationProgram) : CreationProgram :=
  .flush .insertingRun (·.insertRun run) <|
  .commit .committingRun next

/-- The background task of a new run, in `active_runs`. -/
def newTask (threadId runId : String) : Task :=
  { runId, threadId, executor := .created, cancelRequested := false, listed := true }

/-- `create_run` and `create_and_stream_run` -/
def createProgram (status : RunStatus) (registry : Registry) (user : User) (threadId : String)
    (request : RunCreate) (runId : String) : CreationProgram :=
  let rest := resolving registry request.assistantId fun assistant =>
    let run := newRun user threadId assistant status request.input request.config request.context
      runId
    markBusy threadId assistant <|
    addRun run <|
    .start (newTask threadId runId) <|
    .done run
  if request.hasResume then
    .query .checking fun db => checked (checkResume threadId (db.thread? threadId)) fun _ => rest
  else rest

/-- What a request does to a database. -/
def creation (status : RunStatus) (registry : Registry) (user : User) (threadId : String)
    (request : RunCreate) (runId : String) (fault : Option (Fault CreationPoint)) (db : Database) :
    Effects Database Task RequestError Run :=
  (createProgram status registry user threadId request runId).run fault (.open db)

/-- An error of `Runs` as the program raises it. -/
def toRaised : RequestError → Raised RequestError
  | .integrityError => .refused
  | .httpException statusCode detail => .raised (.httpException statusCode detail)

/-! ### What is asked of a request that fails -/

/-- The status and the metadata of the thread are what they were. -/
def ThreadKept (db db' : Database) (threadId : String) : Prop :=
  ∀ thread, db.thread? threadId = some thread →
    ∃ thread', db'.thread? threadId = some thread' ∧ thread'.status = thread.status ∧
      ∀ k, thread'.metadataJson.lookup k = thread.metadataJson.lookup k

/-- If the request raises, the thread is as it was, no run was added and no task was started. -/
def LeavesAsItWas (db : Database) (threadId : String)
    (effects : Effects Database Task RequestError Run) : Prop :=
  ∀ e, effects.result = .error e →
    ThreadKept db effects.session.committed threadId ∧
      effects.session.committed.runs = db.runs ∧ effects.started = []

/-! ### Where a request fails -/

/-- The statements that come after the checks. -/
def writingPoints : List CreationPoint :=
  [.settingBusy, .committingBusy, .readingThread, .writingMetadata, .committingMetadata,
    .insertingRun, .committingRun]

/-- The statements of a request that no check rejects, in order. -/
def creationPoints (request : RunCreate) : List CreationPoint :=
  (if request.hasResume then [.checking] else []) ++ .resolving :: writingPoints

/-- The first of the statements that fails: by the fault, or since the id of the run is taken. -/
def firstFailure (db : Database) (runId : String) (fault : Option (Fault CreationPoint))
    (points : List CreationPoint) : Option CreationPoint :=
  points.find? fun point =>
    fault.any (·.point = point) ||
      (point = .insertingRun && decide (runId ∈ db.runs.map Run.runId))

/-- The statement at which a request fails that no check rejects. -/
def failsAt (db : Database) (request : RunCreate) (runId : String)
    (fault : Option (Fault CreationPoint)) : Option CreationPoint :=
  firstFailure db runId fault (creationPoints request)

/-- The status has been committed when a request fails at the statement. -/
def CreationPoint.statusWritten (durable : Bool) : CreationPoint → Bool
  | .checking | .resolving | .settingBusy => false
  | .committingBusy => durable
  | .readingThread | .writingMetadata | .committingMetadata | .insertingRun | .committingRun => true

/-- So have the metadata. -/
def CreationPoint.metadataWritten (durable : Bool) : CreationPoint → Bool
  | .committingMetadata => durable
  | .insertingRun | .committingRun => true
  | _ => false

/-- So has the row of the run. -/
def CreationPoint.runWritten (durable : Bool) : CreationPoint → Bool
  | .committingRun => durable
  | _ => false

/-- The metadata name the assistant and its graph already. -/
def named (metadata : JsonObject) (assistant : Assistant) : Prop :=
  metadata.lookup "assistant_id" = some (.str assistant.assistantId) ∧
    metadata.lookup "graph_id" = some (.str assistant.graphId)

/-! ### The two blocks -/

variable {registry : Registry} {db : Database} {user : User} {threadId runId : String}
  {request : RunCreate} {status : RunStatus} {thread : Thread} {assistant : Assistant} {run : Run}
  {fault : Option (Fault CreationPoint)} {f : Fault CreationPoint} {next : CreationProgram}

/-- The statement is one of `set_thread_status` and `update_thread_metadata`. -/
def CreationPoint.marks : CreationPoint → Bool
  | .settingBusy | .committingBusy | .readingThread | .writingMetadata | .committingMetadata => true
  | .checking | .resolving | .insertingRun | .committingRun => false

/-- The statement is one of those that add the run. -/
def CreationPoint.adds : CreationPoint → Bool
  | .insertingRun | .committingRun => true
  | _ => false

/-- A thread that is busy, with the metadata of the assistant. -/
def marked (db : Database) (threadId : String) (assistant : Assistant) (metadata : JsonObject) :
    Database :=
  writeThreadMetadata (setThreadStatus db threadId .busy) threadId
    (mergeMetadata metadata assistant)

theorem findThread_busy (hthread : db.thread? threadId = some thread) :
    findThread (setThreadStatus db threadId .busy) threadId =
      .ok { thread with status := .busy } := by
  rw [findThread, thread?_setThreadStatus, if_pos rfl, hthread, Option.map_some]

/-- Without a failure of its own statements, `markBusy` marks the thread and goes on. -/
theorem run_markBusy (hthread : db.thread? threadId = some thread)
    (hfault : fault.all (!·.point.marks) = true) :
    (markBusy threadId assistant next).run fault (.open db) =
      next.run fault (.open (marked db threadId assistant thread.metadataJson)) := by
  cases fault with
  | none => simp [markBusy, UnitOfWork.Program.run, findThread_busy hthread, checked, marked,
    Session.open]
  | some f =>
    obtain ⟨point, durable, usable⟩ := f
    cases point <;> simp [CreationPoint.marks] at hfault <;>
      simp [markBusy, UnitOfWork.Program.run, findThread_busy hthread, checked, marked,
        Session.open]

/-- What `markBusy` has committed when it fails. -/
theorem run_markBusy_fails (next : CreationProgram) (assistant : Assistant)
    (hthread : db.thread? threadId = some thread)
    (hfault : f.point.marks = true) :
    let effects := (markBusy threadId assistant next).run (some f) (.open db)
    effects.result = .error .failed ∧ effects.started = [] ∧
      effects.session.committed =
        if f.point.metadataWritten f.durable then marked db threadId assistant thread.metadataJson
        else if f.point.statusWritten f.durable then setThreadStatus db threadId .busy
        else db := by
  obtain ⟨point, durable, usable⟩ := f
  cases point <;> simp [CreationPoint.marks] at hfault <;> cases durable <;>
    simp [markBusy, UnitOfWork.Program.run, findThread_busy hthread, checked, marked,
      CreationPoint.metadataWritten, CreationPoint.statusWritten]

/-- `markBusy` of a thread that is missing. -/
theorem run_markBusy_missing (fault : Option (Fault CreationPoint)) (next : CreationProgram)
    (assistant : Assistant) (hthread : db.thread? threadId = none) :
    let effects := (markBusy threadId assistant next).run fault (.open db)
    (∃ e, effects.result = .error e) ∧ effects.started = [] ∧
      (effects.session.committed = db ∨
        effects.session.committed = setThreadStatus db threadId .busy) := by
  have hfind : ∃ e, findThread (setThreadStatus db threadId .busy) threadId = .error e := by
    rw [findThread, thread?_setThreadStatus, if_pos rfl, hthread, Option.map_none]
    exact ⟨_, rfl⟩
  obtain ⟨e, hfind⟩ := hfind
  cases fault with
  | none => simp [markBusy, UnitOfWork.Program.run, hfind, checked]
  | some f =>
    obtain ⟨point, durable, usable⟩ := f
    cases point <;> cases durable <;> simp [markBusy, UnitOfWork.Program.run, hfind, checked]

/-- Without a failure, `addRun` adds the run and goes on. -/
theorem run_addRun {db' : Database} (hinsert : db.insertRun run = some db')
    (hfault : fault.all (!·.point.adds) = true) :
    (addRun run next).run fault (.open db) = next.run fault (.open db') := by
  cases fault with
  | none => simp [addRun, UnitOfWork.Program.run, hinsert, Session.open]
  | some f =>
    obtain ⟨point, durable, usable⟩ := f
    cases point <;> simp [CreationPoint.adds] at hfault <;>
      simp [addRun, UnitOfWork.Program.run, hinsert, Session.open]

/-- What `addRun` has committed when it fails. -/
theorem run_addRun_fails {db' : Database} (next : CreationProgram)
    (hinsert : db.insertRun run = some db')
    (hfault : f.point.adds = true) :
    let effects := (addRun run next).run (some f) (.open db)
    effects.result = .error .failed ∧ effects.started = [] ∧
      effects.session.usable = false ∧
      effects.session.committed = if f.point.runWritten f.durable then db' else db := by
  obtain ⟨point, durable, usable⟩ := f
  cases point <;> simp [CreationPoint.adds] at hfault <;> cases durable <;>
    simp [addRun, UnitOfWork.Program.run, hinsert, CreationPoint.runWritten]

/-- `addRun` of a run that a constraint refuses. -/
theorem run_addRun_refused (fault : Option (Fault CreationPoint)) (next : CreationProgram)
    (hinsert : db.insertRun run = none) :
    let effects := (addRun run next).run fault (.open db)
    (effects.result = .error .failed ∨ effects.result = .error .refused) ∧
      effects.started = [] ∧ effects.session.usable = false ∧
      effects.session.committed = db := by
  cases fault with
  | none => simp [addRun, UnitOfWork.Program.run, hinsert]
  | some f =>
    obtain ⟨point, durable, usable⟩ := f
    cases point <;> simp [addRun, UnitOfWork.Program.run, hinsert]

/-! ### Without a failure -/

theorem toRaised_checkResume {thread? : Option Thread} {e : RequestError}
    (h : checkResume threadId thread? = .error e) : toRaised e = .raised e := by
  rw [checkResume.eq_def] at h
  split at h
  · obtain rfl := Except.error.inj h
    rfl
  · split at h
    · obtain rfl := Except.error.inj h
      rfl
    · cases h

theorem toRaised_findAssistant {assistantId : String} {e : RequestError}
    (h : findAssistant registry db assistantId = .error e) : toRaised e = .raised e := by
  rw [findAssistant] at h
  split at h
  · obtain rfl := Except.error.inj h
    rfl
  · split at h
    · cases h
    · obtain rfl := Except.error.inj h
      rfl

/-- The result of a program without a failure, and the one that `Runs` gives. -/
structure Agrees (effects : Effects Database Task RequestError Run)
    (expected : Database × Except RequestError Run) (task : Task) : Prop where
  committed : effects.session.committed = expected.1
  result : effects.result = expected.2.mapError toRaised
  started : effects.started = if expected.2.isOk then [task] else []

/-- The writes of `createWithStatus`. -/
def writes (db : Database) (threadId : String) (assistant : Assistant) (run : Run) :
    Database × Except RequestError Run :=
  match updateThreadMetadata (setThreadStatus db threadId .busy) threadId assistant with
  | .error e => (setThreadStatus db threadId .busy, .error e)
  | .ok db =>
    match db.insertRun run with
    | none => (db, .error .integrityError)
    | some db => (db, .ok run)

theorem agrees_writes (db : Database) (threadId : String) (assistant : Assistant) (run : Run)
    (task : Task) :
    Agrees
      ((markBusy threadId assistant <| addRun run <| .start task <| .done run).run none (.open db))
      (writes db threadId assistant run) task := by
  cases hthread : db.thread? threadId with
  | none =>
    have hbusy : (setThreadStatus db threadId .busy).thread? threadId = none := by
      rw [thread?_setThreadStatus, if_pos rfl, hthread, Option.map_none]
    rw [writes, updateThreadMetadata, hbusy]
    constructor <;>
      simp [markBusy, UnitOfWork.Program.run, findThread, hbusy, checked, Except.mapError, toRaised,
        Except.isOk, Except.toBool]
  | some thread =>
    have hbusy : (setThreadStatus db threadId .busy).thread? threadId =
        some { thread with status := .busy } := by
      rw [thread?_setThreadStatus, if_pos rfl, hthread, Option.map_some]
    have hwrites : writes db threadId assistant run =
        match (marked db threadId assistant thread.metadataJson).insertRun run with
        | none => (marked db threadId assistant thread.metadataJson, .error .integrityError)
        | some db => (db, .ok run) := by
      rw [writes, updateThreadMetadata, hbusy]
      rfl
    rw [run_markBusy hthread rfl, hwrites]
    cases hinsert : (marked db threadId assistant thread.metadataJson).insertRun run with
    | none =>
      constructor <;>
        simp [addRun, UnitOfWork.Program.run, hinsert, Except.mapError, toRaised, Except.isOk,
          Except.toBool]
    | some db' =>
      rw [run_addRun hinsert rfl]
      exact ⟨rfl, rfl, rfl⟩

theorem agrees_resolving (db : Database) (registry : Registry) (assistantId : String)
    (threadId : String) (run : Assistant → Run) (task : Task) :
    Agrees
      (UnitOfWork.Program.run none (.open db) <| resolving registry assistantId fun assistant =>
        markBusy threadId assistant <| addRun (run assistant) <| .start task <|
        .done (run assistant))
      (match findAssistant registry db assistantId with
        | .error e => (db, .error e)
        | .ok assistant => writes db threadId assistant (run assistant)) task := by
  cases hassistant : findAssistant registry db assistantId with
  | error e =>
    have he := toRaised_findAssistant hassistant
    constructor <;>
      simp [resolving, UnitOfWork.Program.run, hassistant, checked, Except.mapError, he,
        Except.isOk, Except.toBool]
  | ok assistant =>
    simpa [resolving, UnitOfWork.Program.run, hassistant, checked] using
      agrees_writes db threadId assistant (run assistant) task

/-- **Without a failure** the program does what `create_run` and `create_and_stream_run` do when
they run alone. -/
theorem run_createProgram (status : RunStatus) (registry : Registry) (db : Database) (user : User)
    (threadId : String) (request : RunCreate) (runId : String) :
    Agrees (creation status registry user threadId request runId none db)
      (createWithStatus status registry db user threadId request runId)
      (newTask threadId runId) := by
  have hrest := agrees_resolving db registry request.assistantId threadId (fun assistant =>
    newRun user threadId assistant status request.input request.config request.context runId)
    (newTask threadId runId)
  rw [creation, createProgram, createWithStatus]
  dsimp only
  split
  · rename_i hr
    cases hcheck : checkResume threadId (db.thread? threadId) with
    | error e =>
      have he := toRaised_checkResume hcheck
      constructor <;>
        simp [UnitOfWork.Program.run, hcheck, checked, Except.mapError, he, Except.isOk,
          Except.toBool]
    | ok =>
      simp only [UnitOfWork.Program.run, Session.usable_open, if_true, Fault.isAt_none,
        Session.working_open, hcheck, checked]
      exact hrest
  · exact hrest

/-! ### What has been committed when a request fails -/

/-- The insert of a run on a thread that exists is refused exactly if its id is taken. -/
theorem insertRun_marked (assistant : Assistant) (hthread : db.thread? run.threadId = some thread)
    (metadata : JsonObject) :
    (marked db run.threadId assistant metadata).insertRun run = none ↔
      run.runId ∈ db.runs.map Run.runId := by
  have hthreads : run.threadId ∈
      (marked db run.threadId assistant metadata).threads.map Thread.threadId := by
    rw [marked, writeThreadMetadata, setThreadStatus, Database.map_threadId_updateThreads,
      Database.map_threadId_updateThreads]
    exact mem_of_thread? hthread
  constructor
  · intro hnone
    by_contra hfresh
    have hfresh : run.runId ∉
        (marked db run.threadId assistant metadata).runs.map Run.runId := hfresh
    obtain ⟨db', hdb', -⟩ := Database.insertRun_of_fresh hfresh hthreads
    rw [hnone] at hdb'
    cases hdb'
  · intro htaken
    rw [Option.eq_none_iff_forall_ne_some]
    intro db' hdb'
    exact (Database.insertRun_eq_some hdb').1 htaken

/-- What has been committed when a request that no check rejects fails at the statement. -/
def committedAt (db : Database) (threadId : String) (assistant : Assistant) (run : Run)
    (durable : Bool) (metadata : JsonObject) (point : CreationPoint) : Database :=
  if point.runWritten durable then
    ((marked db threadId assistant metadata).insertRun run).getD db
  else if point.metadataWritten durable then marked db threadId assistant metadata
  else if point.statusWritten durable then setThreadStatus db threadId .busy
  else db

theorem firstFailure_of_marks (db : Database) (runId : String) (hmarks : f.point.marks = true) :
    firstFailure db runId (some f) writingPoints = some f.point := by
  obtain ⟨point, durable, usable⟩ := f
  cases point <;> simp [CreationPoint.marks] at hmarks <;> simp [firstFailure, writingPoints]

theorem firstFailure_of_taken (hmarks : fault.all (!·.point.marks) = true)
    (htaken : runId ∈ db.runs.map Run.runId) :
    firstFailure db runId fault writingPoints = some .insertingRun := by
  cases fault with
  | none => simp [firstFailure, writingPoints, htaken]
  | some f =>
    obtain ⟨point, durable, usable⟩ := f
    cases point <;> simp [CreationPoint.marks] at hmarks <;>
      simp [firstFailure, writingPoints, htaken]

theorem firstFailure_of_adds (hadds : f.point.adds = true)
    (hfresh : runId ∉ db.runs.map Run.runId) :
    firstFailure db runId (some f) writingPoints = some f.point := by
  obtain ⟨point, durable, usable⟩ := f
  cases point <;> simp [CreationPoint.adds] at hadds <;>
    simp [firstFailure, writingPoints, hfresh]

theorem firstFailure_eq_none (hmarks : fault.all (!·.point.marks) = true)
    (hadds : fault.all (!·.point.adds) = true) (hfresh : runId ∉ db.runs.map Run.runId) :
    firstFailure db runId fault writingPoints = none := by
  cases fault with
  | none => simp [firstFailure, writingPoints, hfresh]
  | some f =>
    obtain ⟨point, durable, usable⟩ := f
    cases point <;> simp [CreationPoint.marks] at hmarks <;> simp [CreationPoint.adds] at hadds <;>
      simp [firstFailure, writingPoints, hfresh]

theorem eq_some_of_not_all {p : Fault CreationPoint → Bool}
    (h : ¬ fault.all (fun f => !p f) = true) : ∃ f, fault = some f ∧ p f = true := by
  cases fault with
  | none => simp at h
  | some f => exact ⟨f, rfl, by simpa using h⟩

/-- What the writes of a request come to. -/
theorem run_writes (task : Task) (fault : Option (Fault CreationPoint)) (assistant : Assistant)
    (hthread : db.thread? run.threadId = some thread) :
    let effects := (markBusy run.threadId assistant <| addRun run <| .start task <| .done run).run
      fault (.open db)
    match firstFailure db run.runId fault writingPoints with
    | none => effects.result = .ok run
    | some point => (∃ e, effects.result = .error e) ∧ effects.started = [] ∧
        effects.session.committed = committedAt db run.threadId assistant run
          (fault.any (·.durable)) thread.metadataJson point := by
  intro effects
  have hrefused := insertRun_marked assistant hthread thread.metadataJson
  by_cases hmarks : fault.all (!·.point.marks) = true
  · rw [show effects = _ from run_markBusy hthread hmarks]
    by_cases htaken : run.runId ∈ db.runs.map Run.runId
    · obtain ⟨herror, hstarted, -, hcommitted⟩ :=
        run_addRun_refused fault (.start task (.done run)) (hrefused.mpr htaken)
      rw [firstFailure_of_taken hmarks htaken]
      exact ⟨herror.elim (⟨_, ·⟩) (⟨_, ·⟩), hstarted, hcommitted⟩
    · obtain ⟨db', hdb'⟩ := Option.ne_none_iff_exists'.mp (mt hrefused.mp htaken)
      by_cases hadds : fault.all (!·.point.adds) = true
      · rw [firstFailure_eq_none hmarks hadds htaken, run_addRun hdb' hadds]
        rfl
      · obtain ⟨f, rfl, hadds'⟩ := eq_some_of_not_all hadds
        obtain ⟨herror, hstarted, -, hcommitted⟩ :=
          run_addRun_fails (.start task (.done run)) hdb' hadds'
        rw [firstFailure_of_adds hadds' htaken]
        refine ⟨⟨_, herror⟩, hstarted, hcommitted.trans ?_⟩
        rw [committedAt, hdb']
        obtain ⟨point, durable, usable⟩ := f
        cases point <;> simp [CreationPoint.adds] at hadds' <;> cases durable <;>
          simp [CreationPoint.runWritten, CreationPoint.metadataWritten]
  · obtain ⟨f, rfl, hmarks'⟩ := eq_some_of_not_all hmarks
    obtain ⟨herror, hstarted, hcommitted⟩ :=
      run_markBusy_fails (addRun run <| .start task <| .done run) assistant hthread hmarks'
    rw [firstFailure_of_marks db run.runId hmarks']
    refine ⟨⟨_, herror⟩, hstarted, hcommitted.trans ?_⟩
    have hrun : f.point.runWritten f.durable = false := by
      obtain ⟨point, durable, usable⟩ := f
      cases point <;> simp [CreationPoint.marks] at hmarks' <;> rfl
    rw [committedAt, Option.any_some, hrun]
    rfl

/-! ### The checks -/

/-- A check that is made by a query: it passes, or it raises, or the query fails. -/
theorem run_checked {α : Type} (point : CreationPoint) (result : Database → Except RequestError α)
    (next : α → CreationProgram) (fault : Option (Fault CreationPoint)) (db : Database) :
    let effects := UnitOfWork.Program.run fault (.open db)
      (.query point fun db => checked (result db) next)
    (∃ a, result db = .ok a ∧ Fault.isAt fault point = none ∧
        effects = (next a).run fault (.open db)) ∨
      (∃ e, result db = .error e ∧ Fault.isAt fault point = none ∧
        effects = ⟨.open db, [], .error (.raised e)⟩) ∨
      ∃ f, Fault.isAt fault point = some f ∧
        effects = ⟨(Session.open db).afterFailure f, [], .error .failed⟩ := by
  intro effects
  cases hfault : Fault.isAt fault point with
  | some f =>
    refine .inr (.inr ⟨f, rfl, ?_⟩)
    simp [effects, UnitOfWork.Program.run, hfault]
  | none =>
    cases hresult : result db with
    | error e =>
      refine .inr (.inl ⟨e, rfl, rfl, ?_⟩)
      simp [effects, UnitOfWork.Program.run, hfault, hresult, checked]
    | ok a =>
      refine .inl ⟨a, rfl, rfl, ?_⟩
      simp [effects, UnitOfWork.Program.run, hfault, hresult, checked]

/-- No check rejects the request. -/
structure PassesChecks (registry : Registry) (db : Database) (threadId : String)
    (request : RunCreate) (assistant : Assistant) : Prop where
  resume : request.hasResume = true → checkResume threadId (db.thread? threadId) = .ok ()
  assistant : findAssistant registry db request.assistantId = .ok assistant

theorem firstFailure_cons_of_isAt {point : CreationPoint} {points : List CreationPoint}
    (h : Fault.isAt fault point = some f) :
    firstFailure db runId fault (point :: points) = some point := by
  cases fault with
  | none => cases h
  | some f' =>
    have hpoint : f'.point = point := by
      by_contra hne
      simp [hne] at h
    simp [firstFailure, hpoint]

theorem firstFailure_cons_of_not {point : CreationPoint} {points : List CreationPoint}
    (hpoint : point ≠ .insertingRun) (h : Fault.isAt fault point = none) :
    firstFailure db runId fault (point :: points) = firstFailure db runId fault points := by
  have hskip : (fault.any (·.point = point) ||
      (decide (point = .insertingRun) && decide (runId ∈ db.runs.map Run.runId))) = false := by
    cases fault with
    | none => simp [hpoint]
    | some f =>
      have hne : f.point ≠ point := by
        rintro rfl
        simp at h
      simp [hpoint, hne]
  rw [firstFailure, firstFailure, List.find?_cons_of_neg (by simpa using hskip)]

/-- What a request does up to its writes: the checks pass, or it raises and has done nothing. -/
def UpToWrites (registry : Registry) (db : Database) (threadId : String) (request : RunCreate)
    (runId : String) (fault : Option (Fault CreationPoint))
    (effects : Effects Database Task RequestError Run) : Prop :=
  (∃ assistant, PassesChecks registry db threadId request assistant ∧
      failsAt db request runId fault = firstFailure db runId fault writingPoints ∧
      ∃ run, run.runId = runId ∧ run.threadId = threadId ∧
        effects = (markBusy threadId assistant <| addRun run <|
          .start (newTask threadId runId) <| .done run).run fault (.open db)) ∨
    ((∃ e, effects.result = .error e) ∧ effects.started = [] ∧
      effects.session.committed = db ∧
      ∀ assistant, PassesChecks registry db threadId request assistant →
        failsAt db request runId fault = some .checking ∨
          failsAt db request runId fault = some .resolving)

/-- From the query of the assistant on. -/
theorem upToWrites_resolving
    (hfails : failsAt db request runId fault =
      firstFailure db runId fault (.resolving :: writingPoints))
    (hresume : request.hasResume = true → checkResume threadId (db.thread? threadId) = .ok ()) :
    UpToWrites registry db threadId request runId fault <|
      UnitOfWork.Program.run fault (.open db) <|
      resolving registry request.assistantId fun assistant =>
        let run := newRun user threadId assistant status request.input request.config
          request.context runId
        markBusy threadId assistant <| addRun run <| .start (newTask threadId runId) <|
          .done run := by
  rcases run_checked .resolving (findAssistant registry · request.assistantId) _ fault db with
    ⟨assistant, hassistant, hfault, heffects⟩ | ⟨e, hassistant, -, heffects⟩ |
      ⟨f, hfault, heffects⟩
  · refine .inl ⟨assistant, ⟨hresume, hassistant⟩, ?_, _, rfl, rfl, heffects⟩
    rw [hfails, firstFailure_cons_of_not (by simp) hfault]
  · rw [resolving, heffects]
    refine .inr ⟨⟨_, rfl⟩, rfl, rfl, fun assistant hpasses => ?_⟩
    rw [hpasses.assistant] at hassistant
    cases hassistant
  · rw [resolving, heffects]
    refine .inr ⟨⟨_, rfl⟩, rfl, Session.committed_afterFailure _ _, fun _ _ => .inr ?_⟩
    rw [hfails, firstFailure_cons_of_isAt hfault]

/-- **Up to the writes**, a request only checks. -/
theorem upToWrites_creation (status : RunStatus) (registry : Registry) (db : Database) (user : User)
    (threadId : String) (request : RunCreate) (runId : String)
    (fault : Option (Fault CreationPoint)) :
    UpToWrites registry db threadId request runId fault
      (creation status registry user threadId request runId fault db) := by
  rw [creation, createProgram]
  dsimp only
  split
  · rename_i hr
    have hpoints : creationPoints request = .checking :: .resolving :: writingPoints := by
      rw [creationPoints, if_pos hr]
      rfl
    rcases run_checked .checking (fun db => checkResume threadId (db.thread? threadId)) _ fault db
      with ⟨⟨⟩, hcheck, hfault, heffects⟩ | ⟨e, hcheck, -, heffects⟩ | ⟨f, hfault, heffects⟩
    · rw [heffects]
      refine upToWrites_resolving ?_ fun _ => hcheck
      rw [failsAt, hpoints, firstFailure_cons_of_not (by simp) hfault]
    · rw [heffects]
      refine .inr ⟨⟨_, rfl⟩, rfl, rfl, fun assistant hpasses => ?_⟩
      rw [hpasses.resume hr] at hcheck
      cases hcheck
    · rw [heffects]
      refine .inr ⟨⟨_, rfl⟩, rfl, Session.committed_afterFailure _ _, fun _ _ => .inl ?_⟩
      rw [failsAt, hpoints, firstFailure_cons_of_isAt hfault]
  · rename_i hr
    refine upToWrites_resolving ?_ fun h => absurd h hr
    rw [failsAt, creationPoints, if_neg hr]
    rfl

/-! ### Which failures leave the thread as it was -/

theorem threadKept_refl (db : Database) (threadId : String) : ThreadKept db db threadId :=
  fun thread hthread => ⟨thread, hthread, rfl, fun _ => rfl⟩

theorem thread?_marked (hthread : db.thread? threadId = some thread) (assistant : Assistant)
    (metadata : JsonObject) :
    (marked db threadId assistant metadata).thread? threadId =
      some { thread with status := .busy, metadataJson := mergeMetadata metadata assistant } := by
  rw [marked, thread?_writeThreadMetadata, if_pos rfl, thread?_setThreadStatus, if_pos rfl, hthread]
  rfl

/-- The metadata that are written are the old ones exactly if these name the assistant. -/
theorem lookup_mergeMetadata_iff (metadata : JsonObject) (assistant : Assistant) :
    (∀ k, (mergeMetadata metadata assistant).lookup k = metadata.lookup k) ↔
      named metadata assistant := by
  have hlookup (k : String) : (mergeMetadata metadata assistant).lookup k =
      if k = "graph_id" then some (.str assistant.graphId)
      else if k = "assistant_id" then some (.str assistant.assistantId)
      else metadata.lookup k := by
    rw [mergeMetadata, Json.insertEntries_cons, Json.insertEntries_cons, Json.insertEntries_nil,
      Json.lookup_insertEntry, Json.lookup_insertEntry]
  constructor
  · intro h
    refine ⟨(h "assistant_id").symm.trans ?_, (h "graph_id").symm.trans ?_⟩
    · rw [hlookup, if_neg (by decide), if_pos rfl]
    · rw [hlookup, if_pos rfl]
  · rintro ⟨hassistant, hgraph⟩ k
    rw [hlookup]
    split
    · rename_i hk
      rw [hk, hgraph]
    · split
      · rename_i hk
        rw [hk, hassistant]
      · rfl

theorem threadKept_setThreadStatus_iff (hthread : db.thread? threadId = some thread) :
    ThreadKept db (setThreadStatus db threadId .busy) threadId ↔ thread.status = .busy := by
  have hbusy : (setThreadStatus db threadId .busy).thread? threadId =
      some { thread with status := .busy } := by
    rw [thread?_setThreadStatus, if_pos rfl, hthread, Option.map_some]
  constructor
  · intro hkept
    obtain ⟨thread', hthread', hstatus, -⟩ := hkept thread hthread
    rw [hbusy] at hthread'
    obtain rfl := Option.some.inj hthread'
    exact hstatus.symm
  · intro hstatus thread₁ hthread₁
    obtain rfl := Option.some.inj (hthread.symm.trans hthread₁)
    exact ⟨_, hbusy, hstatus.symm, fun _ => rfl⟩

theorem threadKept_marked_iff (hthread : db.thread? threadId = some thread)
    (assistant : Assistant) :
    ThreadKept db (marked db threadId assistant thread.metadataJson) threadId ↔
      thread.status = .busy ∧ named thread.metadataJson assistant := by
  have hmarked := thread?_marked hthread assistant thread.metadataJson
  rw [← lookup_mergeMetadata_iff]
  constructor
  · intro hkept
    obtain ⟨thread', hthread', hstatus, hmetadata⟩ := hkept thread hthread
    rw [hmarked] at hthread'
    obtain rfl := Option.some.inj hthread'
    exact ⟨hstatus.symm, hmetadata⟩
  · rintro ⟨hstatus, hmetadata⟩ thread₁ hthread₁
    obtain rfl := Option.some.inj (hthread.symm.trans hthread₁)
    exact ⟨_, hmarked, hstatus.symm, hmetadata⟩

/-- Nothing of what has been committed when the request fails at the statement is new. -/
def CommitsNothingNew (thread : Thread) (assistant : Assistant) (durable : Bool)
    (point : CreationPoint) : Prop :=
  (point.statusWritten durable = true → thread.status = .busy) ∧
    (point.metadataWritten durable = true → named thread.metadataJson assistant) ∧
    point.runWritten durable = false

/-- What has been committed is as it was exactly if nothing of it is new. -/
theorem committedAt_kept_iff (assistant : Assistant) (durable : Bool) (point : CreationPoint)
    (hthread : db.thread? run.threadId = some thread)
    (hpoint : point.runWritten durable = true → run.runId ∉ db.runs.map Run.runId) :
    (ThreadKept db (committedAt db run.threadId assistant run durable thread.metadataJson point)
        run.threadId ∧
      (committedAt db run.threadId assistant run durable thread.metadataJson point).runs =
        db.runs) ↔
      CommitsNothingNew thread assistant durable point := by
  have hstatus : point.metadataWritten durable = true → point.statusWritten durable = true := by
    cases point <;> cases durable <;> decide
  rw [committedAt, CommitsNothingNew]
  cases hrun : point.runWritten durable with
  | true =>
    refine iff_of_false ?_ (by simp)
    have hrefused := insertRun_marked assistant hthread thread.metadataJson
    obtain ⟨db', hdb'⟩ := Option.ne_none_iff_exists'.mp (mt hrefused.mp (hpoint hrun))
    rw [if_pos rfl, hdb', Option.getD_some, (Database.insertRun_eq_some hdb').2.1]
    rintro ⟨-, hruns⟩
    exact absurd (congrArg List.length hruns) (by simp [marked, writeThreadMetadata,
      setThreadStatus, Database.updateThreads])
  | false =>
    rw [if_neg Bool.false_ne_true]
    cases hmetadata : point.metadataWritten durable with
    | true =>
      rw [if_pos rfl, threadKept_marked_iff hthread, hstatus hmetadata]
      exact ⟨fun h => ⟨fun _ => h.1.1, fun _ => h.1.2, rfl⟩,
        fun h => ⟨⟨h.1 rfl, h.2.1 rfl⟩, rfl⟩⟩
    | false =>
      rw [if_neg Bool.false_ne_true]
      cases hwritten : point.statusWritten durable with
      | true =>
        rw [if_pos rfl, threadKept_setThreadStatus_iff hthread]
        exact ⟨fun h => ⟨fun _ => h.1, by simp, rfl⟩, fun h => ⟨h.1 rfl, rfl⟩⟩
      | false =>
        rw [if_neg Bool.false_ne_true]
        exact iff_of_true ⟨threadKept_refl _ _, rfl⟩ (by simp)

theorem not_taken_of_committingRun
    (h : firstFailure db runId fault writingPoints = some .committingRun) :
    runId ∉ db.runs.map Run.runId := by
  intro htaken
  by_cases hmarks : fault.all (!·.point.marks) = true
  · rw [firstFailure_of_taken hmarks htaken] at h
    cases h
  · obtain ⟨f, rfl, hmarks'⟩ := eq_some_of_not_all hmarks
    rw [firstFailure_of_marks db runId hmarks'] at h
    rw [Option.some.inj h] at hmarks'
    cases hmarks'

/-- **Which failures leave the thread as it was**: those at a statement before which nothing was
committed that is new to the thread, and no run. -/
theorem failed_creation_leaves_iff (status : RunStatus) (registry : Registry) (db : Database)
    (user : User) (threadId : String) (request : RunCreate) (runId : String)
    (fault : Option (Fault CreationPoint)) :
    LeavesAsItWas db threadId
        (creation status registry user threadId request runId fault db) ↔
      ∀ thread assistant point, db.thread? threadId = some thread →
        PassesChecks registry db threadId request assistant →
        failsAt db request runId fault = some point →
        CommitsNothingNew thread assistant (fault.any (·.durable)) point := by
  have hunchanged {effects : Effects Database Task RequestError Run}
      (hstarted : effects.started = []) (hruns : effects.session.committed.runs = db.runs)
      (hkept : ThreadKept db effects.session.committed threadId) :
      LeavesAsItWas db threadId effects := fun _ _ => ⟨hkept, hruns, hstarted⟩
  rcases upToWrites_creation status registry db user threadId request runId fault with
    ⟨assistant, hpasses, hfails, run, rfl, rfl, heffects⟩ |
      ⟨-, hstarted, hcommitted, hfails⟩
  · rw [heffects]
    cases hthread : db.thread? run.threadId with
    | none =>
      obtain ⟨-, hstarted, hcommitted⟩ :=
        run_markBusy_missing fault (addRun run <| .start (newTask run.threadId run.runId) <|
          .done run) assistant hthread
      refine iff_of_true (hunchanged hstarted ?_ ?_) fun _ _ _ h => by cases h
      · rcases hcommitted with hcommitted | hcommitted <;> rw [hcommitted]
        rfl
      · intro thread h
        rw [hthread] at h
        cases h
    | some thread =>
      have hwrites := run_writes (newTask run.threadId run.runId) fault assistant hthread
      dsimp only at hwrites
      rw [hfails]
      cases hpoint : firstFailure db run.runId fault writingPoints with
      | none =>
        rw [hpoint] at hwrites
        refine iff_of_true (fun e he => ?_) (by simp)
        rw [show _ = Except.ok run from hwrites] at he
        cases he
      | some point =>
        rw [hpoint] at hwrites
        obtain ⟨⟨e, he⟩, hstarted, hcommitted⟩ := hwrites
        have hkept := committedAt_kept_iff assistant (fault.any (·.durable)) point hthread
          fun hrun => not_taken_of_committingRun (hpoint.trans (by cases point <;> simp_all
            [CreationPoint.runWritten]))
        rw [← hcommitted] at hkept
        constructor
        · intro hleaves thread' assistant' point' hthread' hpasses' hpoint'
          obtain rfl := Option.some.inj hthread'
          obtain rfl := Except.ok.inj (hpasses.assistant.symm.trans hpasses'.assistant)
          obtain rfl := Option.some.inj hpoint'
          obtain ⟨hthreadKept, hruns, -⟩ := hleaves e he
          exact hkept.mp ⟨hthreadKept, hruns⟩
        · intro hnothing
          obtain ⟨hthreadKept, hruns⟩ :=
            hkept.mpr (hnothing thread assistant point rfl hpasses rfl)
          exact hunchanged hstarted hruns hthreadKept
  · refine iff_of_true (hunchanged hstarted (by rw [hcommitted]) ?_) ?_
    · rw [hcommitted]
      exact threadKept_refl db threadId
    · intro thread assistant point _ hpasses hpoint
      rcases hfails assistant hpasses with hfails | hfails <;>
        obtain rfl := Option.some.inj (hfails.symm.trans hpoint) <;>
        exact ⟨fun h => Bool.noConfusion h, fun h => Bool.noConfusion h, rfl⟩

/-- **A failure that leaves a busy thread**: the connection is lost when the metadata are to be
written. -/
theorem failed_creation_leaves_busy :
    ¬ ∀ (status : RunStatus) (registry : Registry) (db : Database) (user : User)
      (threadId : String) (request : RunCreate) (runId : String)
      (fault : Option (Fault CreationPoint)),
      LeavesAsItWas db threadId
        (creation status registry user threadId request runId fault db) := by
  intro h
  have hleaves := h .pending exampleRegistry exampleDatabase ⟨"alice", none⟩ "t"
    (exampleRequest false) "r" (some ⟨.writingMetadata, false, false⟩) .failed rfl
  obtain ⟨thread, hthread, hstatus, -⟩ := hleaves.1 exampleThread rfl
  have hbusy : (setThreadStatus exampleDatabase "t" .busy).thread? "t" =
      some { exampleThread with status := .busy } := rfl
  rw [show thread = _ from (Option.some.inj (hbusy.symm.trans hthread)).symm] at hstatus
  cases hstatus

end Runs

end OpenLangGraph

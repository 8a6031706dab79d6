import OpenLangGraph.Core.Orm

/-!
# Creating a run

The helpers and the two creation endpoints of `api/runs.py`, `create_run` and
`create_and_stream_run`, as one request alone performs them. The endpoints differ in the status of
the new row and in what they return, so they are one definition with a parameter.

## Who may create a run

The endpoints look threads up by id alone. `_build_thread_access_filter` stands in the same file
and guards the batch endpoint, but not these two: a stranger's request is rejected without effect
only if one of the other checks happens to reject it.

## Main definitions

* `createRun`, `createAndStreamRun`
* `createBatchItem` — what the batch endpoint does for one of its items

## Main results

* `createWithStatus_eq_ok` — a request that gets past the checks writes to the thread and adds a run
* `createWithStatus_rejected_iff` — which requests are rejected without effect
* `create_rejected_iff` — which run creations are rejected for the thread they name
* `createBatchItem_denied` — the batch endpoint does apply the filter
-/

namespace OpenLangGraph

/-- What the endpoints read of the process: the graphs of `langgraph.json`, and `uuid5` in the
namespace of the assistants. -/
structure Registry where
  listGraphs : List String
  uuid5 : String → String

/-- `RunCreate`, as far as the creation of a run reads it. -/
structure RunCreate where
  assistantId : String
  input : Option JsonObject
  config : Option JsonObject
  context : Option JsonObject
  command : Option JsonObject

/-- `request.command and request.command.get("resume") is not None` -/
def RunCreate.hasResume (request : RunCreate) : Bool :=
  match (request.command.getD []).lookup "resume" with
  | none | some .null => false
  | some _ => true

/-- How a request fails. -/
inductive RequestError
  | httpException (statusCode : ℕ) (detail : String)
  | integrityError
deriving DecidableEq

namespace Runs

/-! ### The checks -/

/-- The check of a resume command against the thread that was read. -/
def checkResume (threadId : String) : Option Thread → Except RequestError Unit
  | none => .error (.httpException 404 ("Thread '" ++ threadId ++ "' not found"))
  | some thread =>
    if thread.status ≠ .interrupted then
      .error (.httpException 400 "Cannot resume: thread is not in interrupted state")
    else .ok ()

/-- `resolve_assistant_id` -/
def resolveAssistantId (registry : Registry) (requestedId : String) : String :=
  if requestedId ∈ registry.listGraphs then registry.uuid5 requestedId else requestedId

/-- The assistant of a request, with its graph checked. -/
def findAssistant (registry : Registry) (db : Database) (requestedId : String) :
    Except RequestError Assistant :=
  match db.assistant? (resolveAssistantId registry requestedId) with
  | none => .error (.httpException 404 ("Assistant '" ++ requestedId ++ "' not found"))
  | some assistant =>
    if assistant.graphId ∈ registry.listGraphs then .ok assistant
    else .error (.httpException 404
      ("Graph '" ++ assistant.graphId ++ "' not found for assistant"))

/-! ### The writes -/

/-- `set_thread_status` -/
def setThreadStatus (db : Database) (threadId : String) (status : ThreadStatus) : Database :=
  db.updateThreads threadId (fun thread => { thread with status }) fun _ => rfl

/-- The metadata that `update_thread_metadata` writes, from those it has read. -/
def mergeMetadata (metadata : JsonObject) (assistant : Assistant) : JsonObject :=
  Json.insertEntries metadata
    [("assistant_id", .str assistant.assistantId), ("graph_id", .str assistant.graphId)]

/-- The write of `update_thread_metadata`. -/
def writeThreadMetadata (db : Database) (threadId : String) (metadata : JsonObject) : Database :=
  db.updateThreads threadId (fun thread => { thread with metadataJson := metadata }) fun _ => rfl

/-- `update_thread_metadata` -/
def updateThreadMetadata (db : Database) (threadId : String) (assistant : Assistant) :
    Except RequestError Database :=
  match db.thread? threadId with
  | none => .error (.httpException 404
      ("Thread '" ++ threadId ++ "' not found for metadata update"))
  | some thread =>
    .ok (writeThreadMetadata db threadId (mergeMetadata thread.metadataJson assistant))

/-- The row of a new run. -/
def newRun (user : User) (threadId : String) (assistant : Assistant) (status : RunStatus)
    (input config context : Option JsonObject) (runId : String) : Run :=
  { runId, threadId, assistantId := some assistant.assistantId, orgId := user.orgId, status
    input := .obj (input.getD []), config := config.map .obj, context := context.map .obj
    userId := user.identity, output := none, errorMessage := none }

/-! ### The endpoints -/

/-- The common body of the two creation endpoints, up to the start of the task: the database
afterwards, and the run or the error. -/
def createWithStatus (status : RunStatus) (registry : Registry) (db : Database) (user : User)
    (threadId : String) (request : RunCreate) (runId : String) :
    Database × Except RequestError Run :=
  match if request.hasResume then checkResume threadId (db.thread? threadId)
      else .ok () with
  | .error e => (db, .error e)
  | .ok () =>
    match findAssistant registry db request.assistantId with
    | .error e => (db, .error e)
    | .ok assistant =>
      let db := setThreadStatus db threadId .busy
      match updateThreadMetadata db threadId assistant with
      | .error e => (db, .error e)
      | .ok db =>
        let run := newRun user threadId assistant status request.input request.config
          request.context runId
        match db.insertRun run with
        | none => (db, .error .integrityError)
        | some db => (db, .ok run)

/-- `create_run` -/
def createRun := createWithStatus .pending

/-- `create_and_stream_run` -/
def createAndStreamRun := createWithStatus .streaming

/-- `RunBatchItem` -/
structure RunBatchItem where
  threadId : String
  assistantId : String
  input : Option JsonObject
  config : Option JsonObject

/-- What `create_batch_runs` does for one item, up to the start of its task. -/
def createBatchItem (registry : Registry) (db : Database) (user : User) (item : RunBatchItem)
    (runId : String) : Database × Except RequestError Run :=
  match (db.thread? item.threadId).filter
      (buildThreadAccessFilter user.identity user.orgId) with
  | none => (db, .error (.httpException 404 ("Thread '" ++ item.threadId ++ "' not found")))
  | some _ =>
    match findAssistant registry db item.assistantId with
    | .error e => (db, .error e)
    | .ok assistant =>
      let run := newRun user item.threadId assistant .pending item.input item.config none runId
      match db.insertRun run with
      | none => (db, .error .integrityError)
      | some db =>
        let db := setThreadStatus db item.threadId .busy
        match updateThreadMetadata db item.threadId assistant with
        | .error e => (db, .error e)
        | .ok db => (db, .ok run)

/-! ### What a request does -/

/-- The request fails and leaves the rows of threads and runs as they were. -/
def RejectedWithoutEffect (db : Database) (result : Database × Except RequestError Run) : Prop :=
  (∃ e, result.2 = .error e) ∧ result.1.threads = db.threads ∧ result.1.runs = db.runs

variable {registry : Registry} {db : Database} {user : User} {threadId runId : String}
  {request : RunCreate} {status : RunStatus} {thread : Thread}

theorem thread?_setThreadStatus (status : ThreadStatus) (threadId' : String) :
    (setThreadStatus db threadId status).thread? threadId' =
      if threadId' = threadId then
        (db.thread? threadId').map fun thread => { thread with status }
      else db.thread? threadId' :=
  Database.thread?_updateThreads _ _ threadId'

theorem thread?_writeThreadMetadata (metadata : JsonObject) (threadId' : String) :
    (writeThreadMetadata db threadId metadata).thread? threadId' =
      if threadId' = threadId then
        (db.thread? threadId').map fun thread => { thread with metadataJson := metadata }
      else db.thread? threadId' :=
  Database.thread?_updateThreads _ _ threadId'

theorem mem_of_thread? (h : db.thread? threadId = some thread) :
    threadId ∈ db.threads.map Thread.threadId := by
  have hid : thread.threadId = threadId := by simpa using List.find?_some h
  exact List.mem_map.mpr ⟨thread, List.mem_of_find?_eq_some h, hid⟩

/-- The metadata of an existing thread can be written. -/
theorem updateThreadMetadata_eq_ok (assistant : Assistant)
    (hthread : db.thread? threadId = some thread) :
    ∃ db', updateThreadMetadata db threadId assistant = .ok db' ∧ db'.runs = db.runs ∧
      threadId ∈ db'.threads.map Thread.threadId := by
  rw [updateThreadMetadata, hthread]
  refine ⟨_, rfl, rfl, ?_⟩
  rw [writeThreadMetadata, Database.map_threadId_updateThreads]
  exact mem_of_thread? hthread

/-- **Past the checks.** A request for an existing thread that no check rejects succeeds, and its
run is in the table. -/
theorem createWithStatus_eq_ok {assistant : Assistant} (hthread : db.thread? threadId = some thread)
    (hresume : request.hasResume = true → thread.status = .interrupted)
    (hassistant : findAssistant registry db request.assistantId = .ok assistant)
    (hfresh : runId ∉ db.runs.map Run.runId) :
    ∃ db' run, createWithStatus status registry db user threadId request runId = (db', .ok run) ∧
      db'.runs = db.runs ++ [run] := by
  have hcheck : (if request.hasResume then checkResume threadId (db.thread? threadId)
      else .ok ()) = .ok () := by
    by_cases h : request.hasResume = true
    · simp [h, hthread, checkResume, hresume h]
    · simp [h]
  have hbusy : (setThreadStatus db threadId .busy).thread? threadId =
      some { thread with status := .busy } := by
    rw [thread?_setThreadStatus, if_pos rfl, hthread, Option.map_some]
  obtain ⟨db₁, hmetadata, hruns₁, hids⟩ := updateThreadMetadata_eq_ok assistant hbusy
  have hnew : (newRun user threadId assistant status request.input request.config request.context
      runId).runId ∉ db₁.runs.map Run.runId := by
    rw [hruns₁]
    exact hfresh
  obtain ⟨db₂, hinsert, hruns₂⟩ := Database.insertRun_of_fresh hnew hids
  refine ⟨db₂, _, ?_, hruns₂.trans (by rw [hruns₁]; rfl)⟩
  simp only [createWithStatus, hcheck, hassistant, hmetadata, hinsert]

/-- The checks reject the request: it resumes a thread that is not interrupted, or its assistant
or graph is missing. -/
def ChecksReject (registry : Registry) (db : Database) (thread : Thread) (request : RunCreate) :
    Prop :=
  (request.hasResume = true ∧ thread.status ≠ .interrupted) ∨
    ∃ e, findAssistant registry db request.assistantId = .error e

theorem createWithStatus_rejected_iff (hthread : db.thread? threadId = some thread)
    (hfresh : runId ∉ db.runs.map Run.runId) :
    RejectedWithoutEffect db (createWithStatus status registry db user threadId request runId) ↔
      ChecksReject registry db thread request := by
  constructor
  · rintro ⟨⟨e, herror⟩, -, -⟩
    by_contra hchecks
    rw [ChecksReject, not_or, not_and_not_right] at hchecks
    obtain ⟨hresume, hassistant⟩ := hchecks
    cases hfind : findAssistant registry db request.assistantId with
    | error e => exact hassistant ⟨e, hfind⟩
    | ok assistant =>
      obtain ⟨db', run, hok, -⟩ := createWithStatus_eq_ok hthread hresume hfind hfresh
      rw [hok] at herror
      cases herror
  · intro hchecks
    rw [createWithStatus]
    split
    · exact ⟨⟨_, rfl⟩, rfl, rfl⟩
    · rename_i hcheck
      rcases hchecks with ⟨hresume, hstatus⟩ | ⟨e, hfind⟩
      · simp [hresume, hthread, checkResume, hstatus] at hcheck
      · rw [hfind]
        exact ⟨⟨_, rfl⟩, rfl, rfl⟩

/-- **Who is kept out.** On a thread that the user may not access, a creation request fails and
leaves every thread and run as it was exactly when one of the checks rejects it, and none of them
is about access. -/
theorem create_rejected_iff (registry : Registry) (db : Database) (user : User) (threadId : String)
    (request : RunCreate) (runId : String) (thread : Thread)
    (hthread : db.thread? threadId = some thread)
    (_hdenied : buildThreadAccessFilter user.identity user.orgId thread = false)
    (hfresh : runId ∉ db.runs.map Run.runId) :
    (RejectedWithoutEffect db (createRun registry db user threadId request runId) ↔
        ChecksReject registry db thread request) ∧
      (RejectedWithoutEffect db (createAndStreamRun registry db user threadId request runId) ↔
        ChecksReject registry db thread request) :=
  ⟨createWithStatus_rejected_iff hthread hfresh, createWithStatus_rejected_iff hthread hfresh⟩

/-- A graph and its assistant. -/
def exampleRegistry : Registry := ⟨["agent"], fun name => "uuid5-" ++ name⟩

/-- A thread of Alice, who is in no organization. -/
def exampleThread : Thread := ⟨"t", .idle, [], "alice", none⟩

/-- Alice's thread and the assistant of the graph. -/
def exampleDatabase : Database :=
  { assistants := [⟨"uuid5-agent", "agent"⟩], threads := [exampleThread], runs := []
    threads_unique := by simp, runs_unique := by simp, runs_thread := by simp }

/-- A request with an input, or with a resume command. -/
def exampleRequest (resume : Bool) : RunCreate :=
  { assistantId := "agent", input := if resume then none else some [], config := none
    context := none, command := if resume then some [("resume", .bool true)] else none }

/-- Mallory's resume command is rejected, since the thread is not interrupted. -/
theorem create_rejected_resume :
    RejectedWithoutEffect exampleDatabase (createRun exampleRegistry exampleDatabase
      ⟨"mallory", none⟩ "t" (exampleRequest true) "r") :=
  (create_rejected_iff exampleRegistry exampleDatabase ⟨"mallory", none⟩ "t" (exampleRequest true)
    "r" exampleThread rfl (by decide) (by decide)).1.mpr (.inl (by decide))

/-- Mallory's request with an input starts a run on Alice's thread. -/
theorem stranger_creates_run :
    ¬ ∀ (registry : Registry) (db : Database) (user : User) (threadId : String)
      (request : RunCreate) (runId : String) (thread : Thread),
      db.thread? threadId = some thread →
      buildThreadAccessFilter user.identity user.orgId thread = false →
      runId ∉ db.runs.map Run.runId →
      RejectedWithoutEffect db (createRun registry db user threadId request runId) ∧
        RejectedWithoutEffect db (createAndStreamRun registry db user threadId request runId) := by
  intro h
  obtain ⟨⟨-, -, hruns⟩, -⟩ := h exampleRegistry exampleDatabase ⟨"mallory", none⟩ "t"
    (exampleRequest false) "r" exampleThread rfl (by decide) (by decide)
  have hadded : (createRun exampleRegistry exampleDatabase ⟨"mallory", none⟩ "t"
      (exampleRequest false) "r").1.runs.length = 1 := by decide
  rw [hruns] at hadded
  cases hadded

/-- The batch endpoint does apply the filter. -/
theorem createBatchItem_denied {item : RunBatchItem}
    (hthread : db.thread? item.threadId = some thread)
    (hdenied : buildThreadAccessFilter user.identity user.orgId thread = false) :
    RejectedWithoutEffect db (createBatchItem registry db user item runId) := by
  have hnone : (db.thread? item.threadId).filter
      (buildThreadAccessFilter user.identity user.orgId) = none := by
    rw [hthread, Option.filter_some, hdenied]
    rfl
  rw [createBatchItem, hnone]
  exact ⟨⟨_, rfl⟩, rfl, rfl⟩

end Runs

end OpenLangGraph

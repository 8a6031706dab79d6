import Mathlib.Data.List.Nodup
import OpenLangGraph.Foundation.Json

/-!
# The tables

The rows of `core/orm.py` that runs are about: assistants, threads and runs, with the columns that
the run endpoints, the executor and the schedulers read or write. Timestamps are left out.

## Keys

A `Database` carries its primary keys and the foreign key of `runs.thread_id` as fields, so a
table with two rows of one id, or a run of a thread that does not exist, cannot be built. An
`INSERT` that would break one of them is `none`, the `IntegrityError`.

## Main definitions

* `Database`, `updateThreads`, `updateRuns`, `insertThread`, `insertRun`
* `buildThreadAccessFilter` — which threads a user may see

## Main results

* `thread?_updateThreads`, `run?_updateRuns` — what an `UPDATE` does to a lookup
-/

namespace OpenLangGraph

/-- `runs.status`. The last two are written by the cron scheduler only. -/
inductive RunStatus
  | pending
  | running
  | streaming
  | completed
  | failed
  | cancelled
  | interrupted
  | success
  | error
deriving DecidableEq

/-- `thread.status` -/
inductive ThreadStatus
  | idle
  | busy
  | interrupted
deriving DecidableEq

namespace RunStatus

/-- The status as the column and the messages spell it. -/
def value : RunStatus → String
  | .pending => "pending"
  | .running => "running"
  | .streaming => "streaming"
  | .completed => "completed"
  | .failed => "failed"
  | .cancelled => "cancelled"
  | .interrupted => "interrupted"
  | .success => "success"
  | .error => "error"

theorem value_eq_completed_iff {status : RunStatus} :
    status.value = "completed" ↔ status = .completed := by
  cases status <;> simp [value]

/-- `status in ["completed", "failed", "cancelled"]` -/
def isTerminal : RunStatus → Bool
  | .completed | .failed | .cancelled => true
  | _ => false

/-- `status in ["completed", "failed", "cancelled", "interrupted"]` -/
def isOver : RunStatus → Bool
  | .completed | .failed | .cancelled | .interrupted => true
  | _ => false

/-- `status in ["pending", "running", "streaming"]` -/
def isActive : RunStatus → Bool
  | .pending | .running | .streaming => true
  | _ => false

end RunStatus

/-- The members of a JSONB object. -/
abbrev JsonObject := List (String × Json)

/-- `User` -/
structure User where
  identity : String
  orgId : Option String
deriving DecidableEq

/-- A row of `assistant`. -/
structure Assistant where
  assistantId : String
  graphId : String
deriving DecidableEq

/-- A row of `thread`. -/
structure Thread where
  threadId : String
  status : ThreadStatus
  metadataJson : JsonObject
  userId : String
  orgId : Option String

/-- A row of `runs`. -/
structure Run where
  runId : String
  threadId : String
  assistantId : Option String
  orgId : Option String
  status : RunStatus
  input : Json
  config : Option Json
  context : Option Json
  userId : String
  output : Option Json
  errorMessage : Option String

/-- `_build_thread_access_filter` as a condition on a row: the user owns the thread, or shares it
through an organization. A comparison with `NULL` does not hold. -/
def buildThreadAccessFilter (userId : String) (orgId : Option String) (thread : Thread) : Bool :=
  match orgId with
  | none => thread.userId = userId
  | some orgId => thread.userId = userId || thread.orgId = some orgId

/-- The three tables, with their keys. -/
structure Database where
  assistants : List Assistant
  threads : List Thread
  runs : List Run
  threads_unique : (threads.map Thread.threadId).Nodup
  runs_unique : (runs.map Run.runId).Nodup
  runs_thread : ∀ run ∈ runs, run.threadId ∈ threads.map Thread.threadId

namespace Database

/-! ### Statements -/

/-- `SELECT … FROM assistant WHERE assistant_id = …` -/
def assistant? (db : Database) (assistantId : String) : Option Assistant :=
  db.assistants.find? (·.assistantId = assistantId)

/-- `SELECT … FROM thread WHERE thread_id = …` -/
def thread? (db : Database) (threadId : String) : Option Thread :=
  db.threads.find? (·.threadId = threadId)

/-- `SELECT … FROM runs WHERE run_id = …` -/
def run? (db : Database) (runId : String) : Option Run := db.runs.find? (·.runId = runId)

/-- The rows with this id changed by `f`. -/
def updateWhere {α : Type} (id : α → String) (key : String) (f : α → α) (rows : List α) : List α :=
  rows.map fun row => if id row = key then f row else row

/-- An update that keeps a column keeps the list of its values. -/
theorem map_updateWhere {α β : Type} {id : α → String} {g : α → β} {f : α → α}
    (hf : ∀ row, g (f row) = g row) (key : String) (rows : List α) :
    (updateWhere id key f rows).map g = rows.map g := by
  rw [updateWhere, List.map_map]
  refine List.map_congr_left fun row _ => ?_
  by_cases h : id row = key <;> simp [h, hf]

/-- `UPDATE thread SET … WHERE thread_id = …` -/
def updateThreads (db : Database) (threadId : String) (f : Thread → Thread)
    (hf : ∀ thread, (f thread).threadId = thread.threadId) : Database :=
  { db with
    threads := updateWhere Thread.threadId threadId f db.threads
    threads_unique := map_updateWhere hf threadId db.threads ▸ db.threads_unique
    runs_thread := fun run hrun =>
      map_updateWhere hf threadId db.threads ▸ db.runs_thread run hrun }

/-- `UPDATE runs SET … WHERE run_id = …` -/
def updateRuns (db : Database) (runId : String) (f : Run → Run)
    (hf : ∀ run, (f run).runId = run.runId ∧ (f run).threadId = run.threadId) : Database :=
  { db with
    runs := updateWhere Run.runId runId f db.runs
    runs_unique := map_updateWhere (fun run => (hf run).1) runId db.runs ▸ db.runs_unique
    runs_thread := by
      intro run hrun
      obtain ⟨row, hrow, rfl⟩ := List.mem_map.mp hrun
      have hthread := db.runs_thread row hrow
      split
      · rwa [(hf row).2]
      · exact hthread }

/-- `INSERT INTO thread` -/
def insertThread (db : Database) (thread : Thread) : Option Database :=
  if h : thread.threadId ∈ db.threads.map Thread.threadId then none
  else some
    { db with
      threads := db.threads ++ [thread]
      threads_unique := by
        rw [List.map_append, List.nodup_append]
        refine ⟨db.threads_unique, by simp, ?_⟩
        rintro id hid id' hid' rfl
        obtain rfl : id = thread.threadId := by simpa using hid'
        exact h hid
      runs_thread := fun run hrun => by
        rw [List.map_append]
        exact List.mem_append_left _ (db.runs_thread run hrun) }

/-- `INSERT INTO runs` -/
def insertRun (db : Database) (run : Run) : Option Database :=
  if h : run.runId ∉ db.runs.map Run.runId ∧ run.threadId ∈ db.threads.map Thread.threadId then
    some
      { db with
        runs := db.runs ++ [run]
        runs_unique := by
          rw [List.map_append, List.nodup_append]
          refine ⟨db.runs_unique, by simp, ?_⟩
          rintro id hid id' hid' rfl
          obtain rfl : id = run.runId := by simpa using hid'
          exact h.1 hid
        runs_thread := fun row hrow => by
          rcases List.mem_append.mp hrow with hrow | hrow
          · exact db.runs_thread row hrow
          · rw [List.mem_singleton.mp hrow]
            exact h.2 }
  else none

/-- `DELETE FROM thread WHERE thread_id = …`; the runs of the thread go with it. -/
def deleteThread (db : Database) (threadId : String) : Database :=
  { db with
    threads := db.threads.filter (·.threadId ≠ threadId)
    runs := db.runs.filter (·.threadId ≠ threadId)
    threads_unique := db.threads_unique.sublist (List.filter_sublist.map Thread.threadId)
    runs_unique := db.runs_unique.sublist (List.filter_sublist.map Run.runId)
    runs_thread := fun run hrun => by
      obtain ⟨hrun, hthread⟩ := List.mem_filter.mp hrun
      obtain ⟨thread, hmem, hid⟩ := List.mem_map.mp (db.runs_thread run hrun)
      exact List.mem_map.mpr ⟨thread, List.mem_filter.mpr ⟨hmem, by rwa [hid]⟩, hid⟩ }

/-- The keys of the runs, with their threads. -/
def keys (db : Database) : List (String × String) :=
  db.runs.map fun run => (run.runId, run.threadId)

/-! ### What a statement does -/

variable {db db' : Database} {threadId runId : String}

/-- An update keeps the ids, so it keeps what a lookup finds, up to the update. -/
theorem find?_updateWhere {α : Type} {id : α → String} {key key' : String} {f : α → α}
    (hf : ∀ row, id (f row) = id row) (rows : List α) :
    (updateWhere id key f rows).find? (fun row => id row = key') =
      if key' = key then (rows.find? fun row => id row = key').map f
      else rows.find? fun row => id row = key' := by
  induction rows with
  | nil => simp [updateWhere]
  | cons row rows ih =>
    rw [updateWhere] at ih
    rw [updateWhere, List.map_cons]
    by_cases hrow : id row = key'
    · by_cases hkey : key' = key
      · simp [hrow, hkey, hf]
      · simp [hrow, hkey]
    · have hrow' : id (if id row = key then f row else row) ≠ key' := by
        split <;> simp [hf, hrow]
      rw [List.find?_cons_of_neg (by simpa using hrow'), ih]
      simp [hrow]

@[simp] theorem map_threadId_updateThreads (f : Thread → Thread) (hf) :
    (db.updateThreads threadId f hf).threads.map Thread.threadId =
      db.threads.map Thread.threadId :=
  map_updateWhere hf threadId db.threads

@[simp] theorem keys_updateThreads (f : Thread → Thread) (hf) :
    (db.updateThreads threadId f hf).keys = db.keys := rfl

@[simp] theorem keys_updateRuns (f : Run → Run) (hf) :
    (db.updateRuns runId f hf).keys = db.keys :=
  map_updateWhere (fun run => by simp [hf]) runId db.runs

/-- A run has one thread. -/
theorem threadId_of_mem_keys {run : Run} (hrun : run ∈ db.runs)
    (h : (run.runId, threadId) ∈ db.keys) : run.threadId = threadId := by
  obtain ⟨run', hrun', hkey⟩ := List.mem_map.mp h
  obtain ⟨hid, hthread⟩ := Prod.mk.injEq .. ▸ hkey
  exact List.inj_on_of_nodup_map db.runs_unique hrun' hrun hid ▸ hthread

theorem threadId_unique {threadId' : String} (h : (runId, threadId) ∈ db.keys)
    (h' : (runId, threadId') ∈ db.keys) : threadId = threadId' := by
  obtain ⟨run, hrun, hkey⟩ := List.mem_map.mp h
  cases hkey
  exact threadId_of_mem_keys hrun h'

theorem mem_ids_of_mem_keys (h : (runId, threadId) ∈ db.keys) :
    runId ∈ db.runs.map Run.runId := by
  obtain ⟨run, hrun, hkey⟩ := List.mem_map.mp h
  exact List.mem_map.mpr ⟨run, hrun, congrArg Prod.fst hkey⟩

theorem thread?_updateThreads (f : Thread → Thread) (hf) (threadId' : String) :
    (db.updateThreads threadId f hf).thread? threadId' =
      if threadId' = threadId then (db.thread? threadId').map f else db.thread? threadId' :=
  find?_updateWhere hf db.threads

theorem run?_updateRuns (f : Run → Run) (hf) (runId' : String) :
    (db.updateRuns runId f hf).run? runId' =
      if runId' = runId then (db.run? runId').map f else db.run? runId' :=
  find?_updateWhere (fun run => (hf run).1) db.runs

theorem mem_updateRuns {f : Run → Run} {hf} {run : Run} :
    run ∈ (db.updateRuns runId f hf).runs ↔
      ∃ row ∈ db.runs, (if row.runId = runId then f row else row) = run :=
  List.mem_map

theorem insertRun_eq_some {run : Run} (h : db.insertRun run = some db') :
    run.runId ∉ db.runs.map Run.runId ∧ db'.runs = db.runs ++ [run] ∧ db'.threads = db.threads ∧
      db'.assistants = db.assistants := by
  rw [insertRun] at h
  split at h
  · rename_i hnew
    cases h
    exact ⟨hnew.1, rfl, rfl, rfl⟩
  · cases h

/-- The new run is the one with its id. -/
theorem run?_insertRun {run : Run} (h : db.insertRun run = some db') :
    db'.run? run.runId = some run := by
  obtain ⟨hnew, hruns, -⟩ := insertRun_eq_some h
  have hnone : db.runs.find? (·.runId = run.runId) = none := by
    refine List.find?_eq_none.mpr fun row hrow hid => hnew ?_
    exact List.mem_map.mpr ⟨row, hrow, of_decide_eq_true hid⟩
  rw [run?, hruns, List.find?_append, hnone, Option.none_or]
  exact List.find?_cons_of_pos (decide_eq_true rfl)

/-- A run with a new id can be added to an existing thread. -/
theorem insertRun_of_fresh {run : Run} (hnew : run.runId ∉ db.runs.map Run.runId)
    (hthread : run.threadId ∈ db.threads.map Thread.threadId) :
    ∃ db', db.insertRun run = some db' ∧ db'.runs = db.runs ++ [run] :=
  ⟨_, dif_pos ⟨hnew, hthread⟩, rfl⟩

theorem insertThread_eq_some {thread : Thread} (h : db.insertThread thread = some db') :
    thread.threadId ∉ db.threads.map Thread.threadId ∧ db'.threads = db.threads ++ [thread] ∧
      db'.runs = db.runs ∧ db'.assistants = db.assistants := by
  rw [insertThread] at h
  split at h
  · cases h
  · rename_i hnew
    cases h
    exact ⟨hnew, rfl, rfl, rfl⟩

theorem mem_threadIds_deleteThread {threadId' : String} :
    threadId' ∈ (db.deleteThread threadId).threads.map Thread.threadId ↔
      threadId' ∈ db.threads.map Thread.threadId ∧ threadId' ≠ threadId := by
  constructor
  · intro h
    obtain ⟨thread, hthread, rfl⟩ := List.mem_map.mp h
    obtain ⟨hthread, hne⟩ := List.mem_filter.mp hthread
    exact ⟨List.mem_map_of_mem hthread, by simpa using hne⟩
  · rintro ⟨h, hne⟩
    obtain ⟨thread, hthread, rfl⟩ := List.mem_map.mp h
    exact List.mem_map_of_mem (List.mem_filter.mpr ⟨hthread, by simpa using hne⟩)

end Database

end OpenLangGraph

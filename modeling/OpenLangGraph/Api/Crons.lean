import OpenLangGraph.Core.Orm

/-!
# Crons

The table of crons and the endpoints of `api/crons.py` that write to it. `create_cron` and
`create_cron_for_thread` differ in the thread alone, so they are one definition with a parameter.
The second takes its thread from the path and checks nothing about it; the foreign key of the
table is all that stands in the way of a thread id that does not exist.

## Main definitions

* `Cron`, `CronTables` — the rows, with their foreign key to the threads
* `createCron`, `createCronForThread`, `deleteCron`

## Main results

* `createWithThread_cases` — a request adds one cron of its user, or changes nothing
-/

namespace OpenLangGraph

/-- A row of `crons`. Times are counted from some fixed moment. -/
structure Cron where
  cronId : String
  assistantId : String
  threadId : Option String
  userId : String
  schedule : String
  payload : JsonObject
  nextRunDate : Option ℕ
  endTime : Option ℕ

/-- `CronCreate` -/
structure CronCreate where
  assistantId : String
  schedule : String
  input : Option JsonObject
  metadata : Option JsonObject
  config : Option JsonObject
  webhook : Option String
  interruptBefore : Option (List String)
  interruptAfter : Option (List String)
  multitaskStrategy : Option String

/-- What is stored for the executions of the cron. -/
def CronCreate.payload (request : CronCreate) : JsonObject :=
  let object (o : Option JsonObject) : Json := o.elim .null .obj
  let text (s : Option String) : Json := s.elim .null .str
  let texts (l : Option (List String)) : Json := l.elim .null fun l => .arr (l.map .str)
  [("input", object request.input), ("config", object request.config),
    ("webhook", text request.webhook), ("interrupt_before", texts request.interruptBefore),
    ("interrupt_after", texts request.interruptAfter),
    ("multitask_strategy", text request.multitaskStrategy),
    ("metadata", object request.metadata)]

/-- `croniter`: whether a schedule is valid, and the next time after a given one. `none` is a
`ValueError`. -/
structure Croniter where
  isValid : String → Bool
  getNext : String → ℕ → Option ℕ

/-- How a request fails. -/
inductive CronError
  | httpException (statusCode : ℕ) (detail : String)
  | valueError
  | integrityError
deriving DecidableEq

/-- The table of crons beside the others. -/
structure CronTables where
  db : Database
  crons : List Cron
  crons_thread : ∀ cron ∈ crons, ∀ threadId, cron.threadId = some threadId →
    threadId ∈ db.threads.map Thread.threadId

namespace CronTables

/-! ### Statements -/

/-- `INSERT INTO crons` -/
def insertCron (t : CronTables) (cron : Cron) : Option CronTables :=
  if h : cron.cronId ∉ t.crons.map Cron.cronId ∧ (t.db.assistant? cron.assistantId).isSome ∧
      ∀ threadId, cron.threadId = some threadId → threadId ∈ t.db.threads.map Thread.threadId then
    some
      { t with
        crons := t.crons ++ [cron]
        crons_thread := fun row hrow => by
          rcases List.mem_append.mp hrow with hrow | hrow
          · exact t.crons_thread row hrow
          · rw [List.mem_singleton.mp hrow]
            exact h.2.2 }
  else none

/-- `DELETE FROM crons WHERE …` -/
def deleteWhere (t : CronTables) (p : Cron → Bool) : CronTables :=
  { t with
    crons := t.crons.filter fun cron => !p cron
    crons_thread := fun cron hcron => t.crons_thread cron (List.mem_of_mem_filter hcron) }

/-- `UPDATE crons SET next_run_date = … WHERE cron_id = …` -/
def setNextRunDate (t : CronTables) (cronId : String) (nextRunDate : Option ℕ) : CronTables :=
  { t with
    crons := Database.updateWhere Cron.cronId cronId (fun cron => { cron with nextRunDate })
      t.crons
    crons_thread := fun cron hcron => by
      obtain ⟨row, hrow, rfl⟩ := List.mem_map.mp hcron
      have hthread := t.crons_thread row hrow
      split
      · exact hthread
      · exact hthread }

/-- Other tables, which have all threads that were there. -/
def withDb (t : CronTables) (db : Database)
    (h : ∀ threadId ∈ t.db.threads.map Thread.threadId, threadId ∈ db.threads.map Thread.threadId) :
    CronTables :=
  { t with
    db
    crons_thread := fun cron hcron threadId hthread =>
      h threadId (t.crons_thread cron hcron threadId hthread) }

/-! ### The endpoints -/

/-- The common body of the two endpoints that create a cron. -/
def createWithThread (croniter : Croniter) (t : CronTables) (threadId : Option String)
    (user : User) (request : CronCreate) (cronId : String) (now : ℕ) :
    CronTables × Except CronError Cron :=
  if croniter.isValid request.schedule then
    match croniter.getNext request.schedule now with
    | none => (t, .error .valueError)
    | some nextRun =>
      let cron : Cron :=
        { cronId, assistantId := request.assistantId, threadId, userId := user.identity
          schedule := request.schedule, payload := request.payload, nextRunDate := some nextRun
          endTime := none }
      match t.insertCron cron with
      | none => (t, .error .integrityError)
      | some t => (t, .ok cron)
  else (t, .error (.httpException 400 ("Invalid cron schedule: " ++ request.schedule)))

/-- `create_cron` -/
def createCron (croniter : Croniter) (t : CronTables) :=
  createWithThread croniter t none

/-- `create_cron_for_thread` -/
def createCronForThread (croniter : Croniter) (t : CronTables) (threadId : String) :=
  createWithThread croniter t (some threadId)

/-- `delete_cron` -/
def deleteCron (t : CronTables) (user : User) (cronId : String) :
    CronTables × Except CronError Unit :=
  let selected (cron : Cron) : Bool := cron.cronId = cronId && cron.userId = user.identity
  if t.crons.any selected then (t.deleteWhere selected, .ok ())
  else (t, .error (.httpException 404 ("Cron '" ++ cronId ++ "' not found")))

/-! ### What they do -/

variable {t t' : CronTables}

theorem insertCron_eq_some {cron : Cron} (h : t.insertCron cron = some t') :
    (∀ threadId, cron.threadId = some threadId →
      threadId ∈ t.db.threads.map Thread.threadId) ∧
      t'.db = t.db ∧ t'.crons = t.crons ++ [cron] := by
  rw [insertCron] at h
  split at h
  · rename_i hkeys
    cases h
    exact ⟨hkeys.2.2, rfl, rfl⟩
  · cases h

/-- A request adds one cron of its user on its thread, which exists, or changes nothing. -/
theorem createWithThread_cases (croniter : Croniter) (t : CronTables) (threadId : Option String)
    (user : User) (request : CronCreate) (cronId : String) (now : ℕ) :
    let t' := (createWithThread croniter t threadId user request cronId now).1
    t' = t ∨ (croniter.isValid request.schedule = true ∧
      ∃ cron : Cron, cron.userId = user.identity ∧ cron.threadId = threadId ∧
        (∀ id, threadId = some id → id ∈ t.db.threads.map Thread.threadId) ∧
        t'.db = t.db ∧ t'.crons = t.crons ++ [cron]) := by
  rw [createWithThread]
  by_cases hvalid : croniter.isValid request.schedule = true
  · rw [if_pos hvalid]
    cases croniter.getNext request.schedule now with
    | none => exact .inl rfl
    | some nextRun =>
      dsimp only
      split
      · exact .inl rfl
      · rename_i hinsert
        obtain ⟨hthread, hdb, hcrons⟩ := insertCron_eq_some hinsert
        exact .inr ⟨hvalid, _, rfl, rfl, hthread, hdb, hcrons⟩
  · rw [if_neg hvalid]
    exact .inl rfl

/-- A deletion takes crons away. -/
theorem deleteCron_cases (t : CronTables) (user : User) (cronId : String) :
    (deleteCron t user cronId).1.db = t.db ∧
      ∀ cron ∈ (deleteCron t user cronId).1.crons, cron ∈ t.crons := by
  rw [deleteCron]
  split
  · exact ⟨rfl, fun cron hcron => List.mem_of_mem_filter hcron⟩
  · exact ⟨rfl, fun cron => id⟩

end CronTables

end OpenLangGraph

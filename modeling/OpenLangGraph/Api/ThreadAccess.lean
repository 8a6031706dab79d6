import Mathlib.Data.List.Sort
import OpenLangGraph.Api.ThreadCopy
import OpenLangGraph.Api.ThreadHistory
import OpenLangGraph.Api.ThreadUpdate
import OpenLangGraph.Foundation.Isolation

/-!
# Threads of different tenants

The endpoints of `api/threads.py`, as programs that interleave with each other and with the runs. A
thread may be read by its owner and by everybody in the organization of the owner; only the owner
updates or deletes it. An endpoint checks this by a query, and what comes next goes by the id of the
thread alone.

## Tenants

The users that share organizations, directly or not, make up a tenant: its organizations are those
of no other user. What the users of a tenant are told, and what becomes of their threads, is then
what it would be if the threads of the others were not there and the others never did anything.

## What must be assumed

Two gaps of the code are assumed away. A run is created on a thread without asking whose it is, and
a history may be asked for by a checkpoint that names another thread. `uuid4` gives no id to two
users.

## Scope

The runs of a thread are left out, which a deletion cancels. What a run writes to the thread and to
the checkpointer is any function of what is there. The conditions of a search are any predicate of
the row, and what a graph makes of the checkpoints of a thread is any function of them. The cleanup
of expired threads is left out.

## Main definitions

* `ThreadStore`, `ThreadStatement`, `ThreadCall.program` — the endpoints as programs
* `Tenant`, `ThreadStore.restrict` — what a tenant sees of the store
* `ThreadCall.Respects` — what is assumed of a request

## Main results

* `ThreadCall.writes_respects` — what an endpoint writes, for whom
* `ThreadCall.seesOnly_program` — what an endpoint reads
* `tenants_isolated`
-/

namespace OpenLangGraph

namespace ThreadAccess

open ThreadCopy Transition

variable {ν : Type}

/-! ### The store -/

/-- A row of `thread`. -/
structure ThreadRow extends ThreadUpdate.ThreadRow where
  createdAt : ℤ

/-- The columns that an `UPDATE` writes. The id, the owner and the organization are not among
them. -/
structure RowChange where
  run : ThreadRow → ThreadRow
  threadId_run : ∀ row, (run row).threadId = row.threadId
  userId_run : ∀ row, (run row).userId = row.userId
  orgId_run : ∀ row, (run row).orgId = row.orgId

/-- What an endpoint returns. -/
inductive Answer (ν : Type)
  | thread (row : ThreadRow)
  | threads (rows : List ThreadRow)
  | count (count : ℕ)
  | states (states : List (Checkpoint ν))
  | deleted

inductive ThreadError
  | httpException (statusCode : ℕ) (detail : String)
  /-- another exception -/
  | raised (name : String)

/-- The table, the checkpoints in the order in which they came, and what has been answered to
whom. -/
@[ext]
structure ThreadStore (ν : Type) where
  threads : Table fun row : ThreadRow => row.threadId
  checkpoints : List (CheckpointTuple ν)
  answered : List (String × Answer ν)

inductive ThreadStatement (ν : Type)
  | insertThread (row : ThreadRow)
  /-- the flush of a row that has been read, which fails if it is gone -/
  | flushThread (threadId : String) (change : RowChange)
  /-- `update(ThreadORM).where(ThreadORM.thread_id == thread_id)` -/
  | updateThread (threadId : String) (change : RowChange)
  | deleteThread (threadId : String)
  | putCheckpoint (tuple : CheckpointTuple ν)
  | answer (identity : String) (answer : Answer ν)

/-- `aput` replaces the checkpoint of the thread with the same id. -/
def putTuple (checkpoints : List (CheckpointTuple ν)) (tuple : CheckpointTuple ν) :
    List (CheckpointTuple ν) :=
  checkpoints.filter (fun t => t.threadId ≠ tuple.threadId ||
    t.checkpoint.id ≠ tuple.checkpoint.id) ++ [tuple]

/-- `UPDATE thread SET … WHERE thread_id = …` -/
def ThreadStore.change (s : ThreadStore ν) (threadId : String) (change : RowChange) :
    ThreadStore ν :=
  { s with threads := s.threads.updateIf (·.threadId = threadId) change.run change.threadId_run }

namespace ThreadStatement

def apply : ThreadStatement ν → ThreadStore ν → Except ThreadError (ThreadStore ν)
  | .insertThread row, s =>
    match s.threads.insert row with
    | none => .error (.raised "IntegrityError")
    | some threads => .ok { s with threads }
  | .flushThread threadId change, s =>
    if (s.threads.find? threadId).isNone then .error (.raised "StaleDataError")
    else .ok (s.change threadId change)
  | .updateThread threadId change, s => .ok (s.change threadId change)
  | .deleteThread threadId, s =>
    .ok { s with threads := s.threads.deleteIf (·.threadId = threadId) }
  | .putCheckpoint tuple, s => .ok { s with checkpoints := putTuple s.checkpoints tuple }
  | .answer identity a, s => .ok { s with answered := s.answered ++ [(identity, a)] }

end ThreadStatement

/-! ### The endpoints -/

/-- `ThreadSearchRequest` and `ThreadCountRequest`: the conditions on the status and the metadata,
and the page. -/
structure ThreadQuery where
  holds : ThreadRow → Bool
  offset : ℕ
  limit : ℕ

/-- What a graph makes of the checkpoints of a thread, given the `graph_id`. -/
abbrev StateQuery (ν : Type) :=
  Json → List (CheckpointTuple ν) → Except ThreadError (List (Checkpoint ν))

/-- What a run writes to its thread. -/
inductive RunWrite (ν : Type)
  | update (change : RowChange)
  | put (checkpoint : Checkpoint ν) (metadata : JsonObject)

/-- A request, or a step of a run. -/
inductive ThreadCall (ν : Type)
  /-- with the id that `uuid4` returns -/
  | createThread (user : User) (threadId : String) (metadata : Option JsonObject) (now : ℤ)
  | listThreads (user : User)
  | getThread (user : User) (threadId : String)
  | getState (user : User) (threadId : String) (query : StateQuery ν)
  /-- with the `thread_id` that the checkpoint of the request names -/
  | getHistory (user : User) (threadId : String) (named : Option String) (query : StateQuery ν)
  | searchThreads (user : User) (query : ThreadQuery)
  | countThreads (user : User) (query : ThreadQuery)
  | updateThread (user : User) (threadId : String) (request : ThreadUpdate.ThreadUpdateRequest)
      (now : ℤ)
  | deleteThread (user : User) (threadId : String)
  /-- with the id that `uuid4` returns, and what becomes of `aput` -/
  | copyThread (user : User) (threadId : String) (request : Option ThreadCopyRequest)
      (newThreadId : String) (now : ℤ) (aput : Fate)
  /-- what a run of the user writes, once it has read its thread and the checkpoints -/
  | run (user : User) (threadId : String)
      (writes : Option ThreadRow → List (CheckpointTuple ν) → List (RunWrite ν))

/-- Whether a user may read a thread. -/
def accessible (user : User) (row : ThreadRow) : Bool :=
  buildThreadAccessFilter user.identity user.orgId row.toThread

/-- Whether the user owns the thread. -/
def isOwn (user : User) (row : ThreadRow) : Bool := row.userId = user.identity

/-- The first query of an endpoint. -/
def lookUp (threadId : String) (condition : ThreadRow → Bool) (s : ThreadStore ν) :
    Except ThreadError ThreadRow :=
  match (s.threads.find? threadId).filter condition with
  | none => .error (.httpException 404 ("Thread '" ++ threadId ++ "' not found"))
  | some row => .ok row

/-- `session.refresh` -/
def refresh (threadId : String) (s : ThreadStore ν) : Except ThreadError ThreadRow :=
  match s.threads.find? threadId with
  | none => .error (.raised "InvalidRequestError")
  | some row => .ok row

/-- The checkpoints of a thread. -/
def checkpointsOf (threadId : String) (s : ThreadStore ν) : List (CheckpointTuple ν) :=
  s.checkpoints.filter (·.threadId = threadId)

/-- The rows of a search, the newest first. -/
def found (user : User) (query : ThreadQuery) (s : ThreadStore ν) : List ThreadRow :=
  ((s.threads.rows.filter fun row => accessible user row && query.holds row).insertionSort
    fun a b => b.createdAt ≤ a.createdAt)

/-- The metadata of a new thread. -/
def createMetadata (user : User) (metadata : Option JsonObject) : JsonObject :=
  PyDict.update (metadata.getD [])
    [("owner", .str user.identity), ("assistant_id", .null), ("graph_id", .null),
      ("thread_name", .str "")]

/-- The row of a new thread. -/
def newRow (user : User) (threadId : String) (metadataJson : JsonObject) (now : ℤ) : ThreadRow where
  threadId
  status := .idle
  metadataJson
  userId := user.identity
  orgId := user.orgId
  updatedAt := now
  ttlSeconds := none
  ttlStrategy := none
  expiresAt := none
  createdAt := now

/-- What a flush leaves of a column: the new value, if it is not the one that was loaded. -/
def flushed {α : Type} [DecidableEq α] (loaded : α) (new : Option α) (stored : α) : α :=
  match new with
  | none => stored
  | some new => if new = loaded then stored else new

/-- What `update_thread` writes, once it has read a row. -/
def updateChange (request : ThreadUpdate.ThreadUpdateRequest) (ttl : Option (ℤ × String)) (now : ℤ)
    (loaded : ThreadRow) : RowChange where
  run row :=
    { row with
      metadataJson := (request.metadataWritten loaded.toThreadRow).getD row.metadataJson
      ttlSeconds := flushed loaded.ttlSeconds (ttl.map (some ·.1)) row.ttlSeconds
      ttlStrategy := flushed loaded.ttlStrategy (ttl.map (some ·.2)) row.ttlStrategy
      expiresAt := flushed loaded.expiresAt (ttl.map fun ttl => some (now + ttl.1)) row.expiresAt
      updatedAt := flushed loaded.updatedAt (some now) row.updatedAt }
  threadId_run _ := rfl
  userId_run _ := rfl
  orgId_run _ := rfl

/-- The checkpoint of the source: the one with the id of the request, or the latest. -/
def sourceState (threadId : String) (request : Option ThreadCopyRequest) (s : ThreadStore ν) :
    Except ThreadError (Option (Checkpoint ν)) :=
  match checkpointId? request with
  | none => .ok ((checkpointsOf threadId s).getLast?.map CheckpointTuple.checkpoint)
  | some checkpointId =>
    match (checkpointsOf threadId s).find? (·.checkpoint.id = checkpointId) with
    | none => .error (.httpException 404 ("Checkpoint '" ++ checkpointId ++ "' not found"))
    | some tuple => .ok (some tuple.checkpoint)

/-- What `aput` stores for the copy. -/
def copyTuple (threadId newThreadId : String) (checkpoint : Checkpoint ν) : CheckpointTuple ν :=
  ⟨newThreadId, ⟨checkpoint.id, []⟩, [("copied_from", .str threadId), ("source", .str "copy")]⟩

def RunWrite.statement (threadId : String) : RunWrite ν → ThreadStatement ν
  | .update change => .updateThread threadId change
  | .put checkpoint metadata => .putCheckpoint ⟨threadId, checkpoint, metadata⟩

namespace ThreadCall

open Program

abbrev ThreadProgram (ν : Type) := Program (ThreadStore ν) (ThreadStatement ν) ThreadError

/-- The user whose request it is. -/
def user : ThreadCall ν → User
  | .createThread user _ _ _ => user
  | .listThreads user => user
  | .getThread user _ => user
  | .getState user _ _ => user
  | .getHistory user _ _ _ => user
  | .searchThreads user _ => user
  | .countThreads user _ => user
  | .updateThread user _ _ _ => user
  | .deleteThread user _ => user
  | .copyThread user _ _ _ _ _ => user
  | .run user _ _ => user

/-- The end of an endpoint. -/
def reply (user : User) (a : Answer ν) : ThreadProgram ν :=
  .write (.answer user.identity a) (.ended (.ok ()))

/-- The end of `copy_thread`, once the new row is there. -/
def copyState (user : User) (threadId : String) (row : ThreadRow) (aput : Fate)
    (checkpoint : Checkpoint ν) : ThreadProgram ν :=
  let rest : ThreadProgram ν :=
    match aput with
    | .returns => reply user (.thread row)
    | .raises message _ => .write (.deleteThread row.threadId) <|
        .ended (.error (.httpException 500 ("Failed to copy thread state: " ++ message)))
    | .cancelled _ => .ended (.error (.raised "CancelledError"))
  if aput.applied then .write (.putCheckpoint (copyTuple threadId row.threadId checkpoint)) rest
  else rest

/-- The writes of a run, one after the other. -/
def writeAll (threadId : String) : List (RunWrite ν) → ThreadProgram ν
  | [] => .ended (.ok ())
  | w :: writes => .write (w.statement threadId) (writeAll threadId writes)

/-- The endpoints. Which objects the column of the metadata can hold is an argument. -/
def program (accepts : JsonObject → Bool) : ThreadCall ν → ThreadProgram ν
  | .createThread user threadId metadata now =>
    let row := newRow user threadId (createMetadata user metadata) now
    .write (.insertThread row) <|
    -- a `session.refresh` that fails is suppressed
    .select fun s => reply user (.thread ((s.threads.find? threadId).getD row))
  | .listThreads user =>
    .select fun s => reply user (.threads (s.threads.rows.filter (accessible user)))
  | .getThread user threadId =>
    .read (lookUp threadId (accessible user)) fun row => reply user (.thread row)
  | .getState user threadId query =>
    .read (lookUp threadId (accessible user)) fun row =>
    match ThreadHistory.graphId? row.toThread with
    | none => .ended (.error (.httpException 404
        ("Thread '" ++ threadId ++ "' has no associated graph")))
    | some graphId =>
      .read (fun s => query graphId (checkpointsOf threadId s)) fun states =>
      reply user (.states states)
  | .getHistory user threadId named query =>
    .read (lookUp threadId (accessible user)) fun row =>
    match ThreadHistory.graphId? row.toThread with
    | none => reply user (.states [])
    | some graphId =>
      .read (fun s => query graphId (checkpointsOf (named.getD threadId) s)) fun states =>
      reply user (.states states)
  | .searchThreads user query =>
    .select fun s =>
      reply user (.threads (((found user query s).drop query.offset).take query.limit))
  | .countThreads user query => .select fun s => reply user (.count (found user query s).length)
  | .updateThread user threadId request now =>
    .read (lookUp threadId (isOwn user)) fun row =>
    match request.parseTtl with
    | .error (.httpException statusCode detail) =>
      .ended (.error (.httpException statusCode detail))
    | .error .dataError => .ended (.error (.raised "DataError"))
    | .ok ttl =>
      if ThreadUpdate.isStorable accepts request ttl row.toThreadRow then
        .write (.flushThread threadId (updateChange request ttl now row)) <|
        .read (refresh threadId) fun row => reply user (.thread row)
      else .ended (.error (.raised "DataError"))
  | .deleteThread user threadId =>
    .read (lookUp threadId (isOwn user)) fun _ =>
    .write (.deleteThread threadId) <|
    reply user .deleted
  | .copyThread user threadId request newThreadId now aput =>
    .read (lookUp threadId (accessible user)) fun source =>
    .read (sourceState threadId request) fun state =>
    let row := newRow user newThreadId (finalMetadata source.toThread threadId request) now
    .write (.insertThread row) <|
    match state with
    | none => reply user (.thread row)
    | some checkpoint => copyState user threadId row aput checkpoint
  | .run _ threadId writes =>
    .select fun s =>
      writeAll threadId (writes (s.threads.find? threadId) (checkpointsOf threadId s))

end ThreadCall

/-! ### Tenants -/

/-- The users and the organizations of a tenant. -/
structure Tenant where
  identities : String → Bool
  orgs : String → Bool

/-- The organization is one of the tenant if the user is. -/
def Tenant.Separates (tenant : Tenant) (identity : String) (orgId : Option String) : Prop :=
  ∀ org ∈ orgId, tenant.orgs org = tenant.identities identity

variable (tenant : Tenant) (owner : String → String)

/-- Every thread has its owner, in an organization of the owner's tenant. -/
structure ThreadStore.Separated (s : ThreadStore ν) : Prop where
  owner : ∀ row ∈ s.threads.rows, owner row.threadId = row.userId
  org : ∀ row ∈ s.threads.rows, tenant.Separates row.userId row.orgId

/-- What there is of a tenant: its threads, their checkpoints, and what its users have been told. -/
def ThreadStore.restrict (s : ThreadStore ν) : ThreadStore ν where
  threads := s.threads.deleteIf fun row => !tenant.identities row.userId
  checkpoints := s.checkpoints.filter fun t => tenant.identities (owner t.threadId)
  answered := s.answered.filter fun a => tenant.identities a.1

namespace ThreadCall

/-- The user belongs to the tenant. -/
def isOf (call : ThreadCall ν) : Bool := tenant.identities call.user.identity

/-- What is assumed of a request: the user shares organizations within the tenant only, and new ids
are the user's own. A history is asked for by the id of the thread, and a run is on a thread of its
user's tenant, which the code does not check. -/
def Respects (call : ThreadCall ν) : Prop :=
  tenant.Separates call.user.identity call.user.orgId ∧
    match call with
    | .createThread user threadId _ _ => owner threadId = user.identity
    | .copyThread user _ _ newThreadId _ _ => owner newThreadId = user.identity
    | .getHistory _ _ named _ => named = none
    | .run user threadId _ => tenant.identities (owner threadId) = tenant.identities user.identity
    | _ => True

end ThreadCall

/-- A statement is about the tenant if its user is one of the tenant's. -/
def ThreadStatement.Respects (user : User) : ThreadStatement ν → Prop
  | .insertThread row =>
    row.userId = user.identity ∧ row.orgId = user.orgId ∧ owner row.threadId = user.identity
  | .flushThread threadId _ | .updateThread threadId _ | .deleteThread threadId =>
    tenant.identities (owner threadId) = tenant.identities user.identity
  | .putCheckpoint tuple =>
    tenant.identities (owner tuple.threadId) = tenant.identities user.identity
  | .answer identity _ => identity = user.identity

variable {tenant : Tenant} {owner : String → String} {s s' : ThreadStore ν} {user : User}
  {threadId : String} {statement : ThreadStatement ν} {accepts : JsonObject → Bool}

/-! ### What a statement does to a tenant -/

/-- A thread whose owner is one of the tenant's is found among the tenant's. -/
theorem find?_restrict (hs : s.Separated tenant owner)
    (h : tenant.identities (owner threadId) = true) :
    (s.restrict tenant owner).threads.find? threadId = s.threads.find? threadId := by
  show (s.threads.deleteIf _).find? threadId = _
  rw [Table.find?_deleteIf]
  cases hfind : s.threads.find? threadId with
  | none => rfl
  | some row =>
    obtain ⟨hrow, hid⟩ := Table.find?_eq_some_iff.mp hfind
    rw [Option.filter_some, ← hs.owner row hrow, hid, h]
    rfl

theorem putTuple_filter (p : CheckpointTuple ν → Bool) (checkpoints : List (CheckpointTuple ν))
    (tuple : CheckpointTuple ν) (h : p tuple = true) :
    (putTuple checkpoints tuple).filter p = putTuple (checkpoints.filter p) tuple := by
  rw [putTuple, putTuple, List.filter_append, List.filter_filter, List.filter_filter,
    List.filter_cons_of_pos h, List.filter_nil]
  exact congrArg (· ++ [tuple]) (List.filter_congr fun t _ => Bool.and_comm _ _)

theorem putTuple_filter_of_dropped (p : CheckpointTuple ν → Bool)
    (checkpoints : List (CheckpointTuple ν)) (tuple : CheckpointTuple ν)
    (h : ∀ t : CheckpointTuple ν, t.threadId = tuple.threadId → p t = false) :
    (putTuple checkpoints tuple).filter p = checkpoints.filter p := by
  rw [putTuple, List.filter_append, List.filter_filter,
    List.filter_cons_of_neg (by rw [h tuple rfl]; decide), List.filter_nil, List.append_nil]
  refine List.filter_congr fun t _ => ?_
  by_cases hthread : t.threadId = tuple.threadId
  · rw [h t hthread, Bool.false_and]
  · rw [decide_eq_true hthread, Bool.true_or, Bool.and_true]

/-- **A statement of a user of the tenant** does to the tenant's part what it would do if there were
nothing else. -/
theorem map_restrict_apply (hs : s.Separated tenant owner)
    (hin : tenant.identities user.identity = true) (h : statement.Respects tenant owner user) :
    (statement.apply s).map (·.restrict tenant owner) =
      statement.apply (s.restrict tenant owner) := by
  have hchange : ∀ (threadId : String) (change : RowChange),
      (s.change threadId change).restrict tenant owner =
        (s.restrict tenant owner).change threadId change := fun threadId change =>
    ThreadStore.ext (Table.deleteIf_updateIf change.threadId_run fun row => by
      rw [change.userId_run]) rfl rfl
  cases statement with
  | insertThread row =>
    obtain ⟨huser, -, howner⟩ := h
    have hinsert : (s.restrict tenant owner).threads.insert row = (s.threads.insert row).map
        (·.deleteIf fun row => !tenant.identities row.userId) := by
      refine Table.insert_deleteIf (by rw [huser, hin]; rfl) fun old hold hid => ?_
      rw [← hs.owner old hold, hid, howner, hin]
      rfl
    rw [ThreadStatement.apply, ThreadStatement.apply, hinsert]
    cases s.threads.insert row with
    | none => rfl
    | some threads => rfl
  | flushThread threadId change =>
    rw [ThreadStatement.apply, ThreadStatement.apply, find?_restrict hs (h.trans hin),
      ← hchange threadId change]
    split <;> rfl
  | updateThread threadId change => exact congrArg Except.ok (hchange threadId change)
  | deleteThread threadId =>
    exact congrArg Except.ok (ThreadStore.ext Table.deleteIf_deleteIf rfl rfl)
  | putCheckpoint tuple =>
    exact congrArg Except.ok (ThreadStore.ext rfl (putTuple_filter _ _ _ (h.trans hin)) rfl)
  | answer identity a =>
    obtain rfl : identity = user.identity := h
    refine congrArg Except.ok (ThreadStore.ext rfl rfl ?_)
    show (s.answered ++ [(user.identity, a)]).filter (fun a => tenant.identities a.1) = _
    rw [List.filter_append, List.filter_cons_of_pos (by exact hin), List.filter_nil]
    rfl

/-- **A statement of another user** does nothing to the tenant's part. -/
theorem restrict_of_apply (hs : s.Separated tenant owner)
    (hout : tenant.identities user.identity = false) (h : statement.Respects tenant owner user)
    (happly : statement.apply s = .ok s') :
    s'.restrict tenant owner = s.restrict tenant owner := by
  have hother : ∀ threadId, tenant.identities (owner threadId) = tenant.identities user.identity →
      ∀ row ∈ s.threads.rows, decide (row.threadId = threadId) = true →
        (!tenant.identities row.userId) = true := fun threadId h row hrow hid => by
    rw [← hs.owner row hrow, of_decide_eq_true hid, h, hout]
    rfl
  have hchange : ∀ (threadId : String) (change : RowChange),
      tenant.identities (owner threadId) = tenant.identities user.identity →
      (s.change threadId change).restrict tenant owner = s.restrict tenant owner :=
    fun threadId change h => ThreadStore.ext (Table.deleteIf_updateIf_of_deleted
      change.threadId_run (fun row => by rw [change.userId_run]) (hother threadId h)) rfl rfl
  cases statement with
  | insertThread row =>
    rw [ThreadStatement.apply] at happly
    split at happly
    · cases happly
    · rename_i threads hinsert
      cases happly
      exact ThreadStore.ext (Table.deleteIf_of_insert hinsert (by rw [h.1, hout]; rfl)) rfl rfl
  | flushThread threadId change =>
    rw [ThreadStatement.apply] at happly
    split at happly
    · cases happly
    · cases happly
      exact hchange threadId change h
  | updateThread threadId change =>
    cases happly
    exact hchange threadId change h
  | deleteThread threadId =>
    cases happly
    exact ThreadStore.ext (Table.deleteIf_deleteIf_of_deleted (hother threadId h)) rfl rfl
  | putCheckpoint tuple =>
    cases happly
    refine ThreadStore.ext rfl (putTuple_filter_of_dropped _ _ _ fun t hthread => ?_) rfl
    rw [hthread, h, hout]
  | answer identity a =>
    cases happly
    obtain rfl : identity = user.identity := h
    refine ThreadStore.ext rfl rfl ?_
    show (s.answered ++ [(user.identity, a)]).filter (fun a => tenant.identities a.1) = _
    rw [List.filter_append, List.filter_cons_of_neg (by simp [hout]), List.filter_nil,
      List.append_nil]
    rfl

/-- An update keeps the tenants apart. -/
theorem ThreadStore.Separated.change (hs : s.Separated tenant owner) (threadId : String)
    (change : RowChange) : (s.change threadId change).Separated tenant owner where
  owner := fun row hrow => by
    rcases Table.mem_updateIf change.threadId_run hrow with hold | ⟨old, hold, -, rfl⟩
    · exact hs.owner row hold
    · rw [change.threadId_run, change.userId_run]
      exact hs.owner old hold
  org := fun row hrow => by
    rcases Table.mem_updateIf change.threadId_run hrow with hold | ⟨old, hold, -, rfl⟩
    · exact hs.org row hold
    · rw [change.userId_run, change.orgId_run]
      exact hs.org old hold

/-- So does every statement. -/
theorem ThreadStore.Separated.apply (hs : s.Separated tenant owner)
    (huser : tenant.Separates user.identity user.orgId) (h : statement.Respects tenant owner user)
    (happly : statement.apply s = .ok s') : s'.Separated tenant owner := by
  cases statement with
  | insertThread row =>
    rw [ThreadStatement.apply] at happly
    split at happly
    · cases happly
    · rename_i threads hinsert
      cases happly
      obtain ⟨hid, horg, howner⟩ := h
      have hcases : ∀ row' ∈ threads.rows, row' ∈ s.threads.rows ∨ row' = row := fun row' hrow => by
        rw [(Table.insert_eq_some hinsert).2] at hrow
        exact (List.mem_append.mp hrow).imp_right List.mem_singleton.mp
      refine ⟨fun row' hrow => ?_, fun row' hrow => ?_⟩
      · rcases hcases row' hrow with hold | rfl
        · exact hs.owner row' hold
        · rw [howner, hid]
      · rcases hcases row' hrow with hold | rfl
        · exact hs.org row' hold
        · rw [hid, horg]
          exact huser
  | flushThread threadId change =>
    rw [ThreadStatement.apply] at happly
    split at happly
    · cases happly
    · cases happly
      exact hs.change threadId change
  | updateThread threadId change =>
    cases happly
    exact hs.change threadId change
  | deleteThread threadId =>
    cases happly
    exact ⟨fun row hrow => hs.owner row (Table.mem_deleteIf hrow),
      fun row hrow => hs.org row (Table.mem_deleteIf hrow)⟩
  | putCheckpoint tuple =>
    cases happly
    exact ⟨hs.owner, hs.org⟩
  | answer identity a =>
    cases happly
    exact ⟨hs.owner, hs.org⟩

/-! ### What an endpoint writes -/

namespace ThreadCall

open Program

variable {call : ThreadCall ν} {I : ThreadStore ν → Prop}

theorem lookUp_eq_ok {condition : ThreadRow → Bool} {row : ThreadRow}
    (h : lookUp threadId condition s = .ok row) :
    row ∈ s.threads.rows ∧ row.threadId = threadId ∧ condition row = true := by
  rw [lookUp] at h
  split at h
  · cases h
  · rename_i found hfilter
    cases h
    obtain ⟨hfind, hcondition⟩ := Option.filter_eq_some_iff.mp hfilter
    obtain ⟨hrow, hid⟩ := Table.find?_eq_some_iff.mp hfind
    exact ⟨hrow, hid, hcondition⟩

/-- Who finds a thread as the own one is its owner. -/
theorem owner_of_lookUp (hs : s.Separated tenant owner) {row : ThreadRow}
    (h : lookUp threadId (isOwn user) s = .ok row) : owner threadId = user.identity := by
  obtain ⟨hrow, hid, hown⟩ := lookUp_eq_ok h
  rw [← hid, hs.owner row hrow]
  exact of_decide_eq_true hown

theorem writes_reply {a : Answer ν} (h : Writes I (reply user a) statement) :
    statement.Respects tenant owner user := by
  simp only [reply, writes_write, writes_ended, or_false] at h
  subst h
  rfl

theorem writes_copyState {row : ThreadRow} {aput : Fate} {checkpoint : Checkpoint ν}
    (hrow : owner row.threadId = user.identity)
    (h : Writes I (copyState user threadId row aput checkpoint) statement) :
    statement.Respects tenant owner user := by
  have hid : tenant.identities (owner row.threadId) = tenant.identities user.identity :=
    congrArg _ hrow
  have hrest : ∀ rest : ThreadProgram ν, Writes I
      (if aput.applied then
        .write (.putCheckpoint (copyTuple threadId row.threadId checkpoint)) rest
      else rest) statement →
      statement.Respects tenant owner user ∨ Writes I rest statement := by
    intro rest h
    split at h
    · rcases writes_write.mp h with rfl | h
      · exact .inl hid
      · exact .inr h
    · exact .inr h
  cases aput with
  | returns => exact (hrest _ h).elim id writes_reply
  | raises message applied =>
    rcases hrest _ h with h | h
    · exact h
    · rcases writes_write.mp h with rfl | h
      · exact hid
      · exact absurd h (writes_ended _)
  | cancelled applied =>
    rcases hrest _ h with h | h
    · exact h
    · exact absurd h (writes_ended _)

theorem writes_writeAll {writes : List (RunWrite ν)}
    (hid : tenant.identities (owner threadId) = tenant.identities user.identity)
    (h : Writes I (writeAll threadId writes) statement) :
    statement.Respects tenant owner user := by
  induction writes with
  | nil => exact absurd h (writes_ended _)
  | cons w writes ih =>
    rcases writes_write.mp h with rfl | h
    · cases w with
      | update change => exact hid
      | put checkpoint metadata => exact hid
    · exact ih h

/-- **What an endpoint writes** is about its user, or about a thread of the user's tenant. -/
theorem writes_respects (hcall : call.Respects tenant owner)
    (h : Writes (·.Separated tenant owner) (call.program accepts) statement) :
    statement.Respects tenant owner call.user := by
  obtain ⟨-, hcall⟩ := hcall
  cases call with
  | createThread user threadId metadata now =>
    rcases writes_write.mp h with rfl | h
    · exact ⟨rfl, rfl, hcall⟩
    · obtain ⟨s, -, h⟩ := writes_select.mp h
      exact writes_reply h
  | listThreads user =>
    obtain ⟨s, -, h⟩ := writes_select.mp h
    exact writes_reply h
  | getThread user threadId =>
    obtain ⟨s, row, -, -, h⟩ := writes_read.mp h
    exact writes_reply h
  | getState user threadId query =>
    obtain ⟨s, row, -, -, h⟩ := writes_read.mp h
    split at h
    · exact absurd h (writes_ended _)
    · obtain ⟨s, states, -, -, h⟩ := writes_read.mp h
      exact writes_reply h
  | getHistory user threadId named query =>
    obtain ⟨s, row, -, -, h⟩ := writes_read.mp h
    split at h
    · exact writes_reply h
    · obtain ⟨s, states, -, -, h⟩ := writes_read.mp h
      exact writes_reply h
  | searchThreads user query =>
    obtain ⟨s, -, h⟩ := writes_select.mp h
    exact writes_reply h
  | countThreads user query =>
    obtain ⟨s, -, h⟩ := writes_select.mp h
    exact writes_reply h
  | updateThread user threadId request now =>
    obtain ⟨s, row, hs, hrow, h⟩ := writes_read.mp h
    split at h
    · exact absurd h (writes_ended _)
    · exact absurd h (writes_ended _)
    · split at h
      · rcases writes_write.mp h with rfl | h
        · exact congrArg tenant.identities (owner_of_lookUp hs hrow)
        · obtain ⟨s, row, -, -, h⟩ := writes_read.mp h
          exact writes_reply h
      · exact absurd h (writes_ended _)
  | deleteThread user threadId =>
    obtain ⟨s, row, hs, hrow, h⟩ := writes_read.mp h
    rcases writes_write.mp h with rfl | h
    · exact congrArg tenant.identities (owner_of_lookUp hs hrow)
    · exact writes_reply h
  | copyThread user threadId request newThreadId now aput =>
    obtain ⟨s, source, -, -, h⟩ := writes_read.mp h
    obtain ⟨s, state, -, -, h⟩ := writes_read.mp h
    rcases writes_write.mp h with rfl | h
    · exact ⟨rfl, rfl, hcall⟩
    · split at h
      · exact writes_reply h
      · exact writes_copyState hcall h
  | run user threadId writes =>
    obtain ⟨s, -, h⟩ := writes_select.mp h
    exact writes_writeAll hcall h

/-! ### What an endpoint reads -/

/-- A query that asks for rows of the tenant finds them among the tenant's. -/
theorem filter_restrict {condition : ThreadRow → Bool}
    (h : ∀ row ∈ s.threads.rows, condition row = true → tenant.identities row.userId = true) :
    (s.restrict tenant owner).threads.rows.filter condition = s.threads.rows.filter condition := by
  show (s.threads.rows.filter _).filter condition = _
  rw [List.filter_filter]
  refine List.filter_congr fun row hrow => ?_
  cases hcondition : condition row with
  | false => rfl
  | true => simp [h row hrow hcondition]

theorem found_restrict {query : ThreadQuery} (h : ∀ row ∈ s.threads.rows,
    accessible user row = true → tenant.identities row.userId = true) :
    found user query (s.restrict tenant owner) = found user query s := by
  rw [found, found, filter_restrict fun row hrow hboth =>
    h row hrow (Bool.and_eq_true_iff.mp hboth).1]

theorem lookUp_restrict {condition : ThreadRow → Bool}
    (h : ∀ row ∈ s.threads.rows, condition row = true → tenant.identities row.userId = true) :
    lookUp threadId condition (s.restrict tenant owner) = lookUp threadId condition s := by
  have hfind : ((s.restrict tenant owner).threads.find? threadId).filter condition =
      (s.threads.find? threadId).filter condition := by
    show ((s.threads.deleteIf _).find? threadId).filter condition = _
    rw [Table.find?_deleteIf, Option.filter_filter]
    cases hrow : s.threads.find? threadId with
    | none => rfl
    | some row =>
      rw [Option.filter_some, Option.filter_some]
      cases hcondition : condition row with
      | false => simp
      | true => simp [h row (Table.find?_eq_some_iff.mp hrow).1 hcondition]
  rw [lookUp, lookUp, hfind]

theorem checkpointsOf_restrict (h : tenant.identities (owner threadId) = true) :
    checkpointsOf threadId (s.restrict tenant owner) = checkpointsOf threadId s := by
  show (s.checkpoints.filter _).filter _ = s.checkpoints.filter _
  rw [List.filter_filter]
  refine List.filter_congr fun t _ => ?_
  by_cases hthread : t.threadId = threadId
  · rw [hthread, h, Bool.and_true]
  · rw [decide_eq_false hthread, Bool.false_and]

/-- Who may read a thread is of the owner's tenant. -/
theorem identities_of_accessible (hs : s.Separated tenant owner)
    (huser : tenant.Separates user.identity user.orgId)
    (hin : tenant.identities user.identity = true) {row : ThreadRow} (hrow : row ∈ s.threads.rows)
    (h : accessible user row = true) : tenant.identities row.userId = true := by
  cases horg : user.orgId with
  | none =>
    rw [accessible, horg] at h
    rw [of_decide_eq_true h, hin]
  | some org =>
    rw [accessible, horg] at h
    rcases Bool.or_eq_true_iff.mp h with hown | hshared
    · rw [of_decide_eq_true hown, hin]
    · rw [← hs.org row hrow org (of_decide_eq_true hshared), huser org horg, hin]

theorem seesOnly_copyState {view : ThreadStore ν → ThreadStore ν} {row : ThreadRow} {aput : Fate}
    {checkpoint : Checkpoint ν} :
    SeesOnly I view (copyState user threadId row aput checkpoint) := by
  cases aput with
  | returns => exact trivial
  | raises message applied => cases applied <;> exact trivial
  | cancelled applied => cases applied <;> exact trivial

theorem seesOnly_writeAll {view : ThreadStore ν → ThreadStore ν} {writes : List (RunWrite ν)} :
    SeesOnly I view (writeAll threadId writes) := by
  induction writes with
  | nil => exact trivial
  | cons w writes ih => exact ih

/-- **An endpoint reads** what there is of the tenant of its user, and nothing else. -/
theorem seesOnly_program (hcall : call.Respects tenant owner) (hin : call.isOf tenant = true) :
    SeesOnly (·.Separated tenant owner) (·.restrict tenant owner) (call.program accepts) := by
  obtain ⟨huser, hcall⟩ := hcall
  have haccessible : ∀ s : ThreadStore ν, s.Separated tenant owner → ∀ row ∈ s.threads.rows,
      accessible call.user row = true → tenant.identities row.userId = true :=
    fun s hs row hrow => identities_of_accessible hs huser hin hrow
  have hown : ∀ s : ThreadStore ν, s.Separated tenant owner → ∀ row ∈ s.threads.rows,
      isOwn call.user row = true → tenant.identities row.userId = true :=
    fun s _ row _ hrow => (congrArg tenant.identities (of_decide_eq_true hrow)).trans hin
  have howner : ∀ (s : ThreadStore ν) row (threadId : String), s.Separated tenant owner →
      lookUp threadId (accessible call.user) s = .ok row →
        tenant.identities (owner threadId) = true := fun s row threadId hs h => by
    obtain ⟨hrow, hid, haccess⟩ := lookUp_eq_ok h
    rw [← hid, hs.owner row hrow]
    exact haccessible s hs row hrow haccess
  cases call with
  | createThread user threadId metadata now =>
    intro s hs
    refine ⟨?_, trivial⟩
    have hid : tenant.identities (owner threadId) = true := (congrArg _ hcall).trans hin
    dsimp only
    rw [find?_restrict hs hid]
  | listThreads user =>
    exact fun s hs => ⟨congrArg (fun rows => reply user (.threads rows))
      (filter_restrict (haccessible s hs)), trivial⟩
  | getThread user threadId =>
    exact seesOnly_read (fun s hs => lookUp_restrict (haccessible s hs)) fun _ _ _ _ => trivial
  | getState user threadId query =>
    refine seesOnly_read (fun s hs => lookUp_restrict (haccessible s hs)) fun s row hs hrow => ?_
    have hid := howner s row threadId hs hrow
    split
    · exact trivial
    · exact seesOnly_read (fun s _ => by rw [checkpointsOf_restrict hid]) fun _ _ _ _ => trivial
  | getHistory user threadId named query =>
    obtain rfl : named = none := hcall
    refine seesOnly_read (fun s hs => lookUp_restrict (haccessible s hs)) fun s row hs hrow => ?_
    have hid := howner s row threadId hs hrow
    split
    · exact trivial
    · exact seesOnly_read (fun s _ => by rw [Option.getD_none, checkpointsOf_restrict hid])
        fun _ _ _ _ => trivial
  | searchThreads user query =>
    exact fun s hs => ⟨congrArg (fun rows => reply user
      (.threads ((rows.drop query.offset).take query.limit))) (found_restrict (haccessible s hs)),
      trivial⟩
  | countThreads user query =>
    exact fun s hs => ⟨congrArg (fun rows => reply user (.count rows.length))
      (found_restrict (haccessible s hs)), trivial⟩
  | updateThread user threadId request now =>
    refine seesOnly_read (fun s hs => lookUp_restrict (hown s hs)) fun s row hs hrow => ?_
    have hid : tenant.identities (owner threadId) = true :=
      (congrArg tenant.identities (owner_of_lookUp hs hrow)).trans hin
    split
    · exact trivial
    · exact trivial
    · split
      · exact seesOnly_read (fun s hs => by rw [refresh, refresh, find?_restrict hs hid])
          fun _ _ _ _ => trivial
      · exact trivial
  | deleteThread user threadId =>
    exact seesOnly_read (fun s hs => lookUp_restrict (hown s hs)) fun _ _ _ _ => trivial
  | copyThread user threadId request newThreadId now aput =>
    refine seesOnly_read (fun s hs => lookUp_restrict (haccessible s hs)) fun s row hs hrow => ?_
    have hid := howner s row threadId hs hrow
    refine seesOnly_read (fun s _ => ?_) fun _ state _ _ => ?_
    · rw [sourceState, sourceState, checkpointsOf_restrict hid]
    · cases state with
      | none => exact trivial
      | some checkpoint => exact seesOnly_copyState
  | run user threadId writes =>
    intro s hs
    have hid : tenant.identities (owner threadId) = true := Eq.trans hcall hin
    refine ⟨?_, seesOnly_writeAll⟩
    dsimp only
    rw [find?_restrict hs hid, checkpointsOf_restrict hid]

end ThreadCall

/-! ### Runs of the system -/

open Interleaving

/-- Requests and runs at the same time. -/
abbrev step (accepts : JsonObject → Bool) :
    Interleaving (ThreadStore ν) (ThreadStatement ν) ThreadError →
      InterleavingLabel (ThreadCall ν) ThreadError →
        Option (Interleaving (ThreadStore ν) (ThreadStatement ν) ThreadError) :=
  Interleaving.step (ThreadCall.program accepts) ThreadStatement.apply

/-- **Tenants are isolated**: the requests of a tenant's users do what they would do, and answer
what they would answer, if there were no other threads and nobody else took a step. -/
theorem tenants_isolated {t : Interleaving (ThreadStore ν) (ThreadStatement ν) ThreadError}
    {labels : List (InterleavingLabel (ThreadCall ν) ThreadError)}
    (hs : s.Separated tenant owner) (hcalls : ∀ call ∈ started labels, call.Respects tenant owner)
    (h : exec (step accepts) ⟨s, []⟩ labels = some t) :
    ∃ t', exec (step accepts) ⟨s.restrict tenant owner, []⟩
        (labels.filter (keeps (ThreadCall.isOf tenant) (started labels))) = some t' ∧
      Agrees (·.restrict tenant owner) (ThreadCall.isOf tenant) (started labels) t t' := by
  refine exec_kept (I := (·.Separated tenant owner)) (P := (·.Respects tenant owner)) ?_
    (fun call hcall hin => ThreadCall.seesOnly_program hcall hin) ?_ ?_ rfl hs hcalls
    List.prefix_rfl h
  · intro call statement s s' hcall hs hwrites
    exact hs.apply hcall.1 (ThreadCall.writes_respects hcall hwrites)
  · intro call statement s hcall hin hs hwrites
    exact map_restrict_apply hs hin (ThreadCall.writes_respects hcall hwrites)
  · intro call statement s s' hcall hout hs hwrites
    exact restrict_of_apply hs hout (ThreadCall.writes_respects hcall hwrites)

/-- Ada and Bob, of one organization. -/
def acme : Tenant where
  identities := fun identity => identity = "ada" || identity = "bob"
  orgs := (· = "acme")

/-- One thread, of Ada. -/
def adaStore : ThreadStore ℕ where
  threads := .single (newRow ⟨"ada", some "acme"⟩ "t1" [] 0)
  checkpoints := []
  answered := []

def threadOwner (threadId : String) : String := if threadId = "t1" then "ada" else "eve"

/-- Bob reads Ada's thread, which Eve tries to delete before she creates her own. -/
def eveIntrudes : List (InterleavingLabel (ThreadCall ℕ) ThreadError) :=
  [.start (.getThread ⟨"bob", some "acme"⟩ "t1"), .start (.deleteThread ⟨"eve", none⟩ "t1"),
    .start (.createThread ⟨"eve", none⟩ "t2" none 0), .step 1, .step 0, .step 2, .step 0, .step 2]

theorem tenants_isolated_acme :
    ∃ t', exec (step fun _ => true) ⟨adaStore.restrict acme threadOwner, []⟩
        (eveIntrudes.filter (keeps (ThreadCall.isOf acme) (started eveIntrudes))) = some t' ∧
      Agrees (·.restrict acme threadOwner) (ThreadCall.isOf acme) (started eveIntrudes)
        ((exec (step fun _ => true) ⟨adaStore, []⟩ eveIntrudes).get rfl) t' := by
  refine tenants_isolated ⟨fun row hrow => ?_, fun row hrow => ?_⟩ (fun call hcall => ?_)
    (Option.some_get _).symm
  · rw [List.mem_singleton.mp hrow]
    rfl
  · rw [List.mem_singleton.mp hrow]
    rintro org ⟨⟩
    rfl
  · have hnone : acme.Separates "eve" none := fun org horg => by cases horg
    have hcases : call = .getThread ⟨"bob", some "acme"⟩ "t1" ∨
        call = .deleteThread ⟨"eve", none⟩ "t1" ∨
        call = .createThread ⟨"eve", none⟩ "t2" none 0 := by
      simpa [eveIntrudes, started] using hcall
    rcases hcases with rfl | rfl | rfl
    · exact ⟨fun org horg => by cases horg; rfl, trivial⟩
    · exact ⟨hnone, trivial⟩
    · exact ⟨hnone, rfl⟩

end ThreadAccess

end OpenLangGraph

import OpenLangGraph.Core.Orm

/-!
# The copy of a thread

`copy_thread` of `api/threads.py`: the row of the new thread is committed, and then the checkpoint
of the source is put under its id.

## What is awaited

Every `await` returns, raises, or is cancelled; one that does not return may have taken effect in
spite of that. The exceptions of `aput` are caught, and the new row is deleted then. Its
cancellation is not caught, nor is anything that happens before it once the row is there.

## What is put

The checkpointer stores those channel values that `new_versions` names. `copy_thread` names none, so
the checkpoint of the copy is there, and is empty.

## Main definitions

* `World`, `agetTuple`, `aput` — the database and the checkpointer
* `Fate`, `Fates` — what becomes of each `await`
* `copyThread`
* `AllOrNothing` — what is asked
* `Committed`, `CopyHolds` — when it is so

## Main results

* `latest_aput` — what is stored for a new thread
* `all_or_nothing_iff`
-/

namespace OpenLangGraph

namespace ThreadCopy

variable {ν : Type}

/-! ### The checkpointer -/

/-- A checkpoint, with the values of its channels. -/
structure Checkpoint (ν : Type) where
  id : String
  channelValues : List (String × ν)

/-- A checkpoint of a thread, as the checkpointer has it. -/
structure CheckpointTuple (ν : Type) where
  threadId : String
  checkpoint : Checkpoint ν
  metadata : JsonObject

/-- The tables, and what the checkpointer has, in the order in which it came. -/
structure World (ν : Type) where
  db : Database
  checkpoints : List (CheckpointTuple ν)

/-- The checkpoints of a thread. -/
def World.checkpointsOf (w : World ν) (threadId : String) : List (CheckpointTuple ν) :=
  w.checkpoints.filter (·.threadId = threadId)

/-- `aget_tuple`: the checkpoint with an id, or the latest. -/
def agetTuple (w : World ν) (threadId : String) : Option String → Option (CheckpointTuple ν)
  | some checkpointId => (w.checkpointsOf threadId).find? (·.checkpoint.id = checkpointId)
  | none => (w.checkpointsOf threadId).getLast?

/-- `aput`: a checkpoint of the thread, with the channel values that are named. -/
def aput (w : World ν) (threadId : String) (checkpoint : Checkpoint ν) (metadata : JsonObject)
    (newVersions : List String) : World ν :=
  { w with
    checkpoints :=
      w.checkpoints.filter (fun t => t.threadId ≠ threadId || t.checkpoint.id ≠ checkpoint.id) ++
        [⟨threadId, ⟨checkpoint.id, checkpoint.channelValues.filter fun e => e.1 ∈ newVersions⟩,
          metadata⟩] }

/-! ### The endpoint -/

/-- What becomes of an `await`: whether it has taken effect is open where it does not return. -/
inductive Fate where
  | returns
  | raises (message : String) (applied : Bool)
  | cancelled (applied : Bool)

/-- It takes effect. -/
def Fate.applied : Fate → Bool
  | .returns => true
  | .raises _ applied => applied
  | .cancelled applied => applied

/-- What becomes of each `await` of `copy_thread`. -/
structure Fates where
  select : Fate
  getCheckpointer : Fate
  agetTuple : Fate
  commit : Fate
  aput : Fate
  delete : Fate
  deleteCommit : Fate

/-- `ThreadCopyRequest` -/
structure ThreadCopyRequest where
  checkpointId : Option String
  metadata : Option JsonObject

inductive Response where
  | thread (thread : Thread)
  | httpException (statusCode : ℕ) (detail : String)
  /-- another exception -/
  | raised (message : String)
  | cancelled

/-- What is answered to an `await` that does not return, with what is made of an exception. -/
def Fate.failure (onRaise : String → Response) : Fate → Option Response
  | .returns => none
  | .raises message _ => some (onRaise message)
  | .cancelled _ => some .cancelled

/-- `request.checkpoint_id if request else None`, if it is not empty. -/
def checkpointId? (request : Option ThreadCopyRequest) : Option String :=
  (request.bind ThreadCopyRequest.checkpointId).filter (· ≠ "")

/-- The row of the source, as far as the user may see it. -/
def source? (w : World ν) (user : User) (threadId : String) : Option Thread :=
  (w.db.thread? threadId).filter (buildThreadAccessFilter user.identity user.orgId)

/-- What comes before the new row: the row of the source, and its checkpoint. -/
def openSource (w : World ν) (user : User) (threadId : String) (request : Option ThreadCopyRequest)
    (fates : Fates) : Except Response (Thread × Option (Checkpoint ν)) :=
  let loadFailed := fun message =>
    .httpException 500 ("Failed to load source thread state: " ++ message)
  match fates.select.failure .raised with
  | some response => .error response
  | none =>
    match source? w user threadId with
    | none => .error (.httpException 404 ("Thread '" ++ threadId ++ "' not found"))
    | some sourceThread =>
      match (fates.getCheckpointer.failure loadFailed).or (fates.agetTuple.failure loadFailed) with
      | some response => .error response
      | none =>
        match agetTuple w threadId (checkpointId? request), checkpointId? request with
        | some tuple, _ => .ok (sourceThread, some tuple.checkpoint)
        | none, some checkpointId =>
          .error (.httpException 404 ("Checkpoint '" ++ checkpointId ++ "' not found"))
        | none, none => .ok (sourceThread, none)

/-- `final_metadata` -/
def finalMetadata (sourceThread : Thread) (threadId : String)
    (request : Option ThreadCopyRequest) : JsonObject :=
  let metadata := (request.bind ThreadCopyRequest.metadata).getD sourceThread.metadataJson
  let metadata := Json.insertEntry "copied_from" (.str threadId) metadata
  match checkpointId? request with
  | none => metadata
  | some checkpointId => Json.insertEntry "copied_from_checkpoint" (.str checkpointId) metadata

/-- `session.add(new_thread)` and the commit: whether it goes on. -/
def commitThread (w : World ν) (newThread : Thread) (fate : Fate) : World ν × Option Response :=
  match w.db.insertThread newThread with
  | none => (w, some (.raised "IntegrityError"))
  | some db => (if fate.applied then { w with db := db } else w, fate.failure .raised)

/-- The state is put under the id of the new thread, whose row is deleted if this raises. -/
def copyState (w : World ν) (threadId : String) (newThread : Thread) (checkpoint : Checkpoint ν)
    (fates : Fates) : World ν × Response :=
  let w := if fates.aput.applied then
    aput w newThread.threadId checkpoint
      [("copied_from", .str threadId), ("source", .str "copy")] []
  else w
  match fates.aput with
  | .returns => (w, .thread newThread)
  | .cancelled _ => (w, .cancelled)
  | .raises message _ =>
    match fates.delete.failure .raised with
    | some response => (w, response)
    | none =>
      (if fates.deleteCommit.applied then { w with db := w.db.deleteThread newThread.threadId }
        else w,
        (fates.deleteCommit.failure .raised).getD
          (.httpException 500 ("Failed to copy thread state: " ++ message)))

/-- `copy_thread`, with the id that `uuid4` returns. -/
def copyThread (w : World ν) (user : User) (threadId : String)
    (request : Option ThreadCopyRequest) (newThreadId : String) (fates : Fates) :
    World ν × Response :=
  match openSource w user threadId request fates with
  | .error response => (w, response)
  | .ok (sourceThread, sourceState) =>
    let newThread : Thread := ⟨newThreadId, .idle, finalMetadata sourceThread threadId request,
      user.identity, user.orgId⟩
    match commitThread w newThread fates.commit with
    | (w, some response) => (w, response)
    | (w, none) =>
      match sourceState with
      | none => (w, .thread newThread)
      | some checkpoint => copyState w threadId newThread checkpoint fates

/-! ### What is asked -/

/-- There is a row now that was not there. -/
def NewRow (w after : World ν) (threadId : String) : Prop :=
  threadId ∉ w.db.threads.map Thread.threadId ∧ threadId ∈ after.db.threads.map Thread.threadId

/-- The channel values of a checkpoint that may not be there. -/
def values (tuple : Option (CheckpointTuple ν)) : Option (List (String × ν)) :=
  tuple.map (·.checkpoint.channelValues)

/-- The source is as it was; and if there is a new row, then the channel values of its latest
checkpoint are those of the source. -/
structure AllOrNothing (w after : World ν) (threadId : String) (request : Option ThreadCopyRequest)
    (newThreadId : String) : Prop where
  source_row : after.db.thread? threadId = w.db.thread? threadId
  source_checkpoints : after.checkpointsOf threadId = w.checkpointsOf threadId
  copied : NewRow w after newThreadId →
    values (agetTuple after newThreadId none) =
      values (agetTuple w threadId (checkpointId? request))

/-- Every copy is all or nothing, under an id of which the checkpointer knows nothing. -/
def CopiesAllOrNothing : Prop :=
  ∀ (ν : Type) (w : World ν) (user : User) (threadId : String) (request : Option ThreadCopyRequest)
    (newThreadId : String) (fates : Fates), w.checkpointsOf newThreadId = [] →
      AllOrNothing w (copyThread w user threadId request newThreadId fates).1 threadId request
        newThreadId

/-- The row of the new thread comes to be. -/
structure Committed (w : World ν) (user : User) (threadId : String)
    (request : Option ThreadCopyRequest) (newThreadId : String) (fates : Fates) : Prop where
  select : fates.select = .returns
  source : (source? w user threadId).isSome = true
  checkpointer : fates.getCheckpointer = .returns
  read : fates.agetTuple = .returns
  found : (agetTuple w threadId (checkpointId? request)).isSome = true ∨
    checkpointId? request = none
  fresh : newThreadId ∉ w.db.threads.map Thread.threadId
  applied : fates.commit.applied = true

/-- The row of the new thread is deleted, once `aput` has raised. -/
def Fates.Deleted (fates : Fates) : Prop :=
  (∃ message applied, fates.aput = .raises message applied) ∧ fates.delete = .returns ∧
    fates.deleteCommit.applied = true

/-- The row of the new thread does not come to be, or the source has no checkpoint; or the row is
deleted, or a checkpoint without channel values is put. -/
def CopyHolds (w : World ν) (user : User) (threadId : String) (request : Option ThreadCopyRequest)
    (newThreadId : String) (fates : Fates) : Prop :=
  Committed w user threadId request newThreadId fates →
    ∀ tuple, agetTuple w threadId (checkpointId? request) = some tuple →
      fates.commit = .returns ∧
        ((fates.aput.applied = true ∧ tuple.checkpoint.channelValues = []) ∨ fates.Deleted)

/-! ### One statement after the other -/

variable {w : World ν} {user : User} {threadId newThreadId : String}
  {request : Option ThreadCopyRequest} {fates : Fates}

theorem failure_eq_none_iff {fate : Fate} {onRaise : String → Response} :
    fate.failure onRaise = none ↔ fate = .returns := by
  cases fate with
  | returns => exact iff_of_true rfl rfl
  | raises message applied => exact iff_of_false (Option.some_ne_none _) (by rintro ⟨⟩)
  | cancelled applied => exact iff_of_false (Option.some_ne_none _) (by rintro ⟨⟩)

theorem exists_failure {fate : Fate} (h : fate ≠ .returns) (onRaise : String → Response) :
    ∃ response, fate.failure onRaise = some response :=
  Option.ne_none_iff_exists'.mp (mt failure_eq_none_iff.mp h)

/-- **The source is read** if all of it goes well. -/
theorem openSource_eq_ok_iff {sourceThread : Thread} {state : Option (Checkpoint ν)} :
    openSource w user threadId request fates = .ok (sourceThread, state) ↔
      fates.select = .returns ∧ source? w user threadId = some sourceThread ∧
        fates.getCheckpointer = .returns ∧ fates.agetTuple = .returns ∧
        ((agetTuple w threadId (checkpointId? request)).isSome = true ∨
          checkpointId? request = none) ∧
        state = (agetTuple w threadId (checkpointId? request)).map CheckpointTuple.checkpoint := by
  rw [openSource]
  by_cases hselect : fates.select = .returns
  · rw [failure_eq_none_iff.mpr hselect, and_iff_right hselect]
    dsimp only
    cases source? w user threadId with
    | none => exact iff_of_false (by rintro ⟨⟩) fun h => absurd h.1 (Option.some_ne_none _).symm
    | some row =>
      dsimp only
      by_cases hcheckpointer : fates.getCheckpointer = .returns
      · rw [failure_eq_none_iff.mpr hcheckpointer, and_iff_right hcheckpointer, Option.none_or]
        by_cases hread : fates.agetTuple = .returns
        · rw [failure_eq_none_iff.mpr hread, and_iff_right hread]
          dsimp only
          rcases agetTuple w threadId (checkpointId? request) with _ | tuple
          · rcases checkpointId? request with _ | checkpointId
            · constructor
              · intro h
                obtain ⟨rfl, rfl⟩ := Prod.mk.inj (Except.ok.inj h)
                exact ⟨rfl, .inr rfl, rfl⟩
              · rintro ⟨hrow, -, rfl⟩
                rw [Option.some.inj hrow]
                rfl
            · refine iff_of_false (by rintro ⟨⟩) ?_
              rintro ⟨-, hfound | hfound, -⟩
              · cases hfound
              · cases hfound
          · constructor
            · intro h
              obtain ⟨rfl, rfl⟩ := Prod.mk.inj (Except.ok.inj h)
              exact ⟨rfl, .inl rfl, rfl⟩
            · rintro ⟨hrow, -, rfl⟩
              rw [Option.some.inj hrow]
              rfl
        · obtain ⟨response, hresponse⟩ := exists_failure hread _
          rw [hresponse]
          exact iff_of_false (by rintro ⟨⟩) fun h => hread h.2.1
      · obtain ⟨response, hresponse⟩ := exists_failure hcheckpointer _
        rw [hresponse, Option.some_or]
        exact iff_of_false (by rintro ⟨⟩) fun h => hcheckpointer h.2.1
  · obtain ⟨response, hresponse⟩ := exists_failure hselect .raised
    rw [hresponse]
    exact iff_of_false (by rintro ⟨⟩) fun h => hselect h.1

theorem exists_openSource_iff :
    (∃ sourceThread state, openSource w user threadId request fates = .ok (sourceThread, state) ∧
      newThreadId ∉ w.db.threads.map Thread.threadId ∧ fates.commit.applied = true) ↔
      Committed w user threadId request newThreadId fates := by
  constructor
  · rintro ⟨sourceThread, state, hopen, hfresh, happlied⟩
    obtain ⟨hselect, hsource, hcheckpointer, hread, hfound, -⟩ := openSource_eq_ok_iff.mp hopen
    exact ⟨hselect, Option.isSome_iff_exists.mpr ⟨_, hsource⟩, hcheckpointer, hread, hfound, hfresh,
      happlied⟩
  · intro h
    obtain ⟨sourceThread, hsource⟩ := Option.isSome_iff_exists.mp h.source
    exact ⟨sourceThread, _, openSource_eq_ok_iff.mpr
      ⟨h.select, hsource, h.checkpointer, h.read, h.found, rfl⟩, h.fresh, h.applied⟩

theorem insertThread_eq_some {db db' : Database} {thread : Thread}
    (h : db.insertThread thread = some db') :
    thread.threadId ∉ db.threads.map Thread.threadId ∧ db'.threads = db.threads ++ [thread] := by
  rw [Database.insertThread] at h
  split at h
  · cases h
  · rename_i hnew
    obtain rfl := Option.some.inj h
    exact ⟨hnew, rfl⟩

/-- A checkpoint that is put is one of its thread alone. -/
theorem checkpointsOf_aput {other : String} (hne : other ≠ threadId) (checkpoint : Checkpoint ν)
    (metadata : JsonObject) (newVersions : List String) :
    (aput w threadId checkpoint metadata newVersions).checkpointsOf other =
      w.checkpointsOf other := by
  have hnew : decide (threadId = other) = false := decide_eq_false fun h => hne h.symm
  rw [World.checkpointsOf, World.checkpointsOf, aput]
  dsimp only
  rw [List.filter_append, List.filter_filter, List.filter_singleton, hnew, Bool.cond_false,
    List.append_nil]
  refine List.filter_congr fun t _ => ?_
  by_cases hother : t.threadId = other
  · have hthread : t.threadId ≠ threadId := fun h => hne (hother.symm.trans h)
    simp [hother, hne]
  · simp [hother]

/-- **What is stored** is the latest checkpoint then. -/
theorem latest_aput (checkpoint : Checkpoint ν) (metadata : JsonObject)
    (newVersions : List String) :
    values (agetTuple (aput w threadId checkpoint metadata newVersions) threadId none) =
      some (checkpoint.channelValues.filter fun e => e.1 ∈ newVersions) := by
  rw [agetTuple, World.checkpointsOf, aput]
  dsimp only
  rw [List.filter_append, List.filter_singleton, decide_eq_true rfl, Bool.cond_true,
    List.getLast?_concat]
  rfl

/-! ### The row of the copy -/

/-- Before the new row there is no change. -/
theorem copyThread_of_not_committed
    (h : ¬ Committed w user threadId request newThreadId fates) :
    (copyThread w user threadId request newThreadId fates).1 = w := by
  rw [copyThread]
  cases hopen : openSource w user threadId request fates with
  | error response => rfl
  | ok source =>
    obtain ⟨sourceThread, state⟩ := source
    dsimp only
    rw [commitThread]
    cases hinsert : w.db.insertThread ⟨newThreadId, .idle,
        finalMetadata sourceThread threadId request, user.identity, user.orgId⟩ with
    | none => rfl
    | some db =>
      have hfresh := (insertThread_eq_some hinsert).1
      have happlied : ¬ fates.commit.applied = true := fun happlied =>
        h (exists_openSource_iff.mp ⟨sourceThread, state, hopen, hfresh, happlied⟩)
      have hcommit : fates.commit ≠ .returns := by
        intro hcommit
        rw [hcommit] at happlied
        exact happlied rfl
      obtain ⟨response, hresponse⟩ := exists_failure hcommit .raised
      dsimp only
      rw [if_neg happlied, hresponse]

/-- With the new row there, the state is copied if there is one and the commit has returned. -/
theorem copyThread_of_committed (h : Committed w user threadId request newThreadId fates) :
    ∃ db newThread, newThread.threadId = newThreadId ∧ w.db.insertThread newThread = some db ∧
      (fates.commit ≠ .returns ∨ agetTuple w threadId (checkpointId? request) = none →
        (copyThread w user threadId request newThreadId fates).1 = { w with db := db }) ∧
      ∀ tuple, fates.commit = .returns →
        agetTuple w threadId (checkpointId? request) = some tuple →
          copyThread w user threadId request newThreadId fates =
            copyState { w with db := db } threadId newThread tuple.checkpoint fates := by
  obtain ⟨sourceThread, state, hopen, hfresh, happlied⟩ := exists_openSource_iff.mpr h
  obtain ⟨-, -, -, -, -, hstate⟩ := openSource_eq_ok_iff.mp hopen
  have hinsert : ∃ db, w.db.insertThread ⟨newThreadId, .idle,
      finalMetadata sourceThread threadId request, user.identity, user.orgId⟩ = some db :=
    ⟨_, dif_neg hfresh⟩
  obtain ⟨db, hinsert⟩ := hinsert
  refine ⟨db, _, rfl, hinsert, ?_, ?_⟩
  · intro hstop
    rw [copyThread, hopen]
    dsimp only
    rw [commitThread, hinsert]
    dsimp only
    rw [if_pos happlied]
    by_cases hcommit : fates.commit = .returns
    · rw [failure_eq_none_iff.mpr hcommit]
      rw [hstop.resolve_left (not_not_intro hcommit)] at hstate
      rw [hstate]
      rfl
    · obtain ⟨response, hresponse⟩ := exists_failure hcommit .raised
      rw [hresponse]
  · intro tuple hcommit htuple
    rw [htuple] at hstate
    rw [copyThread, hopen]
    dsimp only
    rw [commitThread, hinsert]
    dsimp only
    rw [if_pos happlied, failure_eq_none_iff.mpr hcommit, hstate]
    rfl

section

variable {newThread : Thread} {checkpoint : Checkpoint ν}

/-- What the checkpointer has afterwards does not depend on the row. -/
theorem checkpoints_copyState : (copyState w threadId newThread checkpoint fates).1.checkpoints =
    (if fates.aput.applied then aput w newThread.threadId checkpoint
      [("copied_from", .str threadId), ("source", .str "copy")] [] else w).checkpoints := by
  rw [copyState]
  split
  · rfl
  · rfl
  · split
    · rfl
    · split
      · rfl
      · rfl

theorem db_copyState_of_deleted (h : fates.Deleted) :
    (copyState w threadId newThread checkpoint fates).1.db =
      w.db.deleteThread newThread.threadId := by
  obtain ⟨⟨message, applied, haput⟩, hdelete, hcommit⟩ := h
  rw [copyState, haput]
  dsimp only
  rw [failure_eq_none_iff.mpr hdelete]
  dsimp only
  rw [if_pos hcommit]
  split
  · rfl
  · rfl

theorem db_copyState_of_not_deleted (h : ¬ fates.Deleted) :
    (copyState w threadId newThread checkpoint fates).1.db = w.db := by
  have hdb : (if fates.aput.applied then aput w newThread.threadId checkpoint
      [("copied_from", .str threadId), ("source", .str "copy")] [] else w).db = w.db := by
    split
    · rfl
    · rfl
  rw [copyState]
  split
  · exact hdb
  · exact hdb
  · rename_i message applied haput
    split
    · exact hdb
    · rename_i hdelete
      have hcommit : ¬ fates.deleteCommit.applied = true := fun hcommit =>
        h ⟨⟨message, applied, haput⟩, failure_eq_none_iff.mp hdelete, hcommit⟩
      rw [if_neg hcommit]
      exact hdb

end

/-- A row that is new and then deleted was never there. -/
theorem threads_deleteThread {db db' : Database} {newThread : Thread}
    (h : db.insertThread newThread = some db') :
    (db'.deleteThread newThread.threadId).threads = db.threads := by
  obtain ⟨hfresh, hthreads⟩ := insertThread_eq_some h
  rw [Database.deleteThread]
  dsimp only
  rw [hthreads, List.filter_append, List.filter_singleton,
    decide_eq_false (not_not_intro rfl), Bool.cond_false, List.append_nil]
  refine List.filter_eq_self.mpr fun thread hthread => decide_eq_true ?_
  rintro heq
  exact hfresh (heq ▸ List.mem_map_of_mem hthread)

theorem thread?_insertThread {db db' : Database} {newThread : Thread}
    (h : db.insertThread newThread = some db') (hne : newThread.threadId ≠ threadId) :
    db'.thread? threadId = db.thread? threadId := by
  rw [Database.thread?, (insertThread_eq_some h).2, List.find?_append, List.find?_singleton,
    if_neg (fun heq => hne (of_decide_eq_true heq)), Option.or_none]
  rfl

/-- What is put is empty, and what is not put is not there. -/
theorem latest_copyState (hfresh : w.checkpointsOf newThreadId = []) {newThread : Thread}
    (hid : newThread.threadId = newThreadId) (checkpoint : Checkpoint ν) :
    values (agetTuple (copyState w threadId newThread checkpoint fates).1 newThreadId none) =
      if fates.aput.applied then some [] else none := by
  rw [agetTuple, World.checkpointsOf, checkpoints_copyState, hid]
  by_cases happlied : fates.aput.applied = true
  · rw [if_pos happlied, if_pos happlied]
    refine (latest_aput checkpoint _ []).trans (congrArg some ?_)
    exact List.filter_eq_nil_iff.mpr fun e _ => by simp
  · rw [if_neg happlied, if_neg happlied]
    show values ((w.checkpointsOf newThreadId).getLast?) = none
    rw [hfresh]
    rfl

theorem checkpointsOf_copyState {newThread : Thread} (hne : newThread.threadId ≠ threadId)
    (checkpoint : Checkpoint ν) :
    (copyState w threadId newThread checkpoint fates).1.checkpointsOf threadId =
      w.checkpointsOf threadId := by
  rw [World.checkpointsOf, checkpoints_copyState]
  split
  · exact checkpointsOf_aput (fun h => hne h.symm) _ _ _
  · rfl

theorem mem_threadIds_of_source (h : (source? w user threadId).isSome = true) :
    threadId ∈ w.db.threads.map Thread.threadId := by
  obtain ⟨row, hrow⟩ := Option.isSome_iff_exists.mp h
  have hfind := (Option.filter_eq_some_iff.mp hrow).1
  have hid : row.threadId = threadId := by simpa using List.find?_some hfind
  exact hid ▸ List.mem_map_of_mem (List.mem_of_find?_eq_some hfind)

/-- **The state is put under the new row**: it is that of the source if it is empty. -/
theorem copyState_holds_iff {db : Database} {newThread : Thread} {tuple : CheckpointTuple ν}
    (hfresh : w.checkpointsOf newThreadId = []) (hid : newThread.threadId = newThreadId)
    (hne : newThread.threadId ≠ threadId) (hinsert : w.db.insertThread newThread = some db)
    (htuple : agetTuple w threadId (checkpointId? request) = some tuple) :
    AllOrNothing w (copyState { w with db := db } threadId newThread tuple.checkpoint fates).1
        threadId request newThreadId ↔
      (fates.aput.applied = true ∧ tuple.checkpoint.channelValues = []) ∨ fates.Deleted := by
  have hcheckpoints := @checkpointsOf_copyState ν { w with db := db } threadId fates newThread hne
    tuple.checkpoint
  obtain ⟨hnew, hthreads⟩ := insertThread_eq_some hinsert
  by_cases hdeleted : fates.Deleted
  · have hback := threads_deleteThread hinsert
    have hdb := @db_copyState_of_deleted ν { w with db := db } threadId fates newThread
      tuple.checkpoint hdeleted
    refine iff_of_true ⟨?_, hcheckpoints, fun hrow => ?_⟩ (.inr hdeleted)
    · rw [hdb, Database.thread?, hback]
      rfl
    · rw [NewRow, hdb, hback] at hrow
      exact absurd hrow.2 hrow.1
  · have hdb := @db_copyState_of_not_deleted ν { w with db := db } threadId fates newThread
      tuple.checkpoint hdeleted
    have hrow : NewRow w (copyState { w with db := db } threadId newThread tuple.checkpoint fates).1
        newThreadId := by
      rw [NewRow, hdb, hthreads, List.map_append, ← hid]
      exact ⟨hnew, List.mem_append_right _ (List.mem_singleton_self _)⟩
    have hlatest := @latest_copyState ν { w with db := db } threadId newThreadId fates hfresh
      newThread hid tuple.checkpoint
    rw [or_iff_left hdeleted]
    constructor
    · intro h
      have hcopied := h.copied hrow
      rw [hlatest, htuple] at hcopied
      by_cases happlied : fates.aput.applied = true
      · rw [if_pos happlied] at hcopied
        exact ⟨happlied, (Option.some.inj hcopied).symm⟩
      · rw [if_neg happlied] at hcopied
        cases hcopied
    · rintro ⟨happlied, hempty⟩
      refine ⟨?_, hcheckpoints, fun _ => ?_⟩
      · rw [hdb]
        exact thread?_insertThread hinsert hne
      · rw [hlatest, if_pos happlied, htuple, values, Option.map_some, hempty]

/-- A new row without a state is right only for a source without one. -/
theorem withoutState_holds_iff {db : Database} {newThread : Thread}
    (hfresh : w.checkpointsOf newThreadId = []) (hid : newThread.threadId = newThreadId)
    (hne : newThread.threadId ≠ threadId) (hnew : newThreadId ∉ w.db.threads.map Thread.threadId)
    (hinsert : w.db.insertThread newThread = some db) :
    AllOrNothing w { w with db := db } threadId request newThreadId ↔
      agetTuple w threadId (checkpointId? request) = none := by
  have hrow : newThreadId ∈ db.threads.map Thread.threadId := by
    rw [(insertThread_eq_some hinsert).2, List.map_append, ← hid]
    exact List.mem_append_right _ (List.mem_singleton_self _)
  have hlatest : values (agetTuple { w with db := db } newThreadId none) = none := by
    show values ((w.checkpointsOf newThreadId).getLast?) = none
    rw [hfresh]
    rfl
  constructor
  · intro hall
    have hcopied := hall.copied ⟨hnew, hrow⟩
    rw [hlatest] at hcopied
    exact Option.map_eq_none_iff.mp hcopied.symm
  · intro hnone
    refine ⟨thread?_insertThread hinsert hne, rfl, fun _ => ?_⟩
    rw [hlatest, hnone]
    rfl

/-- **All or nothing**: the state is lost on the way unless the row is never there or deleted, or
there was no state. -/
theorem all_or_nothing_iff (w : World ν) (user : User) (threadId : String)
    (request : Option ThreadCopyRequest) (newThreadId : String) (fates : Fates)
    (hfresh : w.checkpointsOf newThreadId = []) :
    AllOrNothing w (copyThread w user threadId request newThreadId fates).1 threadId request
      newThreadId ↔ CopyHolds w user threadId request newThreadId fates := by
  by_cases h : Committed w user threadId request newThreadId fates
  · obtain ⟨db, newThread, hid, hinsert, hstop, hcopy⟩ := copyThread_of_committed h
    have hne : newThread.threadId ≠ threadId := by
      rw [hid]
      rintro rfl
      exact h.fresh (mem_threadIds_of_source h.source)
    rw [CopyHolds, imp_iff_right h]
    by_cases hgo : fates.commit = .returns ∧
        (agetTuple w threadId (checkpointId? request)).isSome = true
    · obtain ⟨hcommit, hsome⟩ := hgo
      obtain ⟨tuple, htuple⟩ := Option.isSome_iff_exists.mp hsome
      rw [hcopy tuple hcommit htuple, copyState_holds_iff hfresh hid hne hinsert htuple]
      constructor
      · intro hholds tuple' htuple'
        obtain rfl := Option.some.inj (htuple.symm.trans htuple')
        exact ⟨hcommit, hholds⟩
      · intro hholds
        exact (hholds tuple htuple).2
    · have hstop' : fates.commit ≠ .returns ∨
          agetTuple w threadId (checkpointId? request) = none := by
        rw [← Option.not_isSome_iff_eq_none]
        exact not_and_or.mp hgo
      rw [hstop hstop', withoutState_holds_iff hfresh hid hne h.fresh hinsert]
      constructor
      · intro hnone tuple htuple
        rw [hnone] at htuple
        cases htuple
      · intro hholds
        rcases htuple : agetTuple w threadId (checkpointId? request) with _ | tuple
        · rfl
        · rw [htuple] at hstop'
          exact absurd (hholds tuple htuple).1 (hstop'.resolve_right (Option.some_ne_none _))
  · rw [copyThread_of_not_committed h]
    refine iff_of_true ⟨rfl, rfl, fun hnew => absurd hnew.2 hnew.1⟩ ?_
    intro hcommitted
    exact absurd hcommitted h

/-- A thread of Alice with one checkpoint, of one channel. -/
def oneThread : World ℕ where
  db := ⟨[], [⟨"t1", .idle, [], "alice", none⟩], [], List.nodup_singleton _, List.nodup_nil,
    fun _ h => absurd h List.not_mem_nil⟩
  checkpoints := [⟨"t1", ⟨"c1", [("messages", 1)]⟩, []⟩]

def allReturn : Fates := ⟨.returns, .returns, .returns, .returns, .returns, .returns, .returns⟩

theorem all_or_nothing_alice :
    AllOrNothing oneThread (copyThread oneThread ⟨"alice", none⟩ "t1" none "t2" allReturn).1 "t1"
      none "t2" ↔ CopyHolds oneThread ⟨"alice", none⟩ "t1" none "t2" allReturn :=
  all_or_nothing_iff oneThread ⟨"alice", none⟩ "t1" none "t2" allReturn rfl

/-- Nothing fails, and the copy is empty. -/
theorem copy_without_state : ¬ CopiesAllOrNothing := by
  intro h
  have hall := h ℕ oneThread ⟨"alice", none⟩ "t1" none "t2" allReturn rfl
  have hcopied := hall.copied (by
    rw [NewRow]
    decide)
  revert hcopied
  decide

end ThreadCopy

end OpenLangGraph

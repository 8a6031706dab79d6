import OpenLangGraph.Api.ExecuteRun
import OpenLangGraph.Foundation.ProgramReads

/-!
# Whose run it is

The endpoints of `api/runs.py` and `api/runs_standalone.py` that are given the id of a run: reading,
listing, searching, waiting, streaming, updating, cancelling and deleting. An endpoint under
`/threads/{thread_id}/runs` and its standalone twin differ in whether the thread is part of the
query, so they are one definition with a parameter, the thread or `none`.

## Check and use

Every endpoint first looks the run up by its id and its user. What follows goes by the id alone: the
signals to the broker, the updates of the status, the cancellation of the background task, and for
most endpoints the query whose row is returned. Meanwhile the run may have been deleted. It cannot
have become that of another user, because nothing writes `user_id`, and an id is not drawn twice.

## Scope

A request that creates a run is its `INSERT`; whose *thread* it may be is no concern of this file.
The waiting part of `create_run_and_wait` is left out, and so is the deletion of threads, which
takes runs of others along. Timestamps are left out, so which rows are on a page is an input. An
executor writes to its run whatever it likes. If a run is gone when it is to be returned, the
endpoints fail in different ways or return something empty; here they return no row.

## Main definitions

* `RunIds` — `uuid4`, which draws no id twice
* `RunStore`, `RunStatement`, `RunCall.program` — the endpoints as programs

## Main results

* `RunCall.writes_cases` — what an endpoint writes, and what it has checked before
* `reached_own` — nobody is shown the run of another user, or has it cancelled
* `changed_by_owner` — nobody changes or deletes the run of another user
-/

namespace OpenLangGraph

open Runs Transition

/-- `uuid4`: it does not return an id twice, and none that a run already has. -/
structure RunIds (db : Database) where
  id : ℕ → String
  injective : Function.Injective id
  fresh : ∀ n, id n ∉ db.runs.map Run.runId

/-- `DELETE FROM runs WHERE …` -/
def Database.deleteRuns (db : Database) (p : Run → Bool) : Database :=
  { db with
    runs := db.runs.filter fun run => !p run
    runs_unique := db.runs_unique.sublist (List.filter_sublist.map Run.runId)
    runs_thread := fun run hrun => db.runs_thread run (List.mem_of_mem_filter hrun) }

/-- The tables, the number of ids drawn, who has created which run, what has been sent to whom, and
for whom a run was signalled, cancelled or followed. The last three are a record. -/
structure RunStore where
  db : Database
  drawn : ℕ
  created : List (String × String)
  answered : List (String × Run)
  signalled : List (String × String)

/-- Before any request. -/
def RunStore.initial (db : Database) : RunStore where
  db := db
  drawn := 0
  created := db.runs.map fun run => (run.runId, run.userId)
  answered := []
  signalled := []

/-- `ORDER BY created_at DESC LIMIT … OFFSET …` -/
structure RunPage where
  choose : List Run → List Run
  subset : ∀ rows, choose rows ⊆ rows

/-- The fields of a new run. -/
structure RunDraft where
  user : User
  threadId : String
  assistant : Assistant
  status : RunStatus
  input : Option JsonObject
  config : Option JsonObject
  context : Option JsonObject

/-- What an executor writes with `update_run_status`. -/
structure RunUpdate where
  status : RunStatus
  output : Option Json
  error : Option String

/-- The statements. Those of a request have the user whose request it is. -/
inductive RunStatement
  | insertRun (draft : RunDraft)
  | updateByExecutor (runId : String) (update : RunUpdate)
  /-- a signal to the broker, the end of the background task, or a stream of its events -/
  | signal (identity runId : String)
  | setStatus (identity runId : String) (status : RunStatus)
  | deleteRun (identity runId : String) (threadId : Option String)
  /-- the row with this id is read and returned, if there is one -/
  | answer (identity runId : String)
  /-- the same by the query of the check -/
  | answerOwn (identity runId : String) (threadId : Option String)
  | answerAll (identity : String) (threadId assistantId status : Option String) (page : RunPage)

/-- `[RunORM.status == status] if status else []`, and the like -/
def matchesGiven (value : Option String) (column : String) : Bool :=
  (value.filter (· ≠ "")).all (column = ·)

/-- The rows of a listing or a search. -/
def isListed (identity : String) (threadId assistantId status : Option String) (run : Run) : Bool :=
  run.userId = identity && matchesGiven threadId run.threadId &&
    matchesGiven assistantId (run.assistantId.getD "") && matchesGiven status run.status.value

/-- The query by which an endpoint checks a run. -/
def isRunOf (identity runId : String) (threadId : Option String) (run : Run) : Bool :=
  run.runId = runId && threadId.all (run.threadId = ·) && run.userId = identity

namespace RunStatement

variable {db₀ : Database} (ids : RunIds db₀)

/-- The row of a new run. -/
def draftRow (draft : RunDraft) (runId : String) : Run :=
  newRun draft.user draft.threadId draft.assistant draft.status draft.input draft.config
    draft.context runId

def apply : RunStatement → RunStore → Except RequestError RunStore
  | .insertRun draft, s =>
    match s.db.insertRun (draftRow draft (ids.id s.drawn)) with
    | none => .error .integrityError
    | some db =>
      .ok
        { s with
          db
          drawn := s.drawn + 1
          created := s.created ++ [(ids.id s.drawn, draft.user.identity)] }
  | .updateByExecutor runId update, s =>
    .ok { s with db := updateRunStatus s.db runId update.status update.output update.error }
  | .signal identity runId, s => .ok { s with signalled := s.signalled ++ [(identity, runId)] }
  | .setStatus identity runId status, s =>
    .ok
      { s with
        db := updateRunStatus s.db runId status none none
        signalled := s.signalled ++ [(identity, runId)] }
  | .deleteRun identity runId threadId, s =>
    .ok { s with db := s.db.deleteRuns (isRunOf identity runId threadId) }
  | .answer identity runId, s =>
    .ok { s with answered := s.answered ++ ((s.db.run? runId).map (identity, ·)).toList }
  | .answerOwn identity runId threadId, s =>
    .ok
      { s with
        answered := s.answered ++
          ((s.db.runs.find? (isRunOf identity runId threadId)).map (identity, ·)).toList }
  | .answerAll identity threadId assistantId status page, s =>
    .ok
      { s with
        answered := s.answered ++
          (page.choose (s.db.runs.filter (isListed identity threadId assistantId status))).map
            (identity, ·) }

end RunStatement

/-! ### The endpoints -/

/-- A request. `threadId` is `none` for the standalone endpoints. -/
inductive RunCall
  | createRun (draft : RunDraft)
  /-- a background task, with what it comes to write -/
  | execute (runId : String) (updates : List RunUpdate)
  | getRun (user : User) (threadId : Option String) (runId : String)
  | listRuns (user : User) (threadId : String) (status : Option String) (page : RunPage)
  | searchRuns (user : User) (threadId assistantId status : Option String) (page : RunPage)
  /-- `none` for a status that means no action; whether the streaming service's own update works -/
  | updateRun (user : User) (threadId runId : String) (status : Option RunStatus) (shared : Bool)
  | cancelRun (user : User) (threadId : Option String) (runId : String) (status : RunStatus)
      (shared : Bool)
  | deleteRun (user : User) (threadId : Option String) (runId : String) (force shared : Bool)
  /-- `join_run` and `wait_for_run_standalone`; whether the time runs out -/
  | waitForRun (user : User) (threadId : Option String) (runId : String) (timeout : Bool)
  | streamRun (user : User) (threadId : Option String) (runId : String)

namespace RunCall

open Program

/-- The user whose request it is. -/
def sender : RunCall → Option String
  | .createRun draft => some draft.user.identity
  | .execute _ _ => none
  | .getRun user _ _ => some user.identity
  | .listRuns user _ _ _ => some user.identity
  | .searchRuns user _ _ _ _ => some user.identity
  | .updateRun user _ _ _ _ => some user.identity
  | .cancelRun user _ _ _ _ => some user.identity
  | .deleteRun user _ _ _ _ => some user.identity
  | .waitForRun user _ _ _ => some user.identity
  | .streamRun user _ _ => some user.identity

/-- The first query of an endpoint. -/
def lookup (identity runId : String) (threadId : Option String) (s : RunStore) :
    Except RequestError Run :=
  match s.db.runs.find? (isRunOf identity runId threadId) with
  | none => .error (.httpException 404 ("Run '" ++ runId ++ "' not found"))
  | some run => .ok run

/-- `cancel_run` or `interrupt_run` of the streaming service, whose exceptions are swallowed. -/
def share (identity runId : String) (status : RunStatus) (shared : Bool)
    (next : Program RunStore RunStatement RequestError) :
    Program RunStore RunStatement RequestError :=
  .write (.signal identity runId) <|
    if shared then .write (.setStatus identity runId status) next else next

/-- How a cancellation ends: only the standalone endpoint reads by the id alone. -/
def reread (identity runId : String) : Option String → RunStatement
  | none => .answer identity runId
  | some threadId => .answerOwn identity runId (some threadId)

/-- No background task is waited for. The two endpoints differ for an interrupted run. -/
def isSettled (threadId : Option String) (status : RunStatus) : Bool :=
  if threadId.isSome then status.isTerminal else status.isOver

/-- What comes after the cancellation of an active run. -/
def finishDelete (identity runId : String) (threadId : Option String) :
    Program RunStore RunStatement RequestError :=
  .write (.deleteRun identity runId threadId) <|
  .write (.signal identity runId) <|
  .ended (.ok ())

/-- The writes of an executor. -/
def writeUpdates (runId : String) : List RunUpdate → Program RunStore RunStatement RequestError
  | [] => .ended (.ok ())
  | update :: updates => .write (.updateByExecutor runId update) (writeUpdates runId updates)

def program : RunCall → Program RunStore RunStatement RequestError
  | .createRun draft => .write (.insertRun draft) (.ended (.ok ()))
  | .execute runId updates => writeUpdates runId updates
  | .getRun user threadId runId =>
    .read (lookup user.identity runId threadId) fun _ =>
    .write (.answer user.identity runId) <|
    .ended (.ok ())
  | .listRuns user threadId status page =>
    .write (.answerAll user.identity (some threadId) none status page) (.ended (.ok ()))
  | .searchRuns user threadId assistantId status page =>
    .write (.answerAll user.identity threadId assistantId status page) (.ended (.ok ()))
  | .updateRun user threadId runId status shared =>
    .read (lookup user.identity runId (some threadId)) fun _ =>
    match status with
    | none => .write (.answer user.identity runId) (.ended (.ok ()))
    | some status =>
      share user.identity runId status shared <|
      .write (.setStatus user.identity runId status) <|
      .write (.answer user.identity runId) <|
      .ended (.ok ())
  | .cancelRun user threadId runId status shared =>
    .read (lookup user.identity runId threadId) fun _ =>
    share user.identity runId status shared <|
    .write (.setStatus user.identity runId status) <|
    .write (reread user.identity runId threadId) <|
    .ended (.ok ())
  | .deleteRun user threadId runId force shared =>
    .read (lookup user.identity runId threadId) fun run =>
    if run.status.isActive then
      if force then
        share user.identity runId .cancelled shared (finishDelete user.identity runId threadId)
      else .ended (.error (.httpException 409
        "Run is active. Retry with force=1 to cancel and delete."))
    else finishDelete user.identity runId threadId
  | .waitForRun user threadId runId timeout =>
    .read (lookup user.identity runId threadId) fun run =>
    if !isSettled threadId run.status && timeout then
      .write (.signal user.identity runId) <|
      .write (.answer user.identity runId) <|
      .ended (.ok ())
    else .write (.answer user.identity runId) (.ended (.ok ()))
  | .streamRun user threadId runId =>
    .read (lookup user.identity runId threadId) fun run =>
    if run.status.isTerminal then .ended (.ok ())
    else .write (.signal user.identity runId) (.ended (.ok ()))

end RunCall

/-! ### What an endpoint writes -/

/-- A statement about this run, for this user. -/
def RunStatement.IsAbout (identity runId : String) (statement : RunStatement) : Prop :=
  statement = .signal identity runId ∨ (∃ status, statement = .setStatus identity runId status) ∨
    (∃ threadId, statement = .deleteRun identity runId threadId) ∨
    statement = .answer identity runId ∨ ∃ threadId, statement = .answerOwn identity runId threadId

/-- The user had the run, in a state of `S`. -/
def HadRun (S : RunStore → Prop) (identity runId : String) : Prop :=
  ∃ s, S s ∧ ∃ run ∈ s.db.runs, run.runId = runId ∧ run.userId = identity

namespace RunCall

open Program

variable {S : RunStore → Prop} {statement : RunStatement} {identity runId : String}
  {threadId : Option String} {status : RunStatus} {shared : Bool}

theorem isRunOf_eq_true {run : Run} (h : isRunOf identity runId threadId run = true) :
    run.runId = runId ∧ run.userId = identity := by
  simp only [isRunOf, Bool.and_eq_true, decide_eq_true_eq] at h
  exact ⟨h.1.1, h.2⟩

theorem lookup_eq_ok {s : RunStore} {run : Run} (hs : S s)
    (h : lookup identity runId threadId s = .ok run) : HadRun S identity runId := by
  rw [lookup] at h
  split at h
  · cases h
  · rename_i found hfind
    exact ⟨s, hs, found, List.mem_of_find?_eq_some hfind,
      isRunOf_eq_true (List.find?_some hfind)⟩

theorem writes_share {next : Program RunStore RunStatement RequestError}
    (h : Writes S (share identity runId status shared next) statement) :
    statement.IsAbout identity runId ∨ Writes S next statement := by
  rcases writes_write.mp h with rfl | h
  · exact .inl (.inl rfl)
  · split at h
    · rcases writes_write.mp h with rfl | h
      · exact .inl (.inr (.inl ⟨status, rfl⟩))
      · exact .inr h
    · exact .inr h

theorem writes_finishDelete (h : Writes S (finishDelete identity runId threadId) statement) :
    statement.IsAbout identity runId := by
  simp only [finishDelete, writes_write, writes_ended, or_false] at h
  rcases h with rfl | rfl
  · exact .inr (.inr (.inl ⟨threadId, rfl⟩))
  · exact .inl rfl

theorem writes_writeUpdates {updates : List RunUpdate}
    (h : Writes S (writeUpdates runId updates) statement) :
    ∃ update, statement = .updateByExecutor runId update := by
  induction updates with
  | nil => exact absurd h (writes_ended _)
  | cons update updates ih =>
    rcases writes_write.mp h with rfl | h
    · exact ⟨update, rfl⟩
    · exact ih h

theorem reread_isAbout : (reread identity runId threadId).IsAbout identity runId := by
  cases threadId with
  | none => exact .inr (.inr (.inr (.inl rfl)))
  | some threadId => exact .inr (.inr (.inr (.inr ⟨some threadId, rfl⟩)))

theorem answer_isAbout : (RunStatement.answer identity runId).IsAbout identity runId :=
  .inr (.inr (.inr (.inl rfl)))

/-- The checks before a write: a request has looked the run up, unless it creates one or reads all
of its user. -/
def Checked (S : RunStore → Prop) (call : RunCall) (statement : RunStatement) : Prop :=
  (∃ draft, call = .createRun draft ∧ statement = .insertRun draft) ∨
    (∃ runId updates update, call = .execute runId updates ∧
      statement = .updateByExecutor runId update) ∨
    (∃ identity threadId assistantId status page, call.sender = some identity ∧
      statement = .answerAll identity threadId assistantId status page) ∨
    ∃ identity runId, call.sender = some identity ∧ statement.IsAbout identity runId ∧
      HadRun S identity runId

/-- What an endpoint writes, and what it has checked before. -/
theorem writes_cases {call : RunCall} (h : Writes S call.program statement) :
    Checked S call statement := by
  have hwith : ∀ {identity runId : String}, call.sender = some identity →
      statement.IsAbout identity runId → HadRun S identity runId → Checked S call statement :=
    fun hsender habout hhad => .inr (.inr (.inr ⟨_, _, hsender, habout, hhad⟩))
  cases call with
  | createRun draft =>
    simp only [program, writes_write, writes_ended, or_false] at h
    exact .inl ⟨draft, rfl, h⟩
  | execute runId updates =>
    obtain ⟨update, rfl⟩ := writes_writeUpdates h
    exact .inr (.inl ⟨runId, updates, update, rfl, rfl⟩)
  | getRun user threadId runId =>
    simp only [program, writes_read, writes_write, writes_ended, or_false] at h
    obtain ⟨s, run, hs, hrun, rfl⟩ := h
    exact hwith rfl answer_isAbout (lookup_eq_ok hs hrun)
  | listRuns user threadId status page =>
    simp only [program, writes_write, writes_ended, or_false] at h
    exact .inr (.inr (.inl ⟨_, _, _, _, _, rfl, h⟩))
  | searchRuns user threadId assistantId status page =>
    simp only [program, writes_write, writes_ended, or_false] at h
    exact .inr (.inr (.inl ⟨_, _, _, _, _, rfl, h⟩))
  | updateRun user threadId runId status shared =>
    obtain ⟨s, run, hs, hrun, h⟩ := writes_read.mp h
    refine hwith rfl ?_ (lookup_eq_ok hs hrun)
    cases status with
    | none =>
      simp only [writes_write, writes_ended, or_false] at h
      exact h ▸ answer_isAbout
    | some status =>
      rcases writes_share h with habout | h
      · exact habout
      · simp only [writes_write, writes_ended, or_false] at h
        rcases h with rfl | rfl
        · exact .inr (.inl ⟨status, rfl⟩)
        · exact answer_isAbout
  | cancelRun user threadId runId status shared =>
    obtain ⟨s, run, hs, hrun, h⟩ := writes_read.mp h
    refine hwith rfl ?_ (lookup_eq_ok hs hrun)
    rcases writes_share h with habout | h
    · exact habout
    · simp only [writes_write, writes_ended, or_false] at h
      rcases h with rfl | rfl
      · exact .inr (.inl ⟨status, rfl⟩)
      · exact reread_isAbout
  | deleteRun user threadId runId force shared =>
    obtain ⟨s, run, hs, hrun, h⟩ := writes_read.mp h
    refine hwith rfl ?_ (lookup_eq_ok hs hrun)
    split at h
    · split at h
      · exact (writes_share h).elim id writes_finishDelete
      · exact absurd h (writes_ended _)
    · exact writes_finishDelete h
  | waitForRun user threadId runId timeout =>
    obtain ⟨s, run, hs, hrun, h⟩ := writes_read.mp h
    refine hwith rfl ?_ (lookup_eq_ok hs hrun)
    split at h
    · simp only [writes_write, writes_ended, or_false] at h
      rcases h with rfl | rfl
      · exact .inl rfl
      · exact answer_isAbout
    · simp only [writes_write, writes_ended, or_false] at h
      exact h ▸ answer_isAbout
  | streamRun user threadId runId =>
    obtain ⟨s, run, hs, hrun, h⟩ := writes_read.mp h
    refine hwith rfl ?_ (lookup_eq_ok hs hrun)
    split at h
    · exact absurd h (writes_ended _)
    · simp only [writes_write, writes_ended, or_false] at h
      exact .inl h

end RunCall

/-! ### Who has created what -/

/-- Every run is that of its creator, and what was sent or signalled went to the creator. -/
structure RunStore.Owned {db₀ : Database} (ids : RunIds db₀) (s : RunStore) : Prop where
  rows : ∀ run ∈ s.db.runs, (run.runId, run.userId) ∈ s.created
  unique : (s.created.map Prod.fst).Nodup
  drawn : ∀ pair ∈ s.created, pair.1 ∈ db₀.runs.map Run.runId ∨ ∃ n < s.drawn, pair.1 = ids.id n
  answered : ∀ pair ∈ s.answered, pair.2.userId = pair.1
  signalled : ∀ pair ∈ s.signalled, (pair.2, pair.1) ∈ s.created

/-- The record of the creations only grows. -/
def RunStore.Knows (s s' : RunStore) : Prop := s.created ⊆ s'.created

namespace RunStore.Owned

variable {db₀ : Database} {ids : RunIds db₀} {s s' : RunStore} {identity runId : String}

theorem initial : (RunStore.initial db₀).Owned ids where
  rows := fun run hrun => List.mem_map_of_mem hrun
  unique := by
    rw [RunStore.initial, List.map_map]
    exact db₀.runs_unique
  drawn := fun pair hpair => by
    obtain ⟨run, hrun, rfl⟩ := List.mem_map.mp hpair
    exact .inl (List.mem_map_of_mem hrun)
  answered := fun pair hpair => by cases hpair
  signalled := fun pair hpair => by cases hpair

/-- A run has one creator. -/
theorem creator_unique {identity' : String} (hs : s.Owned ids)
    (h : (runId, identity) ∈ s.created) (h' : (runId, identity') ∈ s.created) :
    identity = identity' :=
  congrArg Prod.snd (List.inj_on_of_nodup_map hs.unique h h' rfl)

/-- An id that is yet to be drawn is that of no run. -/
theorem id_not_mem (hs : s.Owned ids) : ids.id s.drawn ∉ s.created.map Prod.fst := by
  intro hmem
  obtain ⟨pair, hpair, hid⟩ := List.mem_map.mp hmem
  rcases hs.drawn pair hpair with hold | ⟨n, hn, hdrawn⟩
  · exact ids.fresh s.drawn (hid ▸ hold)
  · have hsame : n = s.drawn := ids.injective (hdrawn.symm.trans hid)
    omega

/-- Who had a run is its creator. -/
theorem of_hadRun {S : RunStore → Prop} (hS : ∀ y, S y → y.Owned ids ∧ y.Knows s)
    (h : HadRun S identity runId) : (runId, identity) ∈ s.created := by
  obtain ⟨y, hy, run, hrun, rfl, rfl⟩ := h
  exact (hS y hy).2 ((hS y hy).1.rows run hrun)

/-- A write that creates nothing, to rows that have the users they had. -/
theorem of_kept (hs : s.Owned ids) (hcreated : s'.created = s.created) (hdrawn : s'.drawn = s.drawn)
    (hrows : ∀ run ∈ s'.db.runs,
      ∃ row ∈ s.db.runs, row.runId = run.runId ∧ row.userId = run.userId)
    (hanswered : ∀ pair ∈ s'.answered, pair ∈ s.answered ∨ pair.2.userId = pair.1)
    (hsignalled : ∀ pair ∈ s'.signalled, pair ∈ s.signalled ∨ (pair.2, pair.1) ∈ s.created) :
    s'.Owned ids where
  rows := fun run hrun => by
    obtain ⟨row, hrow, hid, huser⟩ := hrows run hrun
    rw [hcreated, ← hid, ← huser]
    exact hs.rows row hrow
  unique := by
    rw [hcreated]
    exact hs.unique
  drawn := by
    rw [hcreated, hdrawn]
    exact hs.drawn
  answered := fun pair hpair => (hanswered pair hpair).elim (hs.answered pair) id
  signalled := fun pair hpair => by
    rw [hcreated]
    exact (hsignalled pair hpair).elim (hs.signalled pair) id

theorem of_insertRun {draft : RunDraft} (hs : s.Owned ids)
    (h : RunStatement.apply ids (.insertRun draft) s = .ok s') : s'.Owned ids := by
  rw [RunStatement.apply] at h
  split at h
  · cases h
  · rename_i db hinsert
    cases h
    obtain ⟨-, hruns, -⟩ := Database.insertRun_eq_some hinsert
    refine
      { rows := fun run hrun => ?_
        unique := ?_
        drawn := fun pair hpair => ?_
        answered := hs.answered
        signalled := fun pair hpair => List.mem_append_left _ (hs.signalled pair hpair) }
    · have hrun : run ∈ db.runs := hrun
      rw [hruns] at hrun
      rcases List.mem_append.mp hrun with hold | hnew
      · exact List.mem_append_left _ (hs.rows run hold)
      · rw [List.mem_singleton.mp hnew]
        exact List.mem_append_right _ (List.mem_singleton_self _)
    · show ((s.created ++ [(ids.id s.drawn, draft.user.identity)]).map Prod.fst).Nodup
      rw [List.map_append, List.map_singleton, List.nodup_append_comm, List.singleton_append]
      exact List.nodup_cons.mpr ⟨hs.id_not_mem, hs.unique⟩
    · rcases List.mem_append.mp hpair with hold | hnew
      · exact (hs.drawn pair hold).imp_right fun ⟨n, hn, hid⟩ =>
          ⟨n, Nat.lt_succ_of_lt hn, hid⟩
      · rw [List.mem_singleton.mp hnew]
        exact .inr ⟨s.drawn, Nat.lt_succ_self _, rfl⟩

/-- `update_run_status` keeps the users of the runs. -/
theorem of_updateRunStatus {db : Database} {status : RunStatus} {output : Option Json}
    {error : Option String} {run : Run}
    (hrun : run ∈ (updateRunStatus db runId status output error).runs) :
    ∃ row ∈ db.runs, row.runId = run.runId ∧ row.userId = run.userId := by
  obtain ⟨row, hrow, rfl⟩ := Database.mem_updateRuns.mp hrun
  refine ⟨row, hrow, ?_⟩
  split <;> exact ⟨rfl, rfl⟩

/-- The row that is read by its id alone is that of the creator. -/
theorem of_run? (hs : s.Owned ids) (hcreated : (runId, identity) ∈ s.created) {run : Run}
    (hrun : s.db.run? runId = some run) : run.userId = identity := by
  have hid : run.runId = runId :=
    of_decide_eq_true (List.find?_some (p := fun run : Run => run.runId = runId) hrun)
  exact hs.creator_unique (hid ▸ hs.rows run (List.mem_of_find?_eq_some hrun)) hcreated

/-- A statement about a run, for its creator. -/
theorem of_isAbout {statement : RunStatement} (hs : s.Owned ids)
    (habout : statement.IsAbout identity runId) (hcreated : (runId, identity) ∈ s.created)
    (h : statement.apply ids s = .ok s') : s'.Owned ids := by
  have hsame : ∀ run ∈ s.db.runs, ∃ row ∈ s.db.runs, row.runId = run.runId ∧
      row.userId = run.userId := fun run hrun => ⟨run, hrun, rfl, rfl⟩
  have hsignal : ∀ pair ∈ s.signalled ++ [(identity, runId)],
      pair ∈ s.signalled ∨ (pair.2, pair.1) ∈ s.created := fun pair hpair =>
    (List.mem_append.mp hpair).imp_right fun hnew => by
      rw [List.mem_singleton.mp hnew]
      exact hcreated
  rcases habout with rfl | ⟨status, rfl⟩ | ⟨threadId, rfl⟩ | rfl | ⟨threadId, rfl⟩
  · cases h
    exact hs.of_kept rfl rfl hsame (fun _ => .inl) hsignal
  · cases h
    exact hs.of_kept rfl rfl (fun run => of_updateRunStatus) (fun _ => .inl) hsignal
  · cases h
    exact hs.of_kept rfl rfl (fun run hrun => hsame run (List.mem_of_mem_filter hrun))
      (fun _ => .inl) fun _ => .inl
  · cases h
    refine hs.of_kept rfl rfl hsame (fun pair hpair => ?_) fun _ => .inl
    refine (List.mem_append.mp hpair).imp_right fun hnew => ?_
    obtain ⟨run, hrun, rfl⟩ := Option.map_eq_some_iff.mp (Option.mem_toList.mp hnew)
    exact hs.of_run? hcreated hrun
  · cases h
    refine hs.of_kept rfl rfl hsame (fun pair hpair => ?_) fun _ => .inl
    refine (List.mem_append.mp hpair).imp_right fun hnew => ?_
    obtain ⟨run, hrun, rfl⟩ := Option.map_eq_some_iff.mp (Option.mem_toList.mp hnew)
    exact (RunCall.isRunOf_eq_true (List.find?_some hrun)).2

/-- **Every checked write keeps the record.** -/
theorem of_checked {S : RunStore → Prop} {call : RunCall} {statement : RunStatement}
    (hS : ∀ y, S y → y.Owned ids ∧ y.Knows s) (hs : s.Owned ids)
    (hchecked : call.Checked S statement) (h : statement.apply ids s = .ok s') :
    s'.Owned ids := by
  rcases hchecked with ⟨draft, -, rfl⟩ | ⟨runId, -, update, -, rfl⟩ |
    ⟨identity, threadId, assistantId, status, page, -, rfl⟩ | ⟨identity, runId, -, habout, hhad⟩
  · exact hs.of_insertRun h
  · cases h
    exact hs.of_kept rfl rfl (fun run => of_updateRunStatus) (fun _ => .inl) fun _ => .inl
  · cases h
    refine hs.of_kept rfl rfl (fun run hrun => ⟨run, hrun, rfl, rfl⟩) (fun pair hpair => ?_)
      fun _ => .inl
    refine (List.mem_append.mp hpair).imp_right fun hnew => ?_
    obtain ⟨run, hrun, rfl⟩ := List.mem_map.mp hnew
    have hlisted := (List.mem_filter.mp (page.subset _ hrun)).2
    simp only [isListed, Bool.and_eq_true, decide_eq_true_eq] at hlisted
    exact hlisted.1.1.1
  · exact hs.of_isAbout habout (of_hadRun hS hhad) h

end RunStore.Owned

/-- The record only grows. -/
theorem RunStatement.knows_apply {db₀ : Database} {ids : RunIds db₀} {statement : RunStatement}
    {s s' : RunStore} (h : statement.apply ids s = .ok s') : s.Knows s' := by
  have hsame : s'.created = s.created → s.Knows s' := fun hcreated pair hpair => by
    rwa [hcreated]
  cases statement with
  | insertRun draft =>
    rw [RunStatement.apply] at h
    split at h
    · cases h
    · cases h
      exact List.subset_append_left _ _
  | updateByExecutor runId update => exact hsame (by cases h; rfl)
  | signal identity runId => exact hsame (by cases h; rfl)
  | setStatus identity runId status => exact hsame (by cases h; rfl)
  | deleteRun identity runId threadId => exact hsame (by cases h; rfl)
  | answer identity runId => exact hsame (by cases h; rfl)
  | answerOwn identity runId threadId => exact hsame (by cases h; rfl)
  | answerAll identity threadId assistantId status page => exact hsame (by cases h; rfl)

/-! ### Runs of the system -/

namespace RunStore

open Interleaving

variable {db₀ : Database} {ids : RunIds db₀}
  {t t' : Interleaving RunStore RunStatement RequestError}
  {labels : List (InterleavingLabel RunCall RequestError)}
  {label : InterleavingLabel RunCall RequestError}

/-- Requests and executors that run at the same time. -/
abbrev step (ids : RunIds db₀) :
    Interleaving RunStore RunStatement RequestError → InterleavingLabel RunCall RequestError →
      Option (Interleaving RunStore RunStatement RequestError) :=
  Interleaving.step RunCall.program (RunStatement.apply ids)

/-- Every run keeps the record, and so it was in the states that were read. -/
theorem owned_exec (h : exec (step ids) ⟨initial db₀, []⟩ labels = some t) :
    t.state.Owned ids ∧
      ∀ y, Seen RunCall.program (RunStatement.apply ids) ⟨initial db₀, []⟩ labels y →
        y.Owned ids ∧ y.Knows t.state :=
  invariant_of_writes (fun _ => List.Subset.refl _) (fun _ _ _ => List.Subset.trans)
    (fun _ _ _ => RunStatement.knows_apply)
    (fun _ _ _ _ _ hS hs hwrites happly => hs.of_checked hS (RunCall.writes_cases hwrites) happly)
    rfl Owned.initial h

/-- **Nobody is shown the run of another user, or has it cancelled**: in every interleaving of the
endpoints with the executors, whatever is deleted between the check and the use. -/
theorem reached_own (h : exec (step ids) ⟨initial db₀, []⟩ labels = some t) :
    (∀ identity run, (identity, run) ∈ t.state.answered → run.userId = identity) ∧
      ∀ identity runId, (identity, runId) ∈ t.state.signalled →
        (runId, identity) ∈ t.state.created :=
  ⟨fun identity run => (owned_exec h).1.answered (identity, run),
    fun identity runId => (owned_exec h).1.signalled (identity, runId)⟩

/-- One thread, of Ada. -/
def adaThread : Database where
  assistants := []
  threads := [⟨"t1", .idle, [], "ada", none⟩]
  runs := []
  threads_unique := List.nodup_singleton _
  runs_unique := List.nodup_nil
  runs_thread := fun _ h => by cases h

/-- Ids that get longer. -/
def longerIds : RunIds adaThread where
  id n := String.ofList (List.replicate n 'r')
  injective := fun m n h => by
    simpa using congrArg List.length (String.ofList_injective h)
  fresh := fun _ => List.not_mem_nil

def adaUser : User := ⟨"ada", none⟩

/-- Ada creates a run and cancels it. -/
def runCancelled : List (InterleavingLabel RunCall RequestError) :=
  [.start (.createRun ⟨adaUser, "t1", ⟨"a1", "agent"⟩, .pending, none, none, none⟩), .step 0,
    .start (.cancelRun adaUser (some "t1") (longerIds.id 0) .cancelled false), .step 1, .step 1,
    .step 1, .step 1]

theorem reached_own_ada :
    (∀ identity run, (identity, run) ∈ ((exec (step longerIds) ⟨initial adaThread, []⟩
        runCancelled).get (by decide)).state.answered → run.userId = identity) ∧
      ∀ identity runId, (identity, runId) ∈ ((exec (step longerIds) ⟨initial adaThread, []⟩
        runCancelled).get (by decide)).state.signalled →
          (runId, identity) ∈ ((exec (step longerIds) ⟨initial adaThread, []⟩
            runCancelled).get (by decide)).state.created :=
  reached_own (Option.some_get _).symm

/-- A status is written to the row with the id. -/
theorem mem_updateRunStatus {db : Database} {runId : String} {status : RunStatus}
    {output : Option Json} {error : Option String} {run : Run} (hrun : run ∈ db.runs)
    (hchanged : run ∉ (updateRunStatus db runId status output error).runs) : run.runId = runId := by
  by_contra hother
  exact hchanged (Database.mem_updateRuns.mpr ⟨run, hrun, if_neg hother⟩)

/-- A statement about a run of its user changes no other user's run. -/
theorem userId_of_isAbout {s s' : RunStore} {identity runId : String} {statement : RunStatement}
    (hs : s.Owned ids) (habout : statement.IsAbout identity runId)
    (hcreated : (runId, identity) ∈ s.created) (h : statement.apply ids s = .ok s') {run : Run}
    (hrun : run ∈ s.db.runs) (hchanged : run ∉ s'.db.runs) : run.userId = identity := by
  rcases habout with rfl | ⟨status, rfl⟩ | ⟨threadId, rfl⟩ | rfl | ⟨threadId, rfl⟩
  · cases h
    exact absurd hrun hchanged
  · cases h
    have hid := mem_updateRunStatus hrun hchanged
    exact hs.creator_unique (hid ▸ hs.rows run hrun) hcreated
  · cases h
    by_contra hother
    refine hchanged (List.mem_filter.mpr ⟨hrun, ?_⟩)
    rw [Bool.not_eq_true', Bool.eq_false_iff]
    exact fun hof => hother (RunCall.isRunOf_eq_true hof).2
  · cases h
    exact absurd hrun hchanged
  · cases h
    exact absurd hrun hchanged

/-- **Nobody changes or deletes the run of another user**: a row changes or goes only by a statement
of its user, or of the executor of the run. -/
theorem changed_by_owner (h : exec (step ids) ⟨initial db₀, []⟩ labels = some t)
    (hstep : step ids t label = some t') {run : Run} (hrun : run ∈ t.state.db.runs)
    (hchanged : run ∉ t'.state.db.runs) :
    ∃ i call, label = .step i ∧ (started labels)[i]? = some call ∧
      (call.sender = some run.userId ∨ ∃ updates, call = .execute run.runId updates) := by
  obtain ⟨hs, hseen⟩ := owned_exec h
  rcases step_state_of_pending hstep with hsame | ⟨i, p, statement, rfl, hp, hpending, happly⟩
  · rw [hsame] at hchanged
    exact absurd hrun hchanged
  · obtain ⟨call, hcall, hwrites⟩ := writes_of_pending rfl h hp hpending
    refine ⟨i, call, rfl, hcall, ?_⟩
    rcases RunCall.writes_cases hwrites with ⟨draft, -, rfl⟩ | ⟨runId, updates, update, rfl, rfl⟩ |
      ⟨identity, threadId, assistantId, status, page, -, rfl⟩ |
      ⟨identity, runId, hsender, habout, hhad⟩
    · rw [RunStatement.apply] at happly
      split at happly
      · cases happly
      · rename_i db hinsert
        have hdb : t'.state.db = db := congrArg RunStore.db (Except.ok.inj happly).symm
        refine absurd ?_ hchanged
        rw [hdb, (Database.insertRun_eq_some hinsert).2.1]
        exact List.mem_append_left _ hrun
    · have hdb := congrArg RunStore.db (Except.ok.inj happly)
      rw [← hdb] at hchanged
      exact .inr ⟨updates, by rw [mem_updateRunStatus hrun hchanged]⟩
    · have hdb := congrArg RunStore.db (Except.ok.inj happly)
      rw [← hdb] at hchanged
      exact absurd hrun hchanged
    · have howner := userId_of_isAbout hs habout (Owned.of_hadRun hseen hhad) happly hrun hchanged
      exact .inl (hsender.trans (congrArg some howner.symm))

/-- The row of Ada's run. -/
def adaRun : Run := newRun adaUser "t1" ⟨"a1", "agent"⟩ .pending none none none (longerIds.id 0)

theorem changed_by_owner_ada :
    ∃ i call, (.step 1 : InterleavingLabel RunCall RequestError) = .step i ∧
      (started (runCancelled.take 5))[i]? = some call ∧
      (call.sender = some "ada" ∨ ∃ updates, call = .execute (longerIds.id 0) updates) := by
  have hbefore : (exec (step longerIds) ⟨initial adaThread, []⟩
      (runCancelled.take 5)).isSome = true := by decide
  have hafter : (step longerIds ((exec (step longerIds) ⟨initial adaThread, []⟩
      (runCancelled.take 5)).get hbefore) (.step 1)).isSome = true := rfl
  refine changed_by_owner (Option.some_get hbefore).symm (Option.some_get hafter).symm
    (List.mem_singleton_self adaRun) fun hmem => ?_
  have hstatus : RunStatus.pending = .cancelled :=
    congrArg Run.status (List.mem_singleton.mp hmem : adaRun = { adaRun with status := .cancelled })
  cases hstatus

end RunStore

end OpenLangGraph

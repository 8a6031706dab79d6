import Mathlib.Data.List.Induction
import OpenLangGraph.Api.FailedCreation

/-!
# A batch whose items fail

`create_batch_runs` over one session. The items are created one after the other. What an item
raises is caught and becomes its result; the session is not rolled back, so a statement that fails
in one item can leave a session that no later item can use.

## Main definitions

* `itemProgram` — one item
* `createBatchRuns` — the loop
* `BatchIsolated`

## Main results

* `run_itemProgram` — without a failure an item does what `Runs` says
* `createBatchRuns_eq` — one result for each item, in the order of the items
* `batch_isolated_iff` — when the items do not affect each other
-/

namespace OpenLangGraph

open UnitOfWork

namespace Runs

/-! ### One item -/

/-- An item, with the id that is drawn for its run and the statement of it that fails. -/
structure BatchEntry where
  item : RunBatchItem
  runId : String
  fault : Option (Fault CreationPoint)

/-- The thread of an item, if the user may access it. -/
def checkAccess (user : User) (threadId : String) (db : Database) : Except RequestError Thread :=
  match (db.thread? threadId).filter (buildThreadAccessFilter user.identity user.orgId) with
  | none => .error (.httpException 404 ("Thread '" ++ threadId ++ "' not found"))
  | some thread => .ok thread

/-- One turn of the loop, up to its result. -/
def itemProgram (registry : Registry) (user : User) (item : RunBatchItem) (runId : String) :
    CreationProgram :=
  .query .checking fun db => checked (checkAccess user item.threadId db) fun _ =>
  resolving registry item.assistantId fun assistant =>
    let run := newRun user item.threadId assistant .pending item.input item.config none runId
    addRun run <|
    markBusy item.threadId assistant <|
    .start (newTask item.threadId runId) <|
    .done run

/-- What an item does to a session. -/
def BatchEntry.perform (registry : Registry) (user : User) (s : Session Database)
    (entry : BatchEntry) : Effects Database Task RequestError Run :=
  (itemProgram registry user entry.item entry.runId).run entry.fault s

/-! ### The loop -/

/-- `RunBatchResultItem`, with the run or what was raised. -/
structure RunBatchResultItem where
  index : ℕ
  result : Except (Raised RequestError) Run

/-- The variables of the loop, and what it has done. -/
structure BatchState where
  session : Session Database
  started : List Task
  results : List RunBatchResultItem
  succeeded : ℕ
  failed : ℕ

def batchStep (registry : Registry) (user : User) (s : BatchState) (entry : BatchEntry × ℕ) :
    BatchState :=
  let effects := entry.1.perform registry user s.session
  { session := effects.session
    started := s.started ++ effects.started
    results := s.results ++ [⟨entry.2, effects.result⟩]
    succeeded := if effects.result.isOk then s.succeeded + 1 else s.succeeded
    failed := if effects.result.isOk then s.failed else s.failed + 1 }

/-- `create_batch_runs` -/
def createBatchRuns (registry : Registry) (user : User) (db : Database)
    (entries : List BatchEntry) : BatchState :=
  entries.zipIdx.foldl (batchStep registry user) ⟨.open db, [], [], 0, 0⟩

/-- The session after some items. -/
def sessionAfter (registry : Registry) (user : User) (s : Session Database)
    (entries : List BatchEntry) : Session Database :=
  entries.foldl (fun s entry => (entry.perform registry user s).session) s

/-- What some items come to. -/
def outcomes (registry : Registry) (user : User) :
    Session Database → List BatchEntry → List (Except (Raised RequestError) Run)
  | _, [] => []
  | s, entry :: entries =>
    (entry.perform registry user s).result ::
      outcomes registry user (entry.perform registry user s).session entries

/-! ### What is asked of a batch -/

/-- An item that fails leaves no run, starts no task and changes no thread, and what the items after
it come to is what they come to without it. -/
def FailureIsolated (registry : Registry) (user : User) (s : Session Database)
    (entry : BatchEntry) (later : List BatchEntry) : Prop :=
  let effects := entry.perform registry user s
  ∀ e, effects.result = .error e →
    effects.session.committed.runs = s.committed.runs ∧ effects.started = [] ∧
      effects.session.committed.threads = s.committed.threads ∧
      outcomes registry user effects.session later = outcomes registry user s later

/-- **Isolation**: one result for each item, in the order of the items, the numbers add up, and the
items do not affect each other by failing. -/
structure BatchIsolated (registry : Registry) (user : User) (db : Database)
    (entries : List BatchEntry) : Prop where
  indices : (createBatchRuns registry user db entries).results.map RunBatchResultItem.index =
    List.range entries.length
  results : (createBatchRuns registry user db entries).results.map RunBatchResultItem.result =
    outcomes registry user (.open db) entries
  total : (createBatchRuns registry user db entries).succeeded +
    (createBatchRuns registry user db entries).failed = entries.length
  isolated : ∀ before entry later, entries = before ++ entry :: later →
    FailureIsolated registry user (sessionAfter registry user (.open db) before) entry later

/-! ### The loop does what it should -/

variable {registry : Registry} {user : User} {db : Database} {entry : BatchEntry}
  {entries : List BatchEntry} {s : Session Database}

theorem foldl_batchStep (registry : Registry) (user : User) (entries : List BatchEntry)
    (s : BatchState) (n : ℕ) :
    let s' := (entries.zipIdx n).foldl (batchStep registry user) s
    s'.results.map RunBatchResultItem.index =
        s.results.map RunBatchResultItem.index ++ List.range' n entries.length ∧
      s'.results.map RunBatchResultItem.result =
        s.results.map RunBatchResultItem.result ++ outcomes registry user s.session entries ∧
      s'.succeeded + s'.failed = s.succeeded + s.failed + entries.length := by
  induction entries generalizing s n with
  | nil => simp [outcomes]
  | cons entry entries ih =>
    obtain ⟨hindex, hresult, htotal⟩ := ih (batchStep registry user s (entry, n)) (n + 1)
    intro s'
    refine ⟨hindex.trans ?_, hresult.trans ?_, htotal.trans ?_⟩
    · simp [batchStep, List.range'_succ]
    · simp [batchStep, outcomes]
    · simp only [batchStep, List.length_cons]
      split <;> omega

/-- **One result for each item**, in the order of the items, and the numbers add up. -/
theorem createBatchRuns_eq (registry : Registry) (user : User) (db : Database)
    (entries : List BatchEntry) :
    let s := createBatchRuns registry user db entries
    s.results.map RunBatchResultItem.index = List.range entries.length ∧
      s.results.map RunBatchResultItem.result = outcomes registry user (.open db) entries ∧
      s.succeeded + s.failed = entries.length := by
  obtain ⟨hindex, hresult, htotal⟩ :=
    foldl_batchStep registry user entries ⟨.open db, [], [], 0, 0⟩ 0
  refine ⟨hindex.trans ?_, hresult, htotal.trans (by simp)⟩
  rw [List.range_eq_range']
  rfl

/-! ### What an item can do -/

/-- The statements of an item that no check rejects, after the checks. -/
def batchPoints : List CreationPoint :=
  [.insertingRun, .committingRun, .settingBusy, .committingBusy, .readingThread, .writingMetadata,
    .committingMetadata]

/-- The statement at which an item fails. -/
def BatchEntry.failsAt (registry : Registry) (user : User) (db : Database) (entry : BatchEntry) :
    Option CreationPoint :=
  if entry.fault.any (·.point = .checking) then some .checking
  else
    match checkAccess user entry.item.threadId db with
    | .error _ => none
    | .ok _ =>
      if entry.fault.any (·.point = .resolving) then some .resolving
      else
        match findAssistant registry db entry.item.assistantId with
        | .error _ => none
        | .ok _ => firstFailure db entry.runId entry.fault batchPoints

/-- What an item can do to a session that can be used, by the statement at which it fails. -/
inductive ItemMoves (db : Database) (entry : BatchEntry) :
    Option CreationPoint → Effects Database Task RequestError Run → Prop
  | succeeded {db' : Database} {started : List Task} {run : Run} :
      ItemMoves db entry none ⟨.open db', started, .ok run⟩
  | rejected (e : RequestError) : ItemMoves db entry none ⟨.open db, [], .error (.raised e)⟩
  | notChecked {f : Fault CreationPoint} {point : CreationPoint} (hfault : entry.fault = some f)
      (hpoint : point = .checking ∨ point = .resolving) :
      ItemMoves db entry (some point) ⟨(Session.open db).afterFailure f, [], .error .failed⟩
  | notAdded {point : CreationPoint} {effects : Effects Database Task RequestError Run}
      (hpoint : point.adds = true)
      (herror : effects.result = .error .failed ∨ effects.result = .error .refused)
      (hstarted : effects.started = []) (husable : effects.session.usable = false)
      (hcommitted : effects.session.committed = db ∧
          point.runWritten (entry.fault.any (·.durable)) = false ∨
        effects.session.committed.runs ≠ db.runs ∧
          point.runWritten (entry.fault.any (·.durable)) = true) :
      ItemMoves db entry (some point) effects
  | notMarked {point : CreationPoint} {effects : Effects Database Task RequestError Run}
      (hpoint : point.marks = true)
      (herror : effects.result = .error .failed ∨ effects.result = .error .refused)
      (husable : effects.session.usable = true → effects.session = .open effects.session.committed)
      (hruns : effects.session.committed.runs ≠ db.runs) :
      ItemMoves db entry (some point) effects

theorem any_of_isAt {point : CreationPoint} {fault : Option (Fault CreationPoint)}
    {f : Fault CreationPoint} (h : Fault.isAt fault point = some f) :
    fault = some f ∧ fault.any (·.point = point) = true := by
  obtain ⟨hfault, hpoint⟩ := Option.filter_eq_some_iff.mp h
  refine ⟨hfault, ?_⟩
  rw [hfault]
  exact hpoint

theorem any_of_isAt_none {point : CreationPoint} {fault : Option (Fault CreationPoint)}
    (h : Fault.isAt fault point = none) : fault.any (·.point = point) = false := by
  cases fault with
  | none => rfl
  | some f =>
    have hne : ¬ f.point = point := by
      intro hpoint
      simp [hpoint] at h
    simp [hne]

theorem runs_insertRun_ne {db' : Database} {run : Run} (h : db.insertRun run = some db') :
    db'.runs ≠ db.runs := by
  intro hruns
  have hlength := congrArg List.length ((Database.insertRun_eq_some h).2.1.symm.trans hruns)
  simp at hlength

theorem thread?_insertRun {db' : Database} {run : Run} (h : db.insertRun run = some db')
    (threadId : String) : db'.thread? threadId = db.thread? threadId := by
  rw [Database.thread?, (Database.insertRun_eq_some h).2.2.1]
  rfl

theorem firstFailure_batch_of_taken {runId : String} (fault : Option (Fault CreationPoint))
    (htaken : runId ∈ db.runs.map Run.runId) :
    firstFailure db runId fault batchPoints = some .insertingRun := by
  simp [firstFailure, batchPoints, htaken]

theorem firstFailure_batch {runId : String} {f : Fault CreationPoint}
    (hpoint : f.point.adds = true ∨ f.point.marks = true)
    (hfresh : runId ∉ db.runs.map Run.runId) :
    firstFailure db runId (some f) batchPoints = some f.point := by
  obtain ⟨point, durable, usable⟩ := f
  cases point <;> simp [CreationPoint.adds, CreationPoint.marks] at hpoint <;>
    simp [firstFailure, batchPoints, hfresh]

theorem firstFailure_batch_eq_none {runId : String} {fault : Option (Fault CreationPoint)}
    (hadds : fault.all (!·.point.adds) = true) (hmarks : fault.all (!·.point.marks) = true)
    (hfresh : runId ∉ db.runs.map Run.runId) :
    firstFailure db runId fault batchPoints = none := by
  cases fault with
  | none => simp [firstFailure, batchPoints, hfresh]
  | some f =>
    obtain ⟨point, durable, usable⟩ := f
    cases point <;> simp [CreationPoint.adds] at hadds <;> simp [CreationPoint.marks] at hmarks <;>
      simp [firstFailure, batchPoints, hfresh]

/-- Every write of `markBusy` is committed before the next statement. -/
theorem session_markBusy_fails {threadId : String} {thread : Thread} {f : Fault CreationPoint}
    (next : CreationProgram) (assistant : Assistant) (hthread : db.thread? threadId = some thread)
    (hfault : f.point.marks = true) :
    let s := ((markBusy threadId assistant next).run (some f) (.open db)).session
    s.usable = true → s = .open s.committed := by
  obtain ⟨point, durable, usable⟩ := f
  cases point <;> simp [CreationPoint.marks] at hfault <;> cases usable <;>
    simp [markBusy, UnitOfWork.Program.run, findThread_busy hthread, checked, Session.afterFailure,
      Session.open]

/-- The writes of an item. -/
theorem itemMoves_writes {thread : Thread} {assistant : Assistant} {run : Run}
    {task : Task} (hthread : db.thread? run.threadId = some thread)
    (hid : run.runId = entry.runId) :
    ItemMoves db entry (firstFailure db entry.runId entry.fault batchPoints)
      ((addRun run <| markBusy run.threadId assistant <| .start task <| .done run).run entry.fault
        (.open db)) := by
  rw [← hid]
  by_cases htaken : run.runId ∈ db.runs.map Run.runId
  · have hinsert : db.insertRun run = none := by
      rw [Option.eq_none_iff_forall_ne_some]
      intro db' hdb'
      exact (Database.insertRun_eq_some hdb').1 htaken
    obtain ⟨herror, hstarted, husable, hcommitted⟩ :=
      run_addRun_refused entry.fault (markBusy run.threadId assistant <| .start task <|
        .done run) hinsert
    rw [firstFailure_batch_of_taken entry.fault htaken]
    exact .notAdded rfl herror hstarted husable (.inl ⟨hcommitted, rfl⟩)
  · obtain ⟨db', hinsert, -⟩ := Database.insertRun_of_fresh htaken (mem_of_thread? hthread)
    have hthread' := (thread?_insertRun hinsert run.threadId).trans hthread
    have hruns := runs_insertRun_ne hinsert
    by_cases hadds : entry.fault.all (!·.point.adds) = true
    · rw [run_addRun hinsert hadds]
      by_cases hmarks : entry.fault.all (!·.point.marks) = true
      · rw [run_markBusy hthread' hmarks, firstFailure_batch_eq_none hadds hmarks htaken]
        exact .succeeded
      · obtain ⟨f, hf, hmarks'⟩ := eq_some_of_not_all hmarks
        obtain ⟨herror, -, hcommitted⟩ :=
          run_markBusy_fails (.start task <| .done run) assistant hthread' hmarks'
        rw [hf, firstFailure_batch (.inr hmarks') htaken]
        refine .notMarked hmarks' (.inl herror)
          (session_markBusy_fails (.start task <| .done run) assistant hthread' hmarks') ?_
        rw [hcommitted]
        split
        · exact hruns
        · split <;> exact hruns
    · obtain ⟨f, hf, hadds'⟩ := eq_some_of_not_all hadds
      obtain ⟨herror, hstarted, husable, hcommitted⟩ :=
        run_addRun_fails (markBusy run.threadId assistant <| .start task <| .done run) hinsert
          hadds'
      rw [hf, firstFailure_batch (.inl hadds') htaken]
      refine .notAdded hadds' (.inl herror) hstarted husable ?_
      rw [hf, hcommitted, Option.any_some]
      cases f.point.runWritten f.durable with
      | true => exact .inr ⟨hruns, rfl⟩
      | false => exact .inl ⟨rfl, rfl⟩

theorem thread?_of_checkAccess {threadId : String} {thread : Thread}
    (h : checkAccess user threadId db = .ok thread) : db.thread? threadId = some thread := by
  rw [checkAccess] at h
  split at h
  · cases h
  · rename_i thread' hfilter
    obtain rfl := Except.ok.inj h
    exact (Option.filter_eq_some_iff.mp hfilter).1

/-! ### Without a failure -/

theorem agrees_itemWrites {thread : Thread} {run : Run} (assistant : Assistant) (task : Task)
    (hthread : db.thread? run.threadId = some thread) :
    Agrees
      ((addRun run <| markBusy run.threadId assistant <| .start task <| .done run).run none
        (.open db))
      (match db.insertRun run with
        | none => (db, .error .integrityError)
        | some db =>
          match updateThreadMetadata (setThreadStatus db run.threadId .busy) run.threadId
            assistant with
          | .error e => (setThreadStatus db run.threadId .busy, .error e)
          | .ok db => (db, .ok run)) task := by
  cases hinsert : db.insertRun run with
  | none =>
    constructor <;>
      simp [addRun, UnitOfWork.Program.run, hinsert, Except.mapError, toRaised, Except.isOk,
        Except.toBool]
  | some db' =>
    have hthread' := (thread?_insertRun hinsert run.threadId).trans hthread
    have hmarked : updateThreadMetadata (setThreadStatus db' run.threadId .busy) run.threadId
        assistant = .ok (marked db' run.threadId assistant thread.metadataJson) := by
      rw [updateThreadMetadata, thread?_setThreadStatus, if_pos rfl, hthread']
      rfl
    rw [run_addRun hinsert rfl, run_markBusy hthread' rfl]
    dsimp only
    rw [hmarked]
    exact ⟨rfl, rfl, rfl⟩

/-- **Without a failure** an item does what it does when it is alone. -/
theorem run_itemProgram (registry : Registry) (user : User) (db : Database) (item : RunBatchItem)
    (runId : String) :
    Agrees (BatchEntry.perform registry user (.open db) ⟨item, runId, none⟩)
      (createBatchItem registry db user item runId) (newTask item.threadId runId) := by
  rw [BatchEntry.perform, itemProgram, createBatchItem]
  cases hfilter : (db.thread? item.threadId).filter
      (buildThreadAccessFilter user.identity user.orgId) with
  | none =>
    constructor <;>
      simp [UnitOfWork.Program.run, checkAccess, hfilter, checked, Except.mapError, toRaised,
        Except.isOk, Except.toBool]
  | some thread =>
    have hthread := (Option.filter_eq_some_iff.mp hfilter).1
    cases hassistant : findAssistant registry db item.assistantId with
    | error e =>
      have he := toRaised_findAssistant hassistant
      constructor <;>
        simp [resolving, UnitOfWork.Program.run, checkAccess, hfilter, hassistant, checked,
          Except.mapError, he, Except.isOk, Except.toBool]
    | ok assistant =>
      simp only [resolving, UnitOfWork.Program.run, Session.usable_open, if_true, Fault.isAt_none,
        Session.working_open, checkAccess, hfilter, hassistant, checked]
      exact agrees_itemWrites assistant (newTask item.threadId runId) hthread

/-- **What an item can do.** -/
theorem itemMoves_perform (registry : Registry) (user : User) (db : Database)
    (entry : BatchEntry) :
    ItemMoves db entry (entry.failsAt registry user db)
      (entry.perform registry user (.open db)) := by
  rw [BatchEntry.perform, itemProgram, BatchEntry.failsAt]
  rcases run_checked .checking (checkAccess user entry.item.threadId) _ entry.fault db with
    ⟨thread, haccess, hfault, heffects⟩ | ⟨e, haccess, hfault, heffects⟩ | ⟨f, hfault, heffects⟩
  · rw [heffects, any_of_isAt_none hfault, if_neg Bool.false_ne_true, haccess]
    dsimp only
    rcases run_checked .resolving (findAssistant registry · entry.item.assistantId) _ entry.fault
      db with ⟨assistant, hassistant, hfault, heffects⟩ | ⟨e, hassistant, hfault, heffects⟩ |
        ⟨f, hfault, heffects⟩
    · rw [resolving, heffects, any_of_isAt_none hfault, if_neg Bool.false_ne_true, hassistant]
      exact itemMoves_writes (thread?_of_checkAccess haccess) rfl
    · rw [resolving, heffects, any_of_isAt_none hfault, if_neg Bool.false_ne_true, hassistant]
      exact .rejected e
    · obtain ⟨hsome, hany⟩ := any_of_isAt hfault
      rw [resolving, heffects, if_pos hany]
      exact .notChecked hsome (.inr rfl)
  · rw [heffects, any_of_isAt_none hfault, if_neg Bool.false_ne_true, haccess]
    exact .rejected e
  · obtain ⟨hsome, hany⟩ := any_of_isAt hfault
    rw [heffects, if_pos hany]
    exact .notChecked hsome (.inl rfl)

theorem ItemMoves.result_ne {failsAt : Option CreationPoint}
    {effects : Effects Database Task RequestError Run} (h : ItemMoves db entry failsAt effects) :
    effects.result ≠ .error .unusable := by
  intro hresult
  cases h with
  | succeeded => cases hresult
  | rejected => cases hresult
  | notChecked => cases hresult
  | notAdded _ herror => rcases herror with herror | herror <;> cases herror.symm.trans hresult
  | notMarked _ herror => rcases herror with herror | herror <;> cases herror.symm.trans hresult

theorem ItemMoves.open_of_usable {failsAt : Option CreationPoint}
    {effects : Effects Database Task RequestError Run} (h : ItemMoves db entry failsAt effects)
    (husable : effects.session.usable = true) :
    effects.session = .open effects.session.committed := by
  cases h with
  | succeeded => rfl
  | rejected => rfl
  | @notChecked f =>
    rw [Session.usable_afterFailure, Bool.and_eq_true] at husable
    simp [Session.afterFailure, husable.1]
  | notAdded _ _ _ hunusable => cases hunusable.symm.trans husable
  | notMarked _ _ hopen => exact hopen husable

theorem ItemMoves.error_of_unusable {failsAt : Option CreationPoint}
    {effects : Effects Database Task RequestError Run} (h : ItemMoves db entry failsAt effects)
    (husable : effects.session.usable = false) : ∃ e, effects.result = .error e := by
  cases h with
  | succeeded => cases husable
  | rejected e => exact ⟨_, rfl⟩
  | notChecked => exact ⟨_, rfl⟩
  | notAdded _ herror => exact herror.elim (⟨_, ·⟩) (⟨_, ·⟩)
  | notMarked _ herror => exact herror.elim (⟨_, ·⟩) (⟨_, ·⟩)

/-! ### A session that no later item can use -/

theorem perform_of_unusable (registry : Registry) (user : User) (entry : BatchEntry)
    (h : s.usable = false) :
    entry.perform registry user s = ⟨s, [], .error .unusable⟩ := by
  simp [BatchEntry.perform, itemProgram, UnitOfWork.Program.run, h]

/-- An item can tell whether it comes to a session that can be used. -/
theorem outcomes_eq_iff_of_unusable (registry : Registry) (user : User) (db : Database)
    (later : List BatchEntry) (h : s.usable = false) :
    outcomes registry user s later = outcomes registry user (.open db) later ↔ later = [] := by
  cases later with
  | nil => exact iff_of_true rfl rfl
  | cons entry later =>
    refine iff_of_false (fun houtcomes => ?_) (by simp)
    have hhead := (List.cons.inj houtcomes).1
    rw [perform_of_unusable registry user entry h] at hhead
    exact (itemMoves_perform registry user db entry).result_ne hhead.symm

theorem sessionAfter_concat (registry : Registry) (user : User) (before : List BatchEntry)
    (entry : BatchEntry) :
    sessionAfter registry user s (before ++ [entry]) =
      (entry.perform registry user (sessionAfter registry user s before)).session := by
  rw [sessionAfter, List.foldl_append]
  rfl

/-- Between two items a session that can be used has nothing open. -/
theorem open_of_usable (registry : Registry) (user : User) (db : Database)
    (before : List BatchEntry)
    (h : (sessionAfter registry user (.open db) before).usable = true) :
    sessionAfter registry user (.open db) before =
      .open (sessionAfter registry user (.open db) before).committed := by
  induction before using List.reverseRecOn with
  | nil => rfl
  | append_singleton before entry ih =>
    rw [sessionAfter_concat] at h ⊢
    cases husable : (sessionAfter registry user (.open db) before).usable with
    | false =>
      rw [perform_of_unusable registry user entry husable, husable] at h
      cases h
    | true =>
      rw [ih husable] at h ⊢
      exact (itemMoves_perform registry user _ entry).open_of_usable h

/-! ### When the items do not affect each other -/

/-- If the item fails, then it fails at a statement that comes before its run is committed, and
there is no item after it, or it is a query that fails, and the session can still be used. -/
def Harmless (registry : Registry) (user : User) (db : Database) (entry : BatchEntry)
    (later : List BatchEntry) : Prop :=
  ∀ point, entry.failsAt registry user db = some point →
    point.marks = false ∧ point.runWritten (entry.fault.any (·.durable)) = false ∧
      (later = [] ∨ point.adds = false ∧ entry.fault.any (·.usable) = true)

theorem failureIsolated_open_iff (registry : Registry) (user : User) (db : Database)
    (entry : BatchEntry) (later : List BatchEntry) :
    FailureIsolated registry user (.open db) entry later ↔
      Harmless registry user db entry later := by
  have hmoves := itemMoves_perform registry user db entry
  rw [FailureIsolated, Harmless]
  generalize entry.perform registry user (.open db) = effects at hmoves
  generalize entry.failsAt registry user db = failsAt at hmoves
  cases hmoves with
  | succeeded => exact iff_of_true nofun nofun
  | rejected e => exact iff_of_true (fun _ _ => ⟨rfl, rfl, rfl, rfl⟩) nofun
  | @notChecked f point hfault hpoint =>
    have hkinds : point.marks = false ∧ point.runWritten (entry.fault.any (·.durable)) = false ∧
        point.adds = false := by
      rcases hpoint with rfl | rfl <;> exact ⟨rfl, rfl, rfl⟩
    obtain ⟨hmarks, hruns, hadds⟩ := hkinds
    have hlater : outcomes registry user ((Session.open db).afterFailure f) later =
        outcomes registry user (.open db) later ↔ later = [] ∨ f.usable = true := by
      cases husable : f.usable with
      | true => simp [Session.afterFailure, husable]
      | false =>
        rw [outcomes_eq_iff_of_unusable registry user db later (by simp [husable])]
        simp
    constructor
    · intro hisolated point' hpoint'
      obtain rfl := Option.some.inj hpoint'
      obtain ⟨-, -, -, houtcomes⟩ := hisolated _ rfl
      refine ⟨hmarks, hruns, (hlater.mp houtcomes).imp_right fun husable => ⟨hadds, ?_⟩⟩
      rw [hfault]
      exact husable
    · intro hharmless e _
      obtain ⟨-, -, hrest⟩ := hharmless point rfl
      rw [hfault] at hrest
      refine ⟨?_, rfl, ?_, hlater.mpr (hrest.imp_right And.right)⟩ <;>
        exact congrArg _ (Session.committed_afterFailure _ f)
  | @notAdded point effects hpoint herror hstarted husable hcommitted =>
    have hmarks : point.marks = false := by
      cases point <;> simp [CreationPoint.adds] at hpoint <;> rfl
    constructor
    · intro hisolated point' hpoint'
      obtain rfl := Option.some.inj hpoint'
      obtain ⟨e, he⟩ : ∃ e, effects.result = .error e := herror.elim (⟨_, ·⟩) (⟨_, ·⟩)
      obtain ⟨hruns, -, -, houtcomes⟩ := hisolated e he
      refine ⟨hmarks, ?_, .inl ?_⟩
      · rcases hcommitted with ⟨-, hwritten⟩ | ⟨hne, -⟩
        · exact hwritten
        · exact absurd hruns hne
      · exact (outcomes_eq_iff_of_unusable registry user db later husable).mp houtcomes
    · intro hharmless e _
      obtain ⟨-, hruns, hlater | ⟨hadds, -⟩⟩ := hharmless point rfl
      · rcases hcommitted with ⟨hkept, -⟩ | ⟨-, hwritten⟩
        · rw [hkept]
          exact ⟨rfl, hstarted, rfl,
            (outcomes_eq_iff_of_unusable registry user db later husable).mpr hlater⟩
        · cases hwritten.symm.trans hruns
      · cases hpoint.symm.trans hadds
  | @notMarked point effects hpoint herror husable hruns =>
    obtain ⟨e, he⟩ : ∃ e, effects.result = .error e := herror.elim (⟨_, ·⟩) (⟨_, ·⟩)
    constructor
    · intro hisolated
      exact absurd (hisolated e he).1 hruns
    · intro hharmless
      cases hpoint.symm.trans (hharmless point rfl).1

theorem failureIsolated_of_unusable (registry : Registry) (user : User) (entry : BatchEntry)
    (later : List BatchEntry) (h : s.usable = false) :
    FailureIsolated registry user s entry later := by
  rw [FailureIsolated, perform_of_unusable registry user entry h]
  exact fun _ _ => ⟨rfl, rfl, rfl, rfl⟩

/-- If the items do not affect each other, then every one comes to a session that can be used. -/
theorem usable_of_isolated (before rest : List BatchEntry) (hrest : rest ≠ [])
    (h : ∀ before' entry later, before ++ rest = before' ++ entry :: later →
      FailureIsolated registry user (sessionAfter registry user (.open db) before') entry later) :
    (sessionAfter registry user (.open db) before).usable = true := by
  induction before using List.reverseRecOn generalizing rest with
  | nil => rfl
  | append_singleton before entry ih =>
    rw [List.append_assoc] at h
    have hopen := open_of_usable registry user db before (ih (entry :: rest) (by simp) h)
    have hisolated := h before entry rest rfl
    rw [hopen] at hisolated
    rw [sessionAfter_concat, hopen, ← Bool.not_eq_false]
    intro hunusable
    obtain ⟨e, he⟩ := (itemMoves_perform registry user _ entry).error_of_unusable hunusable
    obtain ⟨-, -, -, houtcomes⟩ := hisolated e he
    exact hrest ((outcomes_eq_iff_of_unusable registry user _ rest hunusable).mp houtcomes)

/-- **When the items do not affect each other**: every item that fails is rejected, or it fails at a
statement that comes before its run is committed, and it is the last one, or it is a query that
fails, and the session can still be used. -/
theorem batch_isolated_iff (registry : Registry) (user : User) (db : Database)
    (entries : List BatchEntry) :
    BatchIsolated registry user db entries ↔
      ∀ before entry later, entries = before ++ entry :: later →
        Harmless registry user (sessionAfter registry user (.open db) before).committed entry
          later := by
  constructor
  · rintro h before entry later rfl
    have husable := usable_of_isolated before (entry :: later) (by simp) h.isolated
    have hisolated := h.isolated before entry later rfl
    rw [open_of_usable registry user db before husable] at hisolated
    exact (failureIsolated_open_iff registry user _ entry later).mp hisolated
  · intro h
    obtain ⟨hindices, hresults, htotal⟩ := createBatchRuns_eq registry user db entries
    refine ⟨hindices, hresults, htotal, fun before entry later hentries => ?_⟩
    cases husable : (sessionAfter registry user (.open db) before).usable with
    | false => exact failureIsolated_of_unusable registry user entry later husable
    | true =>
      rw [open_of_usable registry user db before husable]
      exact (failureIsolated_open_iff registry user _ entry later).mpr
        (h before entry later hentries)

/-- **A batch whose items affect each other**: the run of the first item is in the database when its
thread cannot be marked, and the second item fails since the session was not rolled back. -/
theorem batch_not_isolated :
    ¬ ∀ (registry : Registry) (user : User) (db : Database) (entries : List BatchEntry),
      BatchIsolated registry user db entries := by
  intro h
  have hisolated := (h exampleRegistry ⟨"alice", none⟩ exampleDatabase
    [⟨⟨"t", "agent", none, none⟩, "r", some ⟨.settingBusy, false, false⟩⟩,
      ⟨⟨"t", "agent", none, none⟩, "r'", none⟩]).isolated [] _ _ rfl .failed rfl
  cases hisolated.1

end Runs

end OpenLangGraph

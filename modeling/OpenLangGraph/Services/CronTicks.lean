import OpenLangGraph.Services.CronScheduler

/-!
# The ticks of a cron

A tick of a cron is one value of its `next_run_date`. This module follows the passes of any number
of schedulers, and the tasks that they start, and asks of every tick whether it has been executed:
once, and for a run that is in the database.

## What is observed

`CronHistory` puts beside the server what an observer would write down: the ticks that passes have
selected, and the tasks that have gone on to execute their graph. Neither is read by a step.

## What decides

A pass takes no lock on the crons that it selects, its transaction is shared by all of them, and
the task of an execution is started before the commit. So a tick is safe only while no other pass
holds its cron, no statement fails beside other crons, and the commit comes before the task has
loaded its graph. `CronHistory.isUndisturbed` says this of a step.

## Main definitions

* `PassLabel` — the steps of passes and tasks
* `CronHistory`, `CronHistory.step`
* `CronHistory.TicksOnce` — the law

## Main results

* `CronHistory.ticks_once` — the law holds of every run of undisturbed steps
* `CronHistory.tick_twice` — two passes select one tick, and both execute it
-/

namespace OpenLangGraph

open Transition Processes

/-! ### Ticks -/

/-- The tick that a cron waits for, if it waits for one. -/
def Cron.tick (cron : Cron) : Option (String × ℕ) := cron.nextRunDate.map (cron.cronId, ·)

/-- The date has gone on: there are not two dates of which the second is not after the first. -/
def Advanced (before after : Option ℕ) : Prop := ∀ m ∈ before, ∀ n ∈ after, m < n

/-- The graph is not executed yet. -/
def CronTaskStage.isWaiting : CronTaskStage → Bool
  | .loading | .marking => true
  | _ => false

/-- The crons that a pass has selected and not committed. -/
def CronPass.held (pass : CronPass) : List String :=
  pass.due.map Cron.cronId ++ pass.executions.map CronExecution.cronId

/-- What the schedulers do. -/
inductive PassLabel
  | selectDue (now : ℕ)
  | trigger (cronId : String)
  | executeCron (i : ℕ) (runId newThreadId : String) (now : ℕ) (flushed : Bool)
  | commit (i : ℕ) (committed : Bool)
  | runTask (i : ℕ) (outcome : CronOutcome)

def PassLabel.toLabel : PassLabel → CronLabel
  | .selectDue now => .selectDue now
  | .trigger cronId => .trigger cronId
  | .executeCron i runId newThreadId now flushed => .executeCron i runId newThreadId now flushed
  | .commit i committed => .commit i committed
  | .runTask i outcome => .runTask i outcome

/-- A server, the ticks that its passes have selected, and the tasks that have executed their
graph. -/
structure CronHistory where
  server : CronScheduler
  selected : List (String × ℕ)
  started : List CronTask

namespace CronHistory

/-- The tables, before anything has happened. -/
def idle (tables : CronTables) : CronHistory := ⟨.idle tables, [], []⟩

/-- The ticks that a step selects. -/
def selects (h : CronHistory) : PassLabel → List (String × ℕ)
  | .selectDue now => (h.server.tables.crons.filter (CronScheduler.isDue now)).filterMap Cron.tick
  | .trigger cronId => (h.server.tables.crons.filter (·.cronId = cronId)).filterMap Cron.tick
  | _ => []

/-- The tasks that a step lets execute their graph: `ainvoke` follows the status update. -/
def starts (h : CronHistory) : PassLabel → List CronTask
  | .runTask i (.updates _) => match h.server.tasks[i]? with
    | some ⟨runId, cron, .marking⟩ => [⟨runId, cron, .marking⟩]
    | _ => []
  | _ => []

def step (setting : CronSetting) (h : CronHistory) (a : PassLabel) : Option CronHistory :=
  (h.server.step setting a.toLabel).map fun server =>
    { server, selected := h.selected ++ h.selects a, started := h.started ++ h.starts a }

/-! ### The law -/

/-- The run of the task is in the database, and its cron has been advanced. -/
def Durable (t : CronTables) (task : CronTask) : Prop :=
  task.runId ∈ t.db.runs.map Run.runId ∧ ∀ row ∈ t.crons, row.cronId = task.cron.cronId →
    Advanced task.cron.nextRunDate row.nextRunDate

/-- A tick that has been selected is not lost: it is still there for the next pass, or a task is
about to execute it, or one has. -/
def IsKept (h : CronHistory) (tick : String × ℕ) : Prop :=
  tick ∈ h.server.tables.crons.filterMap Cron.tick ∨
    (∃ task ∈ h.server.tasks, task.stage.isWaiting = true ∧ task.cron.tick = some tick) ∨
    tick ∈ h.started.filterMap fun task => task.cron.tick

/-- Every tick is executed once. -/
structure TicksOnce (h : CronHistory) : Prop where
  /-- no tick is executed twice -/
  once : (h.started.filterMap fun task => task.cron.tick).Nodup
  /-- no tick is lost -/
  kept : ∀ tick ∈ h.selected, h.IsKept tick
  /-- what is executed has been committed -/
  durable : ∀ task ∈ h.started, Durable h.server.tables task
  /-- a pass of which a statement has failed has no other cron that would be lost with it -/
  alone : ∀ pass ∈ h.server.passes, pass.failed = true → pass.due = [] ∧ pass.executions = []

/-! ### What disturbs a tick -/

def isHeld (h : CronHistory) (cronId : String) : Bool :=
  h.server.passes.any fun pass => cronId ∈ pass.held

/-- No other pass has selected one of the crons. -/
def isFree (h : CronHistory) (p : Cron → Bool) : Bool :=
  (h.server.tables.crons.filter p).all fun cron => !h.isHeld cron.cronId

/-- No pass has selected the crons of a selection; an execution is not ahead of its cron, nor
behind an earlier execution of it, or it fails and is the only one of its pass; the executions of a
pass are committed; and a graph is loaded, and executed after the commit. -/
def isUndisturbed (setting : CronSetting) (h : CronHistory) : PassLabel → Bool
  | .selectDue now => h.isFree (CronScheduler.isDue now)
  | .trigger cronId => h.isFree (·.cronId = cronId)
  | .executeCron i _ _ now flushed => match h.server.passes[i]? with
    | some ⟨cron :: due, executions, _⟩ =>
      if flushed then
        cron.nextRunDate.all (· ≤ now) && h.server.tasks.all fun task =>
          task.cron.cronId ≠ cron.cronId || task.cron.nextRunDate.all (· ≤ now)
      else due.isEmpty && executions.isEmpty
    | _ => true
  | .commit i committed => match h.server.passes[i]? with
    | some ⟨[], executions, _⟩ => executions.isEmpty ||
      committed && (executions.foldlM CronTables.commitExecution h.server.tables).isSome
    | _ => true
  | .runTask i outcome => match h.server.tasks[i]? with
    | some ⟨_, cron, .loading⟩ => match outcome with
      | .loads found => found && cron.assistantId ∈ setting.registry.listGraphs
      | _ => false
    | some ⟨runId, _, .marking⟩ =>
      h.server.passes.all fun pass => pass.executions.all fun e => e.run.runId ≠ runId
    | _ => true

end CronHistory

/-! ### The tables -/

variable {t t' : CronTables}

theorem CronTables.map_setNextRunDate (t : CronTables) (cronId : String) (date : Option ℕ) :
    (t.setNextRunDate cronId date).crons.map Cron.cronId = t.crons.map Cron.cronId :=
  Database.map_updateWhere (f := fun cron => { cron with nextRunDate := date }) (fun _ => rfl)
    cronId t.crons

theorem CronTables.mem_setNextRunDate {cronId : String} {date : Option ℕ} {row' : Cron}
    (h : row' ∈ (t.setNextRunDate cronId date).crons) :
    ∃ row ∈ t.crons, row'.cronId = row.cronId ∧
      (row.cronId ≠ cronId ∧ row' = row ∨ row.cronId = cronId ∧ row'.nextRunDate = date) := by
  obtain ⟨row, hrow, rfl⟩ := List.mem_map.mp h
  refine ⟨row, hrow, ?_⟩
  by_cases hid : row.cronId = cronId
  · rw [if_pos hid]
    exact ⟨rfl, .inr ⟨hid, rfl⟩⟩
  · rw [if_neg hid]
    exact ⟨rfl, .inl ⟨hid, rfl⟩⟩

theorem CronTables.mem_setNextRunDate_of_ne {cronId : String} {date : Option ℕ} {row : Cron}
    (hrow : row ∈ t.crons) (hid : row.cronId ≠ cronId) :
    row ∈ (t.setNextRunDate cronId date).crons :=
  List.mem_map.mpr ⟨row, hrow, if_neg hid⟩

/-- What one committed execution leaves in the tables. -/
theorem CronTables.commitExecution_tables {e : CronExecution}
    (h : t.commitExecution e = some t') :
    t'.db.runs = t.db.runs ++ [e.run] ∧
      t'.crons = (t.setNextRunDate e.cronId e.nextRunDate).crons := by
  rw [commitExecution] at h
  split at h
  · cases h
  · rename_i hrows
    cases h
    exact ⟨(CronExecution.insertRows_eq_some hrows).2, rfl⟩

/-- What a committed transaction leaves in the tables: its runs, and each cron as it was, or with
the date of one of its executions. -/
structure Commits (executions : List CronExecution) (t t' : CronTables) : Prop where
  runs : t'.db.runs = t.db.runs ++ executions.map CronExecution.run
  ids : t'.crons.map Cron.cronId = t.crons.map Cron.cronId
  old : ∀ row ∈ t.crons, row.cronId ∉ executions.map CronExecution.cronId → row ∈ t'.crons
  new : ∀ row' ∈ t'.crons, ∃ row ∈ t.crons, row'.cronId = row.cronId ∧
    (row.cronId ∉ executions.map CronExecution.cronId ∧ row' = row ∨
      ∃ e ∈ executions, e.cronId = row.cronId ∧ row'.nextRunDate = e.nextRunDate)

theorem commits_of_foldlM {executions : List CronExecution}
    (h : executions.foldlM CronTables.commitExecution t = some t') : Commits executions t t' := by
  induction executions generalizing t with
  | nil =>
    cases h
    exact ⟨(List.append_nil _).symm, rfl, fun row hrow _ => hrow,
      fun row hrow => ⟨row, hrow, rfl, .inl ⟨List.not_mem_nil, rfl⟩⟩⟩
  | cons e es ih =>
    obtain ⟨t₁, h₁, h⟩ := Option.bind_eq_some_iff.mp h
    obtain ⟨hruns, hcrons⟩ := CronTables.commitExecution_tables h₁
    have hes := ih h
    refine ⟨?_, ?_, fun row hrow hid => ?_, fun row' hrow' => ?_⟩
    · rw [hes.runs, hruns, List.map_cons, List.append_assoc]
      rfl
    · rw [hes.ids, hcrons, CronTables.map_setNextRunDate]
    · refine hes.old row ?_ (List.not_mem_of_not_mem_cons hid)
      rw [hcrons]
      exact CronTables.mem_setNextRunDate_of_ne hrow (List.ne_of_not_mem_cons hid)
    · obtain ⟨row₁, hrow₁, hid₁, hdate⟩ := hes.new row' hrow'
      obtain ⟨row, hrow, hid, hfirst⟩ := CronTables.mem_setNextRunDate (hcrons ▸ hrow₁)
      refine ⟨row, hrow, hid₁.trans hid, ?_⟩
      -- the last execution of the cron decides
      rcases hdate with ⟨hlater, rfl⟩ | ⟨e', he', heid, hdate⟩
      · rcases hfirst with ⟨hne, rfl⟩ | ⟨heq, hdate⟩
        · exact .inl ⟨List.not_mem_cons_of_ne_of_not_mem hne hlater, rfl⟩
        · exact .inr ⟨e, List.mem_cons_self, heq.symm, hdate⟩
      · exact .inr ⟨e', List.mem_cons_of_mem _ he', heid.trans hid, hdate⟩

namespace CronHistory

/-! ### The invariant -/

/-- The task is that of an execution which is not committed yet. -/
structure Serves (t : CronTables) (task : CronTask) (e : CronExecution) : Prop where
  run : e.run.runId = task.runId
  cronId : e.cronId = task.cron.cronId
  row : task.cron ∈ t.crons
  waiting : task.stage.isWaiting = true

/-- A cron is held by one pass. -/
def Exclusive (passes : List CronPass) : Prop :=
  ∀ (i j : ℕ) (p q : CronPass), passes[i]? = some p → passes[j]? = some q →
    ∀ id ∈ p.held, id ∈ q.held → i = j

/-- The invariant of a server on which nothing has disturbed a tick. -/
structure Orderly (s : CronScheduler) : Prop where
  /-- `cron_id` is the primary key -/
  key : (s.tables.crons.map Cron.cronId).Nodup
  holder : Exclusive s.passes
  once : ∀ pass ∈ s.passes, pass.held.Nodup
  alone : ∀ pass ∈ s.passes, pass.failed = true → pass.due = [] ∧ pass.executions = []
  /-- a cron that is held has not changed since it was selected -/
  due : ∀ pass ∈ s.passes, ∀ cron ∈ pass.due, cron ∈ s.tables.crons
  served : ∀ pass ∈ s.passes, ∀ e ∈ pass.executions, ∃ task ∈ s.tasks, Serves s.tables task e
  /-- the execution advances its cron beyond all that has been executed -/
  ahead : ∀ pass ∈ s.passes, ∀ e ∈ pass.executions, ∀ task ∈ s.tasks,
    task.cron.cronId = e.cronId → Advanced task.cron.nextRunDate e.nextRunDate
  tasks : ∀ task ∈ s.tasks, (∃ pass ∈ s.passes, ∃ e ∈ pass.executions, Serves s.tables task e) ∨
    Durable s.tables task
  /-- a tick has one task -/
  ticks : ∀ (i j : ℕ) (a b : CronTask), s.tasks[i]? = some a → s.tasks[j]? = some b →
    ∀ tick, a.cron.tick = some tick → b.cron.tick = some tick → i = j

/-- The invariant with what has been observed. -/
structure Faithful (h : CronHistory) : Prop where
  orderly : Orderly h.server
  once : (h.started.filterMap fun task => task.cron.tick).Nodup
  kept : ∀ tick ∈ h.selected, h.IsKept tick
  started : ∀ task ∈ h.started, ∃ task' ∈ h.server.tasks, task'.runId = task.runId ∧
    task'.cron = task.cron ∧ task'.stage.isWaiting = false

theorem Faithful.ticksOnce {h : CronHistory} (hh : h.Faithful) : h.TicksOnce where
  once := hh.once
  kept := hh.kept
  durable task htask := by
    obtain ⟨task', htask', hrun, hcron, hstage⟩ := hh.started task htask
    rcases hh.orderly.tasks task' htask' with ⟨_, -, e, -, he⟩ | ⟨hrow, hdate⟩
    · rw [he.waiting] at hstage
      cases hstage
    · exact ⟨hrun ▸ hrow, hcron ▸ hdate⟩
  alone := hh.orderly.alone

/-! ### Selections -/

variable {setting : CronSetting} {s s' : CronScheduler} {h h' : CronHistory}

/-- A pass may let go of crons. -/
theorem Exclusive.set {passes : List CronPass} {i : ℕ} {p p' : CronPass}
    (hpasses : Exclusive passes) (hp : passes[i]? = some p) (hsub : ∀ id ∈ p'.held, id ∈ p.held) :
    Exclusive (passes.set i p') := by
  intro j k q r hq hr id hid hid'
  rcases getElem?_set_cases hq with ⟨rfl, rfl⟩ | ⟨-, hq'⟩
  · rcases getElem?_set_cases hr with ⟨rfl, rfl⟩ | ⟨-, hr'⟩
    · rfl
    · exact hpasses _ _ _ _ hp hr' id (hsub id hid) hid'
  · rcases getElem?_set_cases hr with ⟨rfl, rfl⟩ | ⟨-, hr'⟩
    · exact hpasses _ _ _ _ hq' hp id hid (hsub id hid')
    · exact hpasses _ _ _ _ hq' hr' id hid hid'

/-- A new pass holds crons that no other holds. -/
theorem Exclusive.append {passes : List CronPass} {p : CronPass} (hpasses : Exclusive passes)
    (hfree : ∀ q ∈ passes, ∀ id ∈ p.held, id ∉ q.held) : Exclusive (passes ++ [p]) := by
  intro j k q r hq hr id hid hid'
  rcases getElem?_append_cases hq with hq' | ⟨rfl, rfl⟩
  · rcases getElem?_append_cases hr with hr' | ⟨rfl, rfl⟩
    · exact hpasses _ _ _ _ hq' hr' id hid hid'
    · exact absurd hid (hfree q (List.mem_of_getElem? hq') id hid')
  · rcases getElem?_append_cases hr with hr' | ⟨rfl, rfl⟩
    · exact absurd hid' (hfree r (List.mem_of_getElem? hr') id hid)
    · rfl

theorem held_selection (crons : List Cron) : (⟨crons, [], false⟩ : CronPass).held =
    crons.map Cron.cronId :=
  List.append_nil _

theorem isFree_iff {p : Cron → Bool} : h.isFree p = true ↔
    ∀ pass ∈ h.server.passes, ∀ id ∈ (h.server.tables.crons.filter p).map Cron.cronId,
      id ∉ pass.held := by
  simp only [isFree, isHeld, List.all_eq_true, Bool.not_eq_true', List.any_eq_false,
    decide_eq_true_eq, List.forall_mem_map]
  exact ⟨fun hfree pass hpass cron hcron => hfree cron hcron pass hpass,
    fun hfree cron hcron pass hpass => hfree pass hpass cron hcron⟩

/-- Free crons may be selected. -/
theorem Orderly.select (hs : Orderly h.server) {p : Cron → Bool} (hfree : h.isFree p = true) :
    Orderly { h.server with
      passes := h.server.passes ++ [⟨h.server.tables.crons.filter p, [], false⟩] } where
  key := hs.key
  holder := by
    refine hs.holder.append fun q hq id hid => ?_
    rw [held_selection] at hid
    exact isFree_iff.mp hfree q hq id hid
  once := by
    refine forall_append ?_ hs.once
    rw [held_selection]
    exact hs.key.sublist (List.filter_sublist.map _)
  alone := forall_append (fun hfailed => by cases hfailed) hs.alone
  due := forall_append (fun cron hcron => List.mem_of_mem_filter hcron) hs.due
  served := forall_append (List.forall_mem_nil _) hs.served
  ahead := forall_append (List.forall_mem_nil _) hs.ahead
  tasks task htask := by
    refine (hs.tasks task htask).imp_left ?_
    rintro ⟨pass, hpass, he⟩
    exact ⟨pass, List.mem_append_left _ hpass, he⟩
  ticks := hs.ticks

/-! ### Executions -/

theorem Orderly.issue (hs : Orderly s) (runIds threadIds : List String) :
    Orderly { s with runIds, threadIds } :=
  ⟨hs.key, hs.holder, hs.once, hs.alone, hs.due, hs.served, hs.ahead, hs.tasks, hs.ticks⟩

/-- A pass without executions ends. -/
theorem Orderly.release (hs : Orderly s) {i : ℕ} {p : CronPass} (hp : s.passes[i]? = some p)
    (hnone : p.executions = []) (failed : Bool) :
    Orderly { s with passes := s.passes.set i ⟨[], [], failed⟩ } where
  key := hs.key
  holder := hs.holder.set hp (List.forall_mem_nil _)
  once := forall_set List.nodup_nil hs.once
  alone := forall_set (fun _ => ⟨rfl, rfl⟩) hs.alone
  due := forall_set (List.forall_mem_nil _) hs.due
  served := forall_set (List.forall_mem_nil _) hs.served
  ahead := forall_set (List.forall_mem_nil _) hs.ahead
  tasks task htask := by
    refine (hs.tasks task htask).imp_left ?_
    rintro ⟨pass, hpass, e, he, hserves⟩
    obtain ⟨j, hj⟩ := List.mem_iff_getElem?.mp hpass
    have hne : j ≠ i := by
      rintro rfl
      obtain rfl := Option.some.inj (hp.symm.trans hj)
      rw [hnone] at he
      cases he
    exact ⟨pass, mem_set_of_ne hj hne, e, he, hserves⟩
  ticks := hs.ticks

/-- No execution of a cron that is still to be executed waits for its commit. -/
theorem Orderly.not_executed_of_due (hs : Orderly s) {i : ℕ} {cron : Cron} {due : List Cron}
    {executions : List CronExecution} {failed : Bool}
    (hp : s.passes[i]? = some ⟨cron :: due, executions, failed⟩) :
    ∀ pass ∈ s.passes, ∀ e ∈ pass.executions, e.cronId ≠ cron.cronId := by
  intro pass hpass e he hid
  obtain ⟨j, hj⟩ := List.mem_iff_getElem?.mp hpass
  have hexecuted : cron.cronId ∈ pass.executions.map CronExecution.cronId :=
    List.mem_map.mpr ⟨e, he, hid⟩
  obtain rfl := hs.holder _ _ _ _ hp hj cron.cronId List.mem_cons_self
    (List.mem_append_right _ hexecuted)
  obtain rfl := Option.some.inj (hp.symm.trans hj)
  have honce : (cron.cronId :: (due.map Cron.cronId ++
    executions.map CronExecution.cronId)).Nodup := hs.once _ hpass
  exact (List.nodup_cons.mp honce).1 (List.mem_append_right _ hexecuted)

/-- The tick of a cron that is due in a pass has no task: the tasks of the cron have been advanced
beyond. -/
theorem Orderly.no_task_of_due (hs : Orderly s) {i : ℕ} {cron : Cron} {due : List Cron}
    {executions : List CronExecution} {failed : Bool}
    (hp : s.passes[i]? = some ⟨cron :: due, executions, failed⟩) {task : CronTask}
    (htask : task ∈ s.tasks) {tick : String × ℕ} (hcron : cron.tick = some tick)
    (htick : task.cron.tick = some tick) : False := by
  have hmem := List.mem_of_getElem? hp
  obtain ⟨date, hdate, rfl⟩ := Option.map_eq_some_iff.mp hcron
  obtain ⟨date', hdate', heq⟩ := Option.map_eq_some_iff.mp htick
  obtain ⟨hid, rfl⟩ := Prod.mk.inj heq
  rcases hs.tasks task htask with ⟨pass, hpass, e, he, hserves⟩ | ⟨-, hadvanced⟩
  · exact hs.not_executed_of_due hp pass hpass e he (hserves.cronId.trans hid)
  · exact Nat.lt_irrefl date'
      (hadvanced cron (hs.due _ hmem cron List.mem_cons_self) hid.symm date' hdate' date' hdate)

/-- A cron is executed: its task waits for the commit. -/
theorem Orderly.execute (hs : Orderly s) {i : ℕ} {cron : Cron} {due : List Cron}
    {executions : List CronExecution} {failed : Bool}
    (hp : s.passes[i]? = some ⟨cron :: due, executions, failed⟩) {e : CronExecution}
    (hid : e.cronId = cron.cronId) (hcron : Advanced cron.nextRunDate e.nextRunDate)
    (htasks : ∀ task ∈ s.tasks, task.cron.cronId = cron.cronId →
      Advanced task.cron.nextRunDate e.nextRunDate) :
    Orderly { s with
      passes := s.passes.set i ⟨due, executions ++ [e], false⟩
      tasks := s.tasks ++ [⟨e.run.runId, cron, .loading⟩] } := by
  have hmem := List.mem_of_getElem? hp
  obtain ⟨hrow, hdue⟩ := List.forall_mem_cons.mp (hs.due _ hmem)
  have hserves : Serves s.tables ⟨e.run.runId, cron, .loading⟩ e := ⟨rfl, hid, hrow, rfl⟩
  have hheld : (⟨due, executions ++ [e], false⟩ : CronPass).held.Perm
      (⟨cron :: due, executions, failed⟩ : CronPass).held := by
    simp only [CronPass.held, List.map_append, List.map_cons, List.map_nil, hid, List.cons_append]
    rw [← List.append_assoc]
    exact List.perm_append_singleton _ _
  -- a task which is not new keeps its execution, in this pass or in another
  have hold : ∀ task e', Serves s.tables task e' → (∃ pass ∈ s.passes, e' ∈ pass.executions) →
      ∃ pass ∈ s.passes.set i ⟨due, executions ++ [e], false⟩, ∃ e' ∈ pass.executions,
        Serves s.tables task e' := by
    rintro task e' hserves' ⟨pass, hpass, he'⟩
    obtain ⟨j, hj⟩ := List.mem_iff_getElem?.mp hpass
    by_cases hji : j = i
    · subst hji
      obtain rfl := Option.some.inj (hp.symm.trans hj)
      exact ⟨_, mem_set_self hp, e', List.mem_append_left _ he', hserves'⟩
    · exact ⟨pass, mem_set_of_ne hj hji, e', he', hserves'⟩
  refine ⟨hs.key, hs.holder.set hp fun id => hheld.mem_iff.mp, ?_, ?_, ?_, ?_, ?_, ?_, ?_⟩
  · exact forall_set (hheld.nodup_iff.mpr (hs.once _ hmem)) hs.once
  · exact forall_set (fun hfailed => by cases hfailed) hs.alone
  · exact forall_set hdue hs.due
  · have hserved : ∀ pass ∈ s.passes, ∀ e' ∈ pass.executions,
        ∃ task ∈ s.tasks ++ [⟨e.run.runId, cron, .loading⟩], Serves s.tables task e' := by
      intro pass hpass e' he'
      obtain ⟨task, htask, h⟩ := hs.served pass hpass e' he'
      exact ⟨task, List.mem_append_left _ htask, h⟩
    refine forall_set (forall_append ?_ (hserved _ hmem)) hserved
    exact ⟨_, List.mem_append_right _ (List.mem_singleton_self _), hserves⟩
  · have hahead : ∀ pass ∈ s.passes, ∀ e' ∈ pass.executions,
        ∀ task ∈ s.tasks ++ [⟨e.run.runId, cron, .loading⟩],
        task.cron.cronId = e'.cronId → Advanced task.cron.nextRunDate e'.nextRunDate := by
      intro pass hpass e' he'
      refine forall_append (fun hid' => ?_) (hs.ahead pass hpass e' he')
      exact absurd hid'.symm (hs.not_executed_of_due hp pass hpass e' he')
    refine forall_set (forall_append ?_ (hahead _ hmem)) hahead
    rw [hid]
    exact forall_append (fun _ => hcron) htasks
  · refine forall_append (.inl ⟨_, mem_set_self hp, e, ?_, hserves⟩) fun task htask => ?_
    · exact List.mem_append_right _ (List.mem_singleton_self _)
    · refine (hs.tasks task htask).imp_left ?_
      rintro ⟨pass, hpass, e', he', hserves'⟩
      exact hold task e' hserves' ⟨pass, hpass, he'⟩
  · intro j k a b ha hb tick htick htick'
    rcases getElem?_append_cases ha with ha' | ⟨rfl, rfl⟩
    · rcases getElem?_append_cases hb with hb' | ⟨rfl, rfl⟩
      · exact hs.ticks _ _ _ _ ha' hb' tick htick htick'
      · exact (hs.no_task_of_due hp (List.mem_of_getElem? ha') htick' htick).elim
    · rcases getElem?_append_cases hb with hb' | ⟨rfl, rfl⟩
      · exact (hs.no_task_of_due hp (List.mem_of_getElem? hb') htick htick').elim
      · rfl

/-! ### Commits -/

theorem Durable.commit {task : CronTask} {executions : List CronExecution}
    (hc : Commits executions t t') (htask : Durable t task)
    (hahead : ∀ e ∈ executions, task.cron.cronId = e.cronId →
      Advanced task.cron.nextRunDate e.nextRunDate) : Durable t' task := by
  obtain ⟨hrun, hdate⟩ := htask
  refine ⟨?_, fun row' hrow' hid => ?_⟩
  · rw [hc.runs, List.map_append]
    exact List.mem_append_left _ hrun
  · obtain ⟨row, hrow, hid', hnew⟩ := hc.new row' hrow'
    rcases hnew with ⟨-, rfl⟩ | ⟨e, he, heid, hnew⟩
    · exact hdate row' hrow hid
    · rw [hnew]
      exact hahead e he (hid.symm.trans (hid'.trans heid.symm))

/-- The task of an execution that is committed. -/
theorem Serves.durable {task : CronTask} {executions : List CronExecution} {e : CronExecution}
    (hc : Commits executions t t') (he : e ∈ executions) (hserves : Serves t task e)
    (hahead : ∀ e ∈ executions, task.cron.cronId = e.cronId →
      Advanced task.cron.nextRunDate e.nextRunDate) : Durable t' task := by
  refine ⟨?_, fun row' hrow' hid => ?_⟩
  · rw [hc.runs, List.map_append]
    refine List.mem_append_right _ (List.mem_map.mpr ⟨e.run, ?_, hserves.run⟩)
    exact List.mem_map_of_mem he
  · obtain ⟨row, hrow, hid', hnew⟩ := hc.new row' hrow'
    rcases hnew with ⟨hnot, rfl⟩ | ⟨e', he', heid, hnew⟩
    · exact absurd (List.mem_map.mpr ⟨e, he, hserves.cronId.trans hid.symm⟩) hnot
    · rw [hnew]
      exact hahead e' he' (hid.symm.trans (hid'.trans heid.symm))

/-- The executions of a pass are committed. -/
theorem Orderly.commit (hs : Orderly s) {i : ℕ} {executions : List CronExecution} {failed : Bool}
    (hp : s.passes[i]? = some ⟨[], executions, failed⟩) {tables : CronTables}
    (hc : Commits executions s.tables tables) :
    Orderly { s with tables, passes := s.passes.set i ⟨[], [], false⟩ } := by
  have hmem := List.mem_of_getElem? hp
  -- what another pass holds has not changed
  have hother : ∀ j pass, j ≠ i → s.passes[j]? = some pass → ∀ row ∈ s.tables.crons,
      row.cronId ∈ pass.held → row ∈ tables.crons := by
    intro j pass hji hj row hrow hheld
    exact hc.old row hrow fun hexecuted => hji (hs.holder _ _ _ _ hj hp _ hheld hexecuted)
  have hserves : ∀ j pass, j ≠ i → s.passes[j]? = some pass → ∀ e ∈ pass.executions, ∀ task,
      Serves s.tables task e → Serves tables task e := by
    intro j pass hji hj e he task hserves
    refine ⟨hserves.run, hserves.cronId, hother j pass hji hj _ hserves.row ?_, hserves.waiting⟩
    exact List.mem_append_right _ (List.mem_map.mpr ⟨e, he, hserves.cronId⟩)
  refine ⟨?_, hs.holder.set hp (List.forall_mem_nil _), forall_set List.nodup_nil hs.once,
    forall_set (fun _ => ⟨rfl, rfl⟩) hs.alone, ?_, ?_, forall_set (List.forall_mem_nil _) hs.ahead,
    fun task htask => ?_, hs.ticks⟩
  · rw [hc.ids]
    exact hs.key
  · intro pass hpass cron hcron
    rcases mem_set_cases hpass with rfl | ⟨j, hji, hj⟩
    · cases hcron
    · exact hother j pass hji hj cron (hs.due _ (List.mem_of_getElem? hj) cron hcron)
        (List.mem_append_left _ (List.mem_map_of_mem hcron))
  · intro pass hpass e he
    rcases mem_set_cases hpass with rfl | ⟨j, hji, hj⟩
    · cases he
    · obtain ⟨task, htask, h⟩ := hs.served _ (List.mem_of_getElem? hj) e he
      exact ⟨task, htask, hserves j pass hji hj e he task h⟩
  · have hahead : ∀ e ∈ executions, task.cron.cronId = e.cronId →
        Advanced task.cron.nextRunDate e.nextRunDate := fun e he => hs.ahead _ hmem e he task htask
    rcases hs.tasks task htask with ⟨pass, hpass, e, he, h⟩ | hdurable
    · obtain ⟨j, hj⟩ := List.mem_iff_getElem?.mp hpass
      by_cases hji : j = i
      · subst hji
        obtain rfl := Option.some.inj (hp.symm.trans hj)
        exact .inr (h.durable hc he hahead)
      · exact .inl ⟨pass, mem_set_of_ne hj hji, e, he, hserves j pass hji hj e he task h⟩
    · exact .inr (hdurable.commit hc hahead)

/-! ### Tasks -/

theorem Durable.of_eq {task task' : CronTask} (hrun : task'.runId = task.runId)
    (hcron : task'.cron = task.cron) (hcrons : t'.crons = t.crons)
    (hruns : t'.db.runs.map Run.runId = t.db.runs.map Run.runId) (h : Durable t task) :
    Durable t' task' := by
  rw [Durable, hrun, hcron, hcrons, hruns]
  exact h

/-- A task moves on, and the tables change in the status of its run at most. If the graph is
executed now, no execution of the run waits for its commit. -/
theorem Orderly.moveTask (hs : Orderly s) {i : ℕ} {task : CronTask}
    (htask : s.tasks[i]? = some task) {tables : CronTables} {stage : CronTaskStage}
    {executed : List (String × String)}
    (hcrons : tables.crons = s.tables.crons)
    (hruns : tables.db.runs.map Run.runId = s.tables.db.runs.map Run.runId)
    (hstage : stage.isWaiting = task.stage.isWaiting ∨
      ∀ pass ∈ s.passes, ∀ e ∈ pass.executions, e.run.runId ≠ task.runId) :
    Orderly { s with tables, tasks := s.tasks.set i { task with stage }, executed } := by
  have hmem := List.mem_of_getElem? htask
  have hmove : ∀ pass ∈ s.passes, ∀ e ∈ pass.executions, Serves s.tables task e →
      Serves tables { task with stage } e := by
    intro pass hpass e he hserves
    refine ⟨hserves.run, hserves.cronId, hcrons ▸ hserves.row, ?_⟩
    rcases hstage with hstage | hnone
    · exact hstage.trans hserves.waiting
    · exact absurd hserves.run (hnone pass hpass e he)
  have hstay : ∀ task e, Serves s.tables task e → Serves tables task e := fun task e hserves =>
    ⟨hserves.run, hserves.cronId, hcrons ▸ hserves.row, hserves.waiting⟩
  refine ⟨hcrons ▸ hs.key, hs.holder, hs.once, hs.alone, fun pass hpass cron hcron =>
    hcrons ▸ hs.due pass hpass cron hcron, ?_, ?_, ?_, ?_⟩
  · intro pass hpass e he
    obtain ⟨task', htask', hserves⟩ := hs.served pass hpass e he
    obtain ⟨j, hj⟩ := List.mem_iff_getElem?.mp htask'
    by_cases hji : j = i
    · subst hji
      obtain rfl := Option.some.inj (htask.symm.trans hj)
      exact ⟨_, mem_set_self htask, hmove pass hpass e he hserves⟩
    · exact ⟨task', mem_set_of_ne hj hji, hstay task' e hserves⟩
  · intro pass hpass e he
    exact forall_set (hs.ahead pass hpass e he task hmem) (hs.ahead pass hpass e he)
  · refine forall_set ?_ fun task' htask' => ?_
    · rcases hs.tasks task hmem with ⟨pass, hpass, e, he, hserves⟩ | hdurable
      · exact .inl ⟨pass, hpass, e, he, hmove pass hpass e he hserves⟩
      · exact .inr (hdurable.of_eq rfl rfl hcrons hruns)
    · rcases hs.tasks task' htask' with ⟨pass, hpass, e, he, hserves⟩ | hdurable
      · exact .inl ⟨pass, hpass, e, he, hstay task' e hserves⟩
      · exact .inr (hdurable.of_eq rfl rfl hcrons hruns)
  · have hset : ∀ (j : ℕ) (a : CronTask), (s.tasks.set i { task with stage })[j]? = some a →
        ∃ b : CronTask, s.tasks[j]? = some b ∧ a.cron = b.cron := by
      intro j a ha
      rcases getElem?_set_cases ha with ⟨rfl, rfl⟩ | ⟨-, ha⟩
      · exact ⟨task, htask, rfl⟩
      · exact ⟨a, ha, rfl⟩
    intro j k a b ha hb tick htick htick'
    obtain ⟨a', ha', haa'⟩ := hset j a ha
    obtain ⟨b', hb', hbb'⟩ := hset k b hb
    exact hs.ticks _ _ _ _ ha' hb' tick (haa' ▸ htick) (hbb' ▸ htick')

theorem step_runTask {i : ℕ} {outcome : CronOutcome}
    (hstep : s.step setting (.runTask i outcome) = some s') :
    ∃ task move, s.tasks[i]? = some task ∧
      task.step setting.registry setting.tracingCallbacks outcome = some move ∧
      ∃ (tables : CronTables) (executed : List (String × String)),
        tables.crons = s.tables.crons ∧
        tables.db.runs.map Run.runId = s.tables.db.runs.map Run.runId ∧
        s' = { s with tables, tasks := s.tasks.set i { task with stage := move.stage }
                      executed } := by
  obtain ⟨task, htask, hstep⟩ := Option.bind_eq_some_iff.mp hstep
  obtain ⟨move, hmove, hstep⟩ := Option.bind_eq_some_iff.mp hstep
  refine ⟨task, move, htask, hmove, _, _, ?_, ?_, (Option.some.inj hstep).symm⟩
  · cases move.update <;> rfl
  · cases move.update with
    | none => rfl
    | some update => exact Database.map_updateWhere (f := fun run : Run =>
        { run with status := update.1, output := update.2.or run.output }) (fun _ => rfl) _ _

variable {registry : Registry} {tracingCallbacks : List PyVal} {task : CronTask}
  {outcome : CronOutcome} {next : CronTaskMove}

theorem step_marks (hstage : task.stage = .marking)
    (hmove : task.step registry tracingCallbacks outcome = some next) :
    (∃ committed, outcome = .updates committed) ∧ next.stage = .invoking := by
  cases outcome with
  | updates committed =>
    simp only [CronTask.step, hstage] at hmove
    exact ⟨⟨committed, rfl⟩, by rw [← Option.some.inj hmove]⟩
  | loads | returns | raises => simp [CronTask.step, hstage] at hmove

/-- A task that has executed its graph does not wait again. -/
theorem step_of_not_waiting (hstage : task.stage.isWaiting = false)
    (hmove : task.step registry tracingCallbacks outcome = some next) :
    next.stage.isWaiting = false := by
  cases hcase : task.stage with
  | loading | marking =>
    rw [hcase] at hstage
    cases hstage
  | invoking | recording | done =>
    cases outcome <;> simp only [CronTask.step, hcase, reduceCtorEq] at hmove
    all_goals rw [← Option.some.inj hmove]; rfl

/-! ### One step -/

/-- The server moves on, and nothing is selected or started. -/
theorem Faithful.move (hh : h.Faithful) {server : CronScheduler} (hserver : Orderly server)
    (hkept : ∀ tick, h.IsKept tick → IsKept { h with server } tick)
    (htasks : ∀ task ∈ h.server.tasks, task.stage.isWaiting = false → task ∈ server.tasks) :
    Faithful { h with server } where
  orderly := hserver
  once := hh.once
  kept tick htick := hkept tick (hh.kept tick htick)
  started task htask := by
    obtain ⟨task', htask', hrun, hcron, hstage⟩ := hh.started task htask
    exact ⟨task', htasks task' htask' hstage, hrun, hcron, hstage⟩

theorem Faithful.select (hh : h.Faithful) {p : Cron → Bool} (hfree : h.isFree p = true) :
    Faithful
      { server := { h.server with
          passes := h.server.passes ++ [⟨h.server.tables.crons.filter p, [], false⟩] }
        selected := h.selected ++ (h.server.tables.crons.filter p).filterMap Cron.tick
        started := h.started ++ [] } := by
  rw [List.append_nil]
  refine ⟨hh.orderly.select hfree, hh.once, fun tick htick => ?_, hh.started⟩
  rcases List.mem_append.mp htick with htick | htick
  · exact hh.kept tick htick
  · obtain ⟨cron, hcron, htick⟩ := List.mem_filterMap.mp htick
    exact .inl (List.mem_filterMap.mpr ⟨cron, List.mem_of_mem_filter hcron, htick⟩)

theorem Faithful.executeCron
    (hnext : ∀ schedule now next, setting.croniter.getNext schedule now = some next → now < next)
    (hh : h.Faithful) {i : ℕ} {runId newThreadId : String} {now : ℕ} {flushed : Bool}
    (ha : h.isUndisturbed setting (.executeCron i runId newThreadId now flushed) = true)
    {server : CronScheduler}
    (hstep : h.server.step setting (.executeCron i runId newThreadId now flushed) = some server) :
    Faithful { h with server } := by
  obtain ⟨cron, due, executions, failed, hpass, -, -, -, hserver⟩ :=
    CronScheduler.step_executeCron hstep
  have hissued := hh.orderly.issue (runId :: h.server.runIds) (newThreadId :: h.server.threadIds)
  have halone := hh.orderly.alone _ (List.mem_of_getElem? hpass)
  simp only [isUndisturbed, hpass] at ha
  rcases hserver with ⟨hok, rfl⟩ | ⟨hok, rfl⟩
  · rw [(Bool.and_eq_true_iff.mp hok).1, if_pos rfl] at ha
    obtain ⟨hcron, htasks⟩ := Bool.and_eq_true_iff.mp ha
    -- `croniter` goes on from the time of the execution
    have hadvanced : ∀ date : Option ℕ, date.all (· ≤ now) = true →
        Advanced date (cron.execution setting.croniter now runId newThreadId).nextRunDate := by
      intro date hdate m hm n hn
      have hmnow : m ≤ now := by simpa using Option.all_eq_true .. |>.mp hdate m hm
      exact Nat.lt_of_le_of_lt hmnow (hnext _ _ _ hn)
    refine hh.move (hissued.execute hpass rfl (hadvanced _ hcron) fun task htask hid => ?_)
      (fun tick htick => ?_) fun task htask _ => List.mem_append_left _ htask
    · refine hadvanced _ ?_
      have htask := List.all_eq_true.mp htasks task htask
      simpa [hid] using htask
    · refine htick.imp_right (Or.imp_left ?_)
      rintro ⟨task, htask, hwaiting⟩
      exact ⟨task, List.mem_append_left _ htask, hwaiting⟩
  · cases failed with
    | true => cases (halone rfl).1
    | false =>
      rw [Bool.not_false, Bool.and_true] at hok
      rw [hok, if_neg Bool.false_ne_true, Bool.and_eq_true, List.isEmpty_iff, List.isEmpty_iff]
        at ha
      obtain ⟨rfl, rfl⟩ := ha
      exact hh.move (hissued.release hpass rfl true) (fun _ => id) fun _ htask _ => htask

theorem Faithful.commit (hh : h.Faithful) {i : ℕ} {committed : Bool}
    (ha : h.isUndisturbed setting (.commit i committed) = true) {server : CronScheduler}
    (hstep : h.server.step setting (.commit i committed) = some server) :
    Faithful { h with server } := by
  rw [CronScheduler.step.eq_def] at hstep
  dsimp only at hstep
  split at hstep
  · rename_i executions failed hpass
    obtain rfl := (Option.some.inj hstep).symm
    have horderly := hh.orderly
    simp only [isUndisturbed, hpass, Bool.or_eq_true, Bool.and_eq_true, List.isEmpty_iff] at ha
    by_cases hnone : executions = []
    · subst hnone
      rw [List.foldlM_nil, Option.pure_def, Option.getD_some, ite_self]
      exact hh.move (horderly.release hpass rfl false) (fun _ => id) fun _ htask _ => htask
    · obtain ⟨hcommitted, hcommits⟩ := ha.resolve_left hnone
      have hfailed : failed = false := by
        cases failed with
        | true => exact absurd (horderly.alone _ (List.mem_of_getElem? hpass) rfl).2 hnone
        | false => rfl
      obtain ⟨tables, htables⟩ := Option.isSome_iff_exists.mp hcommits
      rw [hcommitted, hfailed, htables, Bool.not_false, Bool.and_true, if_pos rfl,
        Option.getD_some]
      have hc := commits_of_foldlM htables
      refine hh.move (horderly.commit hpass hc) (fun tick htick => ?_) fun _ htask _ => htask
      refine Or.elim htick (fun hrow => ?_) .inr
      obtain ⟨row, hrow, htick⟩ := List.mem_filterMap.mp hrow
      by_cases hid : row.cronId ∈ executions.map CronExecution.cronId
      · obtain ⟨e, he, heid⟩ := List.mem_map.mp hid
        obtain ⟨task, htask, hserves⟩ := horderly.served _ (List.mem_of_getElem? hpass) e he
        -- the task of the execution has the row as it was
        obtain rfl : task.cron = row := List.inj_on_of_nodup_map horderly.key hserves.row hrow
          (hserves.cronId.symm.trans heid)
        exact .inr (.inl ⟨task, htask, hserves.waiting, htick⟩)
      · exact .inl (List.mem_filterMap.mpr ⟨row, hc.old row hrow hid, htick⟩)
  · cases hstep

/-- A task stays where it is with respect to its graph. -/
theorem Faithful.runTask_of_isWaiting (hh : h.Faithful) {i : ℕ}
    (htask : h.server.tasks[i]? = some task) {tables : CronTables} {stage : CronTaskStage}
    {executed : List (String × String)} (hcrons : tables.crons = h.server.tables.crons)
    (hruns : tables.db.runs.map Run.runId = h.server.tables.db.runs.map Run.runId)
    (hstage : stage.isWaiting = task.stage.isWaiting) :
    Faithful { h with server := { h.server with
      tables, tasks := h.server.tasks.set i { task with stage }, executed } } := by
  have hset : ∀ task' ∈ h.server.tasks, ∃ task'' ∈ h.server.tasks.set i { task with stage },
      task''.runId = task'.runId ∧ task''.cron = task'.cron ∧
        task''.stage.isWaiting = task'.stage.isWaiting := by
    intro task' htask'
    obtain ⟨j, hj⟩ := List.mem_iff_getElem?.mp htask'
    by_cases hji : j = i
    · subst hji
      obtain rfl := Option.some.inj (htask.symm.trans hj)
      exact ⟨_, mem_set_self htask, rfl, rfl, hstage⟩
    · exact ⟨task', mem_set_of_ne hj hji, rfl, rfl, rfl⟩
  refine ⟨hh.orderly.moveTask htask hcrons hruns (.inl hstage), hh.once, fun tick htick => ?_,
    fun task' htask' => ?_⟩
  · rcases hh.kept tick htick with hrow | ⟨task', htask', hwaiting, htick⟩ | hstarted
    · exact .inl (hcrons ▸ hrow)
    · obtain ⟨task'', htask'', -, hcron, hstage'⟩ := hset task' htask'
      exact .inr (.inl ⟨task'', htask'', hstage'.trans hwaiting, hcron ▸ htick⟩)
    · exact .inr (.inr hstarted)
  · obtain ⟨task₁, htask₁, hrun, hcron, hstage₁⟩ := hh.started task' htask'
    obtain ⟨task₂, htask₂, hrun', hcron', hstage₂⟩ := hset task₁ htask₁
    exact ⟨task₂, htask₂, hrun'.trans hrun, hcron'.trans hcron, hstage₂.trans hstage₁⟩

/-- A task executes its graph after the commit of its run. -/
theorem Faithful.start (hh : h.Faithful) {i : ℕ} (htask : h.server.tasks[i]? = some task)
    (hmarking : task.stage = .marking)
    (hcommitted : ∀ pass ∈ h.server.passes, ∀ e ∈ pass.executions, e.run.runId ≠ task.runId)
    {tables : CronTables} {executed : List (String × String)}
    (hcrons : tables.crons = h.server.tables.crons)
    (hruns : tables.db.runs.map Run.runId = h.server.tables.db.runs.map Run.runId) :
    Faithful
      { h with
        server := { h.server with
          tables, tasks := h.server.tasks.set i { task with stage := .invoking }, executed }
        started := h.started ++ [task] } := by
  have hmem := List.mem_of_getElem? htask
  refine ⟨hh.orderly.moveTask htask hcrons hruns (.inr hcommitted), ?_, fun tick htick => ?_, ?_⟩
  · rw [List.filterMap_append, List.nodup_append]
    refine ⟨hh.once, ?_, ?_⟩
    · cases htick : task.cron.tick <;> simp [htick]
    · -- the tick has one task, and this one has not been started
      intro tick hstarted tick' htick' heq
      subst heq
      obtain ⟨task', htask', htick⟩ := List.mem_filterMap.mp hstarted
      obtain ⟨task₁, htask₁, -, hcron, hstage⟩ := hh.started task' htask'
      obtain ⟨j, hj⟩ := List.mem_iff_getElem?.mp htask₁
      have htick' : task.cron.tick = some tick := by simpa using htick'
      obtain rfl := hh.orderly.ticks _ _ _ _ htask hj tick htick' (hcron ▸ htick)
      obtain rfl := Option.some.inj (htask.symm.trans hj)
      rw [hmarking] at hstage
      cases hstage
  · rcases hh.kept tick htick with hrow | ⟨task', htask', hwaiting, htick⟩ | hstarted
    · exact .inl (hcrons ▸ hrow)
    · obtain ⟨j, hj⟩ := List.mem_iff_getElem?.mp htask'
      by_cases hji : j = i
      · subst hji
        obtain rfl := Option.some.inj (htask.symm.trans hj)
        refine .inr (.inr (List.mem_filterMap.mpr ⟨task, ?_, htick⟩))
        exact List.mem_append_right _ (List.mem_singleton_self _)
      · exact .inr (.inl ⟨task', mem_set_of_ne hj hji, hwaiting, htick⟩)
    · refine .inr (.inr ?_)
      rw [List.filterMap_append]
      exact List.mem_append_left _ hstarted
  · refine forall_append ⟨_, mem_set_self htask, rfl, rfl, rfl⟩ fun task' htask' => ?_
    obtain ⟨task₁, htask₁, hrun, hcron, hstage⟩ := hh.started task' htask'
    obtain ⟨j, hj⟩ := List.mem_iff_getElem?.mp htask₁
    have hji : j ≠ i := by
      rintro rfl
      obtain rfl := Option.some.inj (htask.symm.trans hj)
      rw [hmarking] at hstage
      cases hstage
    exact ⟨task₁, mem_set_of_ne hj hji, hrun, hcron, hstage⟩

theorem starts_of_not_marking {i : ℕ} (htask : h.server.tasks[i]? = some task)
    (hstage : task.stage ≠ .marking) : h.starts (.runTask i outcome) = [] := by
  rw [starts.eq_def]
  split
  · rename_i heq
    cases heq
    rw [htask]
    split
    · rename_i heq
      cases heq
      exact absurd rfl hstage
    · rfl
  · rfl

theorem Faithful.runTask (hh : h.Faithful) {i : ℕ}
    (ha : h.isUndisturbed setting (.runTask i outcome) = true) {server : CronScheduler}
    (hstep : h.server.step setting (.runTask i outcome) = some server) :
    Faithful { h with server, started := h.started ++ h.starts (.runTask i outcome) } := by
  obtain ⟨⟨runId, cron, stage⟩, next, htask, hmove, tables, executed, hcrons, hruns, rfl⟩ :=
    step_runTask hstep
  cases stage with
  | loading =>
    rw [starts_of_not_marking htask (by simp), List.append_nil]
    refine hh.runTask_of_isWaiting htask hcrons hruns ?_
    simp only [isUndisturbed, htask] at ha
    cases outcome with
    | loads found =>
      obtain ⟨rfl, hgraph⟩ := Bool.and_eq_true_iff.mp ha
      rcases CronTask.step_loads_cases rfl hmove with ⟨-, -, rfl⟩ | ⟨hnot, -⟩
      · rfl
      · rw [Bool.and_true] at hnot
        exact absurd (hgraph.symm.trans hnot) Bool.noConfusion
    | returns | raises | updates => cases ha
  | marking =>
    obtain ⟨⟨committed, rfl⟩, hnext⟩ := step_marks rfl hmove
    simp only [isUndisturbed, htask, List.all_eq_true, decide_eq_true_eq] at ha
    have hstarts : h.starts (.runTask i (.updates committed)) = [⟨runId, cron, .marking⟩] := by
      simp only [starts, htask]
    rw [hstarts, hnext]
    exact hh.start htask rfl ha hcrons hruns
  | invoking | recording | done =>
    rw [starts_of_not_marking htask (by simp), List.append_nil]
    exact hh.runTask_of_isWaiting htask hcrons hruns (step_of_not_waiting rfl hmove)

/-- **The invariant** is kept by every undisturbed step. -/
theorem faithful_step
    (hnext : ∀ schedule now next, setting.croniter.getNext schedule now = some next → now < next)
    (a : PassLabel) (hh : h.Faithful) (ha : h.isUndisturbed setting a = true)
    (hstep : step setting h a = some h') : h'.Faithful := by
  obtain ⟨server, hserver, rfl⟩ := Option.map_eq_some_iff.mp hstep
  cases a with
  | selectDue now =>
    cases hserver
    exact hh.select ha
  | trigger cronId =>
    cases hserver
    exact hh.select ha
  | executeCron i runId newThreadId now flushed =>
    show Faithful ⟨server, h.selected ++ [], h.started ++ []⟩
    rw [List.append_nil, List.append_nil]
    exact hh.executeCron hnext ha hserver
  | commit i committed =>
    show Faithful ⟨server, h.selected ++ [], h.started ++ []⟩
    rw [List.append_nil, List.append_nil]
    exact hh.commit ha hserver
  | runTask i outcome =>
    show Faithful ⟨server, h.selected ++ [], h.started ++ h.starts (.runTask i outcome)⟩
    rw [List.append_nil]
    exact hh.runTask ha hserver

/-! ### The law of a run -/

/-- No cron has been selected yet. -/
theorem faithful_idle {tables : CronTables} (hkey : (tables.crons.map Cron.cronId).Nodup) :
    (idle tables).Faithful where
  orderly :=
    { key := hkey
      holder := fun i j p q hp => by cases hp
      once := List.forall_mem_nil _
      alone := List.forall_mem_nil _
      due := List.forall_mem_nil _
      served := List.forall_mem_nil _
      ahead := List.forall_mem_nil _
      tasks := List.forall_mem_nil _
      ticks := fun i j a b ha => by cases ha }
  once := List.nodup_nil
  kept := List.forall_mem_nil _
  started := List.forall_mem_nil _

/-- **Every tick once.** While nothing disturbs a tick, each tick that is selected is executed once
or still waits, and only after its run and the next date of its cron have been committed. -/
theorem ticks_once
    (hnext : ∀ schedule now next, setting.croniter.getNext schedule now = some next → now < next)
    {tables : CronTables} (hkey : (tables.crons.map Cron.cronId).Nodup) {labels : List PassLabel}
    (hlabels : Along (step setting) (fun h a => h.isUndisturbed setting a = true) (idle tables)
      labels)
    (hrun : exec (step setting) (idle tables) labels = some h) : h.TicksOnce :=
  (exec_invariant (fun _ a _ hh ha hstep => faithful_step hnext a hh ha hstep)
    (faithful_idle hkey) hlabels hrun).ticksOnce

/-! ### Two schedulers -/

/-- A cron for every hour, the first of which is due. -/
def hourlyTables : CronTables where
  db := CronScheduler.exampleTables.db
  crons := [⟨"cron", "agent", none, "alice", "0 * * * *", [], some 1, none⟩]
  crons_thread := by simp

/-- A pass, its commit, and the task that it starts. -/
def onePass : List PassLabel :=
  [.selectDue 1, .executeCron 0 "run" "thread" 1 true, .commit 0 true, .runTask 0 (.loads true),
    .runTask 0 (.updates true), .runTask 0 (.returns none), .runTask 0 (.updates true)]

theorem ticks_once_one_pass :
    ((exec (step CronScheduler.exampleSetting) (idle hourlyTables) onePass).get
      (by decide)).TicksOnce := by
  have hnext : ∀ schedule now next,
      CronScheduler.exampleSetting.croniter.getNext schedule now = some next → now < next :=
    fun _ now _ h => Option.some.inj h ▸ Nat.lt_succ_self now
  have hkey : (hourlyTables.crons.map Cron.cronId).Nodup := by decide
  have hlabels : Along (step CronScheduler.exampleSetting)
      (fun h a => h.isUndisturbed CronScheduler.exampleSetting a = true) (idle hourlyTables)
      onePass := by decide
  exact ticks_once hnext hkey hlabels (Option.some_get _).symm

/-- The pass of a second scheduler selects the tick before the first commits. -/
def twoPasses : List PassLabel :=
  [.selectDue 1, .selectDue 1, .executeCron 0 "run-a" "thread-a" 1 true, .commit 0 true,
    .executeCron 1 "run-b" "thread-b" 1 true, .commit 1 true, .runTask 0 (.loads true),
    .runTask 0 (.updates true), .runTask 1 (.loads true), .runTask 1 (.updates true)]

/-- Both passes execute the tick. -/
theorem tick_twice :
    ¬ ∀ (setting : CronSetting), (∀ schedule now next,
        setting.croniter.getNext schedule now = some next → now < next) →
      ∀ (tables : CronTables), (tables.crons.map Cron.cronId).Nodup →
      ∀ (labels : List PassLabel) (h : CronHistory),
        exec (step setting) (idle tables) labels = some h → h.TicksOnce := by
  intro hlaw
  have hnext : ∀ schedule now next,
      CronScheduler.exampleSetting.croniter.getNext schedule now = some next → now < next :=
    fun _ now _ h => Option.some.inj h ▸ Nat.lt_succ_self now
  have hrun : (exec (step CronScheduler.exampleSetting) (idle hourlyTables) twoPasses).any
      (fun h => (h.started.filterMap fun task => task.cron.tick) = [("cron", 1), ("cron", 1)]) =
        true := by
    decide
  obtain ⟨h, hh, hstarted⟩ := (Option.any_eq_true _ _).mp hrun
  have honce := (hlaw _ hnext hourlyTables (by decide) twoPasses h hh).once
  rw [of_decide_eq_true hstarted] at honce
  exact absurd honce (by decide)

end CronHistory

end OpenLangGraph

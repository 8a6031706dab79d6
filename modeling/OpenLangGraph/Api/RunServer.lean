import OpenLangGraph.Api.RunRequests
import OpenLangGraph.Foundation.Processes
import OpenLangGraph.Foundation.Transition

/-!
# The run server

The requests and background tasks of one server process as a labelled transition system over the
database. A label names the process that moves, and what the outside world answers it.

A disconnecting consumer with `on_disconnect=cancel` cancels the task of its run; no other step of
a consumer concerns the tables.

## Main definitions

* `Server`, `Label`, `Server.step`
* `Server.Owned` — every run is driven by one process at a time, which has its row

## Main results

* `Server.step_create`, `Server.step_execute`, `Server.step_control`, `Server.step_observe` — what
  the step of a process does
* `Server.owned_step` — the rows of the processes are there, in every reachable state
-/

namespace OpenLangGraph

open Runs Transition Processes

/-! ### The server -/

structure Server where
  db : Database
  tasks : List Task
  creations : List Creation
  controls : List Control
  observers : List Observer

/-- What the server is started with. -/
structure Setting where
  registry : Registry
  jsonb : Jsonb

/-- A new request, or a step of a process, known by its position. -/
inductive Label
  | requestRun (kind : CreationKind) (user : User) (threadId : String) (request : RunCreate)
      (runId : String)
  | create (i : ℕ)
  | execute (i : ℕ) (outcome : Outcome)
  /-- a consumer disconnects whose run was created with `on_disconnect=cancel` -/
  | disconnect (runId : String)
  | requestControl (endpoint : ControlEndpoint) (user : User) (threadId runId : String)
  | control (i : ℕ) (ok : Bool)
  | requestObserver (kind : ObserverKind) (user : User) (threadId runId : String)
  | observe (i : ℕ) (timeout : Bool)

/-- `task.cancel()` for the task of a run, unless it is done. -/
def cancelTask (tasks : List Task) (runId : String) : List Task :=
  tasks.map fun task =>
    if task.runId = runId && !task.isDone then { task with cancelRequested := true } else task

theorem forall_cancelTask {P : Task → Prop} {tasks : List Task} (runId : String)
    (hP : ∀ task, P task → P { task with cancelRequested := true }) (h : ∀ task ∈ tasks, P task) :
    ∀ task ∈ cancelTask tasks runId, P task := by
  intro task' htask'
  obtain ⟨task, htask, rfl⟩ := List.mem_map.mp htask'
  split
  · exact hP task (h task htask)
  · exact h task htask

theorem countP_cancelTask {p : Task → Bool} (tasks : List Task) (runId : String)
    (hp : ∀ task, p { task with cancelRequested := true } = p task) :
    (cancelTask tasks runId).countP p = tasks.countP p := by
  rw [cancelTask, List.countP_map]
  refine List.countP_congr fun task _ => ?_
  rw [Function.comp_apply]
  split
  · rw [hp]
  · rfl

namespace Server

/-- A server that has just been started. -/
def idle (db : Database) : Server := ⟨db, [], [], [], []⟩

def step (setting : Setting) (s : Server) : Label → Option Server
  | .requestRun kind user threadId request runId =>
    some { s with creations := s.creations ++ [⟨kind, user, threadId, request, runId, .checking⟩] }
  | .create i => do
    let c ← s.creations[i]?
    let (db, stage) ← c.step setting.registry s.db
    return { s with db, tasks := s.tasks ++ c.spawned
                    creations := s.creations.set i { c with stage } }
  | .execute i outcome => do
    let task ← s.tasks[i]?
    let (db, task) ← task.step setting.jsonb s.db outcome
    return { s with db, tasks := s.tasks.set i task }
  | .disconnect runId =>
    some { s with tasks := if (activeTask s.tasks runId).isSome then cancelTask s.tasks runId
                           else s.tasks }
  | .requestControl endpoint user threadId runId =>
    some { s with controls := s.controls ++ [⟨endpoint, user, threadId, runId, .reading⟩] }
  | .control i ok => do
    let c ← s.controls[i]?
    let (db, stage) ← c.step s.db s.tasks ok
    return { s with db, controls := s.controls.set i { c with stage } }
  | .requestObserver kind user threadId runId =>
    some { s with observers := s.observers ++ [⟨kind, user, threadId, runId, .reading⟩] }
  | .observe i timeout => do
    let o ← s.observers[i]?
    let (stage, cancels) ← o.step s.db s.tasks timeout
    return { s with tasks := if cancels then cancelTask s.tasks o.runId else s.tasks
                    observers := s.observers.set i { o with stage } }

variable {setting : Setting} {s s' : Server}

/-! ### What a step can do -/

theorem step_create {i : ℕ} (h : step setting s (.create i) = some s') :
    ∃ c db stage, s.creations[i]? = some c ∧ c.Moves s.db db stage ∧
      s' = { s with db, tasks := s.tasks ++ c.spawned
                    creations := s.creations.set i { c with stage } } := by
  obtain ⟨c, hc, h⟩ := Option.bind_eq_some_iff.mp h
  obtain ⟨⟨db, stage⟩, hstep, h⟩ := Option.bind_eq_some_iff.mp h
  exact ⟨c, db, stage, hc, Creation.moves_of_step hstep, (Option.some.inj h).symm⟩

theorem step_execute {i : ℕ} {outcome : Outcome}
    (h : step setting s (.execute i outcome) = some s') :
    ∃ task db task', s.tasks[i]? = some task ∧
      task.step setting.jsonb s.db outcome = some (db, task') ∧
      s' = { s with db, tasks := s.tasks.set i task' } := by
  obtain ⟨task, htask, h⟩ := Option.bind_eq_some_iff.mp h
  obtain ⟨⟨db, task'⟩, hstep, h⟩ := Option.bind_eq_some_iff.mp h
  exact ⟨task, db, task', htask, hstep, (Option.some.inj h).symm⟩

theorem step_disconnect {runId : String} (h : step setting s (.disconnect runId) = some s') :
    s' = s ∨ s' = { s with tasks := cancelTask s.tasks runId } := by
  rw [step] at h
  cases h
  by_cases hactive : (activeTask s.tasks runId).isSome = true
  · exact .inr (by rw [if_pos hactive])
  · exact .inl (by rw [if_neg hactive])

theorem step_control {i : ℕ} {ok : Bool} (h : step setting s (.control i ok) = some s') :
    ∃ c db stage, s.controls[i]? = some c ∧ c.step s.db s.tasks ok = some (db, stage) ∧
      s' = { s with db, controls := s.controls.set i { c with stage } } := by
  obtain ⟨c, hc, h⟩ := Option.bind_eq_some_iff.mp h
  obtain ⟨⟨db, stage⟩, hstep, h⟩ := Option.bind_eq_some_iff.mp h
  exact ⟨c, db, stage, hc, hstep, (Option.some.inj h).symm⟩

theorem step_observe {i : ℕ} {timeout : Bool}
    (h : step setting s (.observe i timeout) = some s') :
    ∃ o stage cancels, s.observers[i]? = some o ∧
      o.step s.db s.tasks timeout = some (stage, cancels) ∧
      s' = { s with tasks := if cancels then cancelTask s.tasks o.runId else s.tasks
                    observers := s.observers.set i { o with stage } } := by
  obtain ⟨o, ho, h⟩ := Option.bind_eq_some_iff.mp h
  obtain ⟨⟨stage, cancels⟩, hstep, h⟩ := Option.bind_eq_some_iff.mp h
  exact ⟨o, stage, cancels, ho, hstep, (Option.some.inj h).symm⟩

/-! ### Rows and their processes -/

/-- Every process that drives a run has the row of the run, and a run is driven by one process: by
the request that creates it until the task is started, and by the task from then on. -/
structure Owned (s : Server) : Prop where
  task_row : ∀ task ∈ s.tasks, (task.runId, task.threadId) ∈ s.db.keys
  creation_row : ∀ c ∈ s.creations, c.hasRow = true → (c.runId, c.threadId) ∈ s.db.keys
  unique : ∀ runId, s.tasks.countP (·.runId = runId) + s.creations.countP (·.drives runId) ≤ 1

theorem owned_idle (db : Database) : Owned (idle db) := by
  constructor <;> simp [idle]

/-- A run that has no row is driven by nobody. -/
theorem Owned.not_driven (hs : Owned s) {runId : String}
    (hnew : runId ∉ s.db.runs.map Run.runId) :
    s.tasks.countP (·.runId = runId) = 0 ∧ s.creations.countP (·.drives runId) = 0 := by
  constructor
  · rw [List.countP_eq_zero]
    rintro task htask hid
    obtain rfl : task.runId = runId := by simpa using hid
    exact hnew (Database.mem_ids_of_mem_keys (hs.task_row task htask))
  · rw [List.countP_eq_zero]
    rintro c hc hid
    obtain ⟨hrow, rfl⟩ := Creation.drives_eq_true.mp hid
    exact hnew (Database.mem_ids_of_mem_keys (hs.creation_row c hc hrow))

theorem owned_create {i : ℕ} {c : Creation} {db : Database} {stage : CreationStage}
    (hs : Owned s) (hc : s.creations[i]? = some c) (hmoves : c.Moves s.db db stage) :
    Owned { s with db, tasks := s.tasks ++ c.spawned
                   creations := s.creations.set i { c with stage } } := by
  have hmem := List.mem_of_getElem? hc
  have hcount := fun runId => countP_set_add (y := { c with stage }) (·.drives runId) hc
  rcases hmoves.row_cases with
    ⟨hspawned, hkeys, hrow⟩ | ⟨hspawned, hrow, hnew, hkeys⟩ | ⟨hspawned, rfl, hrow, hrow'⟩
  · refine ⟨?_, ?_, fun runId => ?_⟩
    · simpa [hspawned, hkeys] using hs.task_row
    · show ∀ c' ∈ s.creations.set i { c with stage }, c'.hasRow = true → _ ∈ db.keys
      rw [hkeys]
      exact forall_set (fun h => hs.creation_row c hmem (hrow h)) hs.creation_row
    · show (s.tasks ++ c.spawned).countP _ + (s.creations.set i { c with stage }).countP _ ≤ 1
      have hle : (if { c with stage }.drives runId then 1 else 0) ≤
          if c.drives runId then 1 else 0 := by
        by_cases h : { c with stage }.drives runId = true
        · obtain ⟨hrow', hid⟩ := Creation.drives_eq_true.mp h
          rw [Creation.drives_eq_true.mpr ⟨hrow hrow', hid⟩]
          split <;> simp
        · simp [h]
      rw [hspawned, List.append_nil]
      have := hs.unique runId
      have := hcount runId
      omega
  · have hkeep : ∀ key ∈ s.db.keys, key ∈ db.keys := by
      intro key hkey
      rw [hkeys]
      exact List.mem_append_left _ hkey
    refine ⟨?_, ?_, fun runId => ?_⟩
    · show ∀ task ∈ s.tasks ++ c.spawned, _ ∈ db.keys
      rw [hspawned, List.append_nil]
      exact fun task htask => hkeep _ (hs.task_row task htask)
    · refine forall_set (fun _ => ?_) fun c hc hrow => hkeep _ (hs.creation_row c hc hrow)
      show _ ∈ db.keys
      rw [hkeys]
      exact List.mem_append_right _ (List.mem_singleton_self _)
    · show (s.tasks ++ c.spawned).countP _ + (s.creations.set i { c with stage }).countP _ ≤ 1
      rw [hspawned, List.append_nil]
      have hcount := hcount runId
      by_cases hid : c.runId = runId
      · obtain ⟨htasks, hcreations⟩ := hs.not_driven (hid ▸ hnew)
        split at hcount <;> split at hcount <;> omega
      · have hno : { c with stage }.drives runId = false := by simp [Creation.drives, hid]
        have hno' : c.drives runId = false := by simp [Creation.drives, hid]
        rw [hno, hno'] at hcount
        have := hs.unique runId
        omega
  · refine ⟨?_, ?_, fun runId => ?_⟩
    · show ∀ task ∈ s.tasks ++ c.spawned, _ ∈ s.db.keys
      rw [hspawned]
      exact forall_append (hs.creation_row c hmem hrow) hs.task_row
    · exact forall_set (fun h => absurd h (by simp [hrow'])) hs.creation_row
    · show (s.tasks ++ c.spawned).countP _ + (s.creations.set i { c with stage }).countP _ ≤ 1
      have hcount := hcount runId
      have hno : { c with stage }.drives runId = false := by simp [Creation.drives, hrow']
      have hdrives : c.drives runId = decide (c.task.runId = runId) := by
        rw [Creation.drives, hrow]
        rfl
      simp only [hno, hdrives, Bool.false_eq_true, if_false] at hcount
      rw [hspawned, List.countP_append, List.countP_singleton]
      have := hs.unique runId
      omega

theorem owned_execute {i : ℕ} {outcome : Outcome} {task task' : Task} {db : Database}
    (hs : Owned s) (htask : s.tasks[i]? = some task)
    (hstep : task.step setting.jsonb s.db outcome = some (db, task')) :
    Owned { s with db, tasks := s.tasks.set i task' } := by
  obtain ⟨hrun, hthread, -⟩ := Task.step_cases hstep
  have hkeys := Task.keys_step hstep
  refine ⟨?_, ?_, fun runId => ?_⟩
  · show ∀ task ∈ s.tasks.set i task', (task.runId, task.threadId) ∈ db.keys
    rw [hkeys]
    refine forall_set ?_ hs.task_row
    rw [hrun, hthread]
    exact hs.task_row task (List.mem_of_getElem? htask)
  · show ∀ c ∈ s.creations, c.hasRow = true → (c.runId, c.threadId) ∈ db.keys
    rw [hkeys]
    exact hs.creation_row
  · show (s.tasks.set i task').countP _ + s.creations.countP _ ≤ 1
    have hcount := countP_set_add (y := task') (·.runId = runId) htask
    rw [hrun] at hcount
    have := hs.unique runId
    omega

theorem owned_cancelTask (hs : Owned s) (runId : String) :
    Owned { s with tasks := cancelTask s.tasks runId } := by
  refine ⟨forall_cancelTask runId (fun _ => id) hs.task_row, hs.creation_row, fun runId' => ?_⟩
  show (cancelTask s.tasks runId).countP _ + s.creations.countP _ ≤ 1
  rw [countP_cancelTask s.tasks runId fun _ => rfl]
  exact hs.unique runId'

/-- **Ownership** is kept by every step. -/
theorem owned_step (a : Label) (hs : Owned s) (h : step setting s a = some s') : Owned s' := by
  cases a with
  | requestRun kind user threadId request runId =>
    cases h
    refine ⟨hs.task_row, forall_append (by simp [Creation.hasRow]) hs.creation_row, fun r => ?_⟩
    simpa [Creation.drives, Creation.hasRow] using hs.unique r
  | create i =>
    obtain ⟨c, db, stage, hc, hmoves, rfl⟩ := step_create h
    exact owned_create hs hc hmoves
  | execute i outcome =>
    obtain ⟨task, db, task', htask, hstep, rfl⟩ := step_execute h
    exact owned_execute hs htask hstep
  | disconnect runId =>
    rcases step_disconnect h with rfl | rfl
    · exact hs
    · exact owned_cancelTask hs runId
  | requestControl endpoint user threadId runId =>
    cases h
    exact ⟨hs.task_row, hs.creation_row, hs.unique⟩
  | control i ok =>
    obtain ⟨c, db, stage, -, hstep, rfl⟩ := step_control h
    have hkeys := Control.keys_step hstep
    exact ⟨hkeys ▸ hs.task_row, hkeys ▸ hs.creation_row, hs.unique⟩
  | requestObserver kind user threadId runId =>
    cases h
    exact ⟨hs.task_row, hs.creation_row, hs.unique⟩
  | observe i timeout =>
    obtain ⟨o, stage, cancels, -, -, rfl⟩ := step_observe h
    cases cancels with
    | false => exact ⟨hs.task_row, hs.creation_row, hs.unique⟩
    | true =>
      have hcancel := owned_cancelTask hs o.runId
      exact ⟨hcancel.task_row, hcancel.creation_row, hcancel.unique⟩

end Server

/-- The labels of a creation request from its arrival to the start of the task. -/
def creationLabels (kind : CreationKind) (threadId runId : String) (i : ℕ) : List Label :=
  .requestRun kind ⟨"alice", none⟩ threadId (exampleRequest false) runId ::
    List.replicate 7 (.create i)

/-- The labels of a task whose graph ends without an output. -/
def taskLabels (i : ℕ) (interrupted : Bool) : List Label :=
  [.execute i .completes, .execute i .completes, .execute i (.ends interrupted (.dict [])),
    .execute i .completes, .execute i .completes, .execute i .completes]

/-- Alice's thread, and one graph. -/
def exampleSetting : Setting := ⟨exampleRegistry, ⟨fun _ => true⟩⟩

end OpenLangGraph

import OpenLangGraph.Api.RunServer

/-!
# The status of a finished run

Three parties write the status of a run without looking at it: the executor, the streaming service
and the control endpoints. A run that is cancelled after it has completed changes its status, and
this is meant: "an already completed run can be cancelled as well (only the status is updated)".
Apart from such a request a finished run stays as it finished.

## At rest

The executor of a run has written its final status before the run is finished, unless a control
request has declared the run finished while the executor was still at work, or an exception
leads from the end of the body into an `except` clause. `AtRest` is the condition on the first, and
`leavesFinished` names the second.

## Main definitions

* `Database.statusOf`, `Database.finished`
* `Server.AtRest`, `Server.controlWrite`, `Server.StaysFinished`

## Main results

* `Server.finished_stays` — only control requests change the status of a finished run at rest
-/

namespace OpenLangGraph

open Runs Transition Processes

/-! ### The stored status -/

namespace Database

variable {db db' : Database} {runId : String}

def statusOf (db : Database) (runId : String) : Option RunStatus := (db.run? runId).map (·.status)

/-- The stored status is completed, failed or cancelled. -/
def finished (db : Database) (runId : String) : Bool :=
  (db.statusOf runId).any RunStatus.isTerminal

theorem statusOf_of_runs (h : db'.runs = db.runs) : db'.statusOf runId = db.statusOf runId := by
  rw [statusOf, statusOf, run?, run?, h]

theorem statusOf_updateRunStatus (runId' : String) (status : RunStatus) (output : Option Json)
    (error : Option String) :
    (updateRunStatus db runId' status output error).statusOf runId =
      if runId = runId' then (db.statusOf runId).map fun _ => status else db.statusOf runId := by
  rw [statusOf, statusOf, updateRunStatus, run?_updateRuns]
  split
  · simp [Function.comp_def]
  · rfl

/-- A new run is not finished, and the others are as they were. -/
theorem statusOf_insertRun {run : Run} (h : db.insertRun run = some db') :
    db'.statusOf runId =
      (db.statusOf runId).or (if run.runId = runId then some run.status else none) := by
  rw [statusOf, statusOf, run?, run?, (insertRun_eq_some h).2.1, List.find?_append, Option.map_or]
  congr 1
  by_cases hid : run.runId = runId <;> simp [hid]

end Database

/-! ### The executor -/

namespace Task

variable {jsonb : Jsonb} {db db' : Database} {task task' : Task} {outcome : Outcome}
  {runId : String}

/-- The final status of the run has been written. -/
def isSettled (task : Task) : Bool :=
  match task.executor with
  | .created | .settingRunning | .streaming | .recording _ _ | .recordingCause _ => false
  | .releasing _ | .releasingCause _ | .signallingCause _ | .cleaning _ | .ended _ => true

/-- An exception leads into an `except` clause after the final status has been written. -/
def leavesFinished (task : Task) (outcome : Outcome) : Bool :=
  match outcome.cause?, task.executor with
  | some _, .releasing _ => true
  | some (_, applied), .recording _ _ => applied
  | _, _ => false

/-- A settled task writes no status of a run. -/
theorem write_settled (h : task.write jsonb db = some db') (hsettled : task.isSettled = true) :
    db'.runs = db.runs := by
  rcases write_cases h with ⟨_, _, _, -, hex⟩ | ⟨status, rfl, -⟩ | rfl
  · rcases hex with ⟨hex, -⟩ | ⟨_, _, hex, -⟩ | ⟨_, hex, -⟩ <;> simp [isSettled, hex] at hsettled
  · rfl
  · rfl

/-- A task that has written the final status stays settled and writes no status any more. -/
theorem step_settled (h : task.step jsonb db outcome = some (db', task'))
    (hleaves : task.leavesFinished outcome = false) (hsettled : task.isSettled = true) :
    task'.isSettled = true ∧ db'.runs = db.runs := by
  rcases (step_cases h).2.2 with ⟨hwrite, hnext⟩ | ⟨-, hex, -⟩ |
    ⟨cause, applied, hcause, hwrite, hnext⟩
  · refine ⟨?_, write_settled hwrite hsettled⟩
    cases hex : task.executor <;> simp [isSettled, hex] at hsettled <;>
      simp only [hex, Executor.next, Option.some.injEq, reduceCtorEq] at hnext <;>
      simp [isSettled, ← hnext]
  · simp [isSettled, hex] at hsettled
  · constructor
    · cases hex : task.executor <;> simp [isSettled, hex] at hsettled <;>
        simp only [hex, Executor.interruptedBy, Option.some.injEq, reduceCtorEq] at hnext <;>
        simp [isSettled, ← hnext]
      simp [leavesFinished, hcause, hex] at hleaves
    · cases applied with
      | false => exact Option.some.inj hwrite ▸ rfl
      | true => exact write_settled hwrite hsettled

/-- A statement that is not the last write of a status does not finish the run. -/
theorem write_unsettled (h : task.write jsonb db = some db')
    (hrecording : ∀ interrupted output, task.executor ≠ .recording interrupted output)
    (hcause : ∀ cause, task.executor ≠ .recordingCause cause)
    (hfinished : db.finished task.runId = false) : db'.finished task.runId = false := by
  rcases write_cases h with ⟨status, output, error, rfl, hex⟩ | ⟨status, rfl, -⟩ | rfl
  · rcases hex with ⟨-, rfl⟩ | ⟨interrupted, output, hex, -⟩ | ⟨cause, hex, -⟩
    · rw [Database.finished, Database.statusOf_updateRunStatus, if_pos rfl]
      cases db.statusOf task.runId <;> rfl
    · exact absurd hex (hrecording interrupted output)
    · exact absurd hex (hcause cause)
  · exact hfinished
  · exact hfinished

/-- A task settles before its run is finished. -/
theorem step_unsettled (h : task.step jsonb db outcome = some (db', task'))
    (hleaves : task.leavesFinished outcome = false)
    (hfinished : db.finished task.runId = false) :
    task'.isSettled = true ∨ db'.finished task.runId = false := by
  rcases (step_cases h).2.2 with ⟨hwrite, hnext⟩ | ⟨rfl, -⟩ |
    ⟨cause, applied, hcause, hwrite, hnext⟩
  · cases hex : task.executor with
    | recording | recordingCause =>
      simp only [hex, Executor.next, Option.some.injEq] at hnext
      exact .inl (by simp [isSettled, ← hnext])
    | created | settingRunning | streaming | releasing | releasingCause | signallingCause | cleaning
    | ended => exact .inr (write_unsettled hwrite (by simp [hex]) (by simp [hex]) hfinished)
  · exact .inr hfinished
  · cases applied with
    | false => exact .inr (Option.some.inj hwrite ▸ hfinished)
    | true =>
      cases hex : task.executor with
      | recording => simp [leavesFinished, hcause, hex] at hleaves
      | recordingCause =>
        simp only [hex, Executor.interruptedBy, Option.some.injEq] at hnext
        exact .inl (by simp [isSettled, ← hnext])
      | created | settingRunning | streaming | releasing | releasingCause | signallingCause
      | cleaning | ended =>
        exact .inr (write_unsettled hwrite (by simp [hex]) (by simp [hex]) hfinished)

/-- The statements of a task concern its own run. -/
theorem write_other (h : task.write jsonb db = some db') (hne : runId ≠ task.runId) :
    db'.statusOf runId = db.statusOf runId := by
  rcases write_cases h with ⟨status, output, error, rfl, -⟩ | ⟨status, rfl, -⟩ | rfl
  · rw [Database.statusOf_updateRunStatus, if_neg hne]
  · rfl
  · rfl

theorem step_other (h : task.step jsonb db outcome = some (db', task')) (hne : runId ≠ task.runId) :
    db'.statusOf runId = db.statusOf runId := by
  rcases (step_cases h).2.2 with ⟨hwrite, -⟩ | ⟨rfl, -⟩ | ⟨cause, applied, -, hwrite, -⟩
  · exact write_other hwrite hne
  · rfl
  · cases applied with
    | false => exact Option.some.inj hwrite ▸ rfl
    | true => exact write_other hwrite hne

end Task

/-- A creation request adds a run that is not finished, and changes no other status. -/
theorem Creation.Moves.statusOf {db db' : Database} {c : Creation} {stage : CreationStage}
    (h : c.Moves db db' stage) (runId : String) :
    db'.statusOf runId = db.statusOf runId ∨
      (db.statusOf runId = none ∧ db'.statusOf runId = some c.kind.status) := by
  cases h with
  | inserted _ _ hinsert | insertedBatch _ _ hinsert =>
    rw [Database.statusOf_insertRun hinsert]
    cases db.statusOf runId with
    | some status => exact .inl rfl
    | none =>
      by_cases hid : c.runId = runId
      · exact .inr ⟨rfl, if_pos hid⟩
      · exact .inl (if_neg hid)
  | setBusy | wrote | wroteBatch => exact .inl (Database.statusOf_of_runs rfl)
  | checked | rejected | resolved | resolvedBatch | read | failed | spawned => exact .inl rfl

theorem Creation.Moves.finished {db db' : Database} {c : Creation} {stage : CreationStage}
    (h : c.Moves db db' stage) (runId : String) : db'.finished runId = db.finished runId := by
  rw [Database.finished, Database.finished]
  rcases h.statusOf runId with heq | ⟨hnone, hsome⟩
  · rw [heq]
  · rw [hnone, hsome]
    cases c.kind <;> rfl

/-! ### The run at rest -/

/-- The status that a control request writes to the run when its next await succeeds. -/
def Control.writes (c : Control) (runId : String) : Option RunStatus :=
  match c.stage with
  | .sharing | .writing =>
    if c.runId = runId then c.endpoint.action.map ControlAction.status else none
  | _ => none

namespace Server

variable {setting : Setting} {s s' : Server} {runId : String} {a : Label}

/-- The executor of the run is not to write its status any more: the task is settled, and no
creation request is about to start it. -/
def AtRest (runId : String) (s : Server) : Prop :=
  (∀ task ∈ s.tasks, task.runId = runId → task.isSettled = true) ∧
    ∀ c ∈ s.creations, c.drives runId = false

/-- The status that a step of a control request writes to the run. -/
def controlWrite (runId : String) (s : Server) : Label → Option RunStatus
  | .control i _ => s.controls[i]?.bind (·.writes runId)
  | _ => none

/-- The step is not an exception that leads the executor of the run from the end of its body into
an `except` clause. -/
def KeepsBody (runId : String) (s : Server) (a : Label) : Prop :=
  ∀ i outcome task, a = .execute i outcome → s.tasks[i]? = some task → task.runId = runId →
    task.leavesFinished outcome = false

/-- A step on a finished run at rest keeps its status, or is a control request that sets the status
it asks for; and whoever finishes a run but a control request brings it to rest. -/
def StaysFinished (setting : Setting) (runId : String) (s : Server) (a : Label) : Prop :=
  ∀ s', s.step setting a = some s' → s.KeepsBody runId a →
    (s.db.finished runId = true → s.AtRest runId →
      (s'.db.statusOf runId = s.db.statusOf runId ∨
        ∃ written, s.controlWrite runId a = some written ∧
          s'.db.statusOf runId = some written) ∧
      (s'.db.finished runId = true → s'.AtRest runId)) ∧
    (s.db.finished runId = false → s'.db.finished runId = true → s.controlWrite runId a = none →
      s'.AtRest runId)

/-- Every process has its row, and a run that is finished is at rest. -/
structure RestsWhenFinished (runId : String) (s : Server) : Prop where
  owned : s.Owned
  atRest : s.db.finished runId = true → s.AtRest runId

/-- A finished run has a row, so no request is about to add it. -/
theorem mem_ids_of_finished {db : Database} (h : db.finished runId = true) :
    runId ∈ db.runs.map Run.runId := by
  obtain ⟨status, hstatus, -⟩ := (Option.any_eq_true _ _).mp h
  obtain ⟨run, hrun, -⟩ := Option.map_eq_some_iff.mp hstatus
  exact List.mem_map.mpr ⟨run, List.mem_of_find?_eq_some hrun, by simpa using List.find?_some hrun⟩

theorem rests_create {i : ℕ} {c : Creation} {db : Database} {stage : CreationStage}
    (hs : RestsWhenFinished runId s) (hc : s.creations[i]? = some c)
    (hmoves : c.Moves s.db db stage) :
    RestsWhenFinished runId { s with db, tasks := s.tasks ++ c.spawned
                                     creations := s.creations.set i { c with stage } } := by
  refine ⟨owned_create hs.owned hc hmoves, fun hfinished => ?_⟩
  have hfinished : s.db.finished runId = true := hmoves.finished runId ▸ hfinished
  obtain ⟨htasks, hcreations⟩ := hs.atRest hfinished
  have hidle := hcreations c (List.mem_of_getElem? hc)
  rcases hmoves.row_cases with
    ⟨hspawned, -, hrow⟩ | ⟨hspawned, -, hnew, -⟩ | ⟨hspawned, -, hrow, hrow'⟩
  · refine ⟨by rwa [hspawned, List.append_nil], forall_set ?_ hcreations⟩
    rw [← Bool.not_eq_true]
    intro hdrives
    obtain ⟨hrow', hid⟩ := Creation.drives_eq_true.mp hdrives
    rw [Creation.drives_eq_true.mpr ⟨hrow hrow', hid⟩] at hidle
    cases hidle
  · refine ⟨by rwa [hspawned, List.append_nil], forall_set ?_ hcreations⟩
    have hne : c.runId ≠ runId := fun hid => hnew (hid ▸ mem_ids_of_finished hfinished)
    simp [Creation.drives, hne]
  · refine ⟨?_, forall_set (by simp [Creation.drives, hrow']) hcreations⟩
    show ∀ task ∈ s.tasks ++ c.spawned, _
    rw [hspawned]
    refine forall_append (fun hid => ?_) htasks
    simp [Creation.drives, hrow, show c.runId = runId from hid] at hidle

/-- The task that moves is the only process that drives its run. -/
theorem Owned.only_task {i : ℕ} {task : Task} (hs : Owned s) (htask : s.tasks[i]? = some task) :
    (∀ j task', s.tasks[j]? = some task' → task'.runId = task.runId → j = i) ∧
      ∀ c ∈ s.creations, c.drives task.runId = false := by
  have hunique := hs.unique task.runId
  have hpos := one_le_countP (p := fun t => t.runId = task.runId) (List.mem_of_getElem? htask)
    (by simp)
  constructor
  · intro j task' htask' hid
    have hle : s.tasks.countP (·.runId = task.runId) ≤ 1 := by omega
    exact eq_of_countP_le_one hle htask' (by simpa using hid) htask (by simp)
  · have hzero : s.creations.countP (·.drives task.runId) = 0 := by omega
    simpa using List.countP_eq_zero.mp hzero

theorem rests_execute {i : ℕ} {outcome : Outcome} {task task' : Task} {db : Database}
    (hs : RestsWhenFinished runId s) (htask : s.tasks[i]? = some task)
    (hstep : task.step setting.jsonb s.db outcome = some (db, task'))
    (hleaves : task.runId = runId → task.leavesFinished outcome = false) :
    RestsWhenFinished runId { s with db, tasks := s.tasks.set i task' } ∧
      (s.db.finished runId = true → db.statusOf runId = s.db.statusOf runId) := by
  have howned := owned_execute hs.owned htask hstep
  have hrun := (Task.step_cases hstep).1
  have hmem := List.mem_of_getElem? htask
  by_cases hid : task.runId = runId
  · subst hid
    obtain ⟨honly, hcreations⟩ := hs.owned.only_task htask
    -- the other tasks of the run need no thought: there are none
    have hrest : task'.isSettled = true →
        AtRest task.runId { s with db, tasks := s.tasks.set i task' } := by
      refine fun hsettled => ⟨fun other hother hid => ?_, hcreations⟩
      rcases mem_set_cases hother with rfl | ⟨j, hji, hj⟩
      · exact hsettled
      · exact absurd (honly j other hj hid) hji
    cases hsettled : task.isSettled with
    | false =>
      have hunfinished : s.db.finished task.runId = false := by
        rw [← Bool.not_eq_true]
        intro hfinished
        rw [(hs.atRest hfinished).1 task hmem rfl] at hsettled
        cases hsettled
      refine ⟨⟨howned, fun hfinished => ?_⟩, by simp [hunfinished]⟩
      rcases Task.step_unsettled hstep (hleaves rfl) hunfinished with hsettled' | hunfinished'
      · exact hrest hsettled'
      · exact absurd hfinished (by simp [hunfinished'])
    | true =>
      obtain ⟨hsettled', hruns⟩ := Task.step_settled hstep (hleaves rfl) hsettled
      exact ⟨⟨howned, fun _ => hrest hsettled'⟩, fun _ => Database.statusOf_of_runs hruns⟩
  · have hstatus := Task.step_other hstep (Ne.symm hid)
    refine ⟨⟨howned, fun hfinished => ?_⟩, fun _ => hstatus⟩
    have hfinished : s.db.finished runId = true := by
      rwa [Database.finished, hstatus] at hfinished
    obtain ⟨htasks, hcreations⟩ := hs.atRest hfinished
    exact ⟨forall_set (fun h => absurd (hrun ▸ h) hid) htasks, hcreations⟩

/-- A control request leaves the status as it is or writes it. -/
theorem statusOf_control {i : ℕ} {ok : Bool} {c : Control} {db : Database} {stage : ControlStage}
    (hc : s.controls[i]? = some c) (hstep : c.step s.db s.tasks ok = some (db, stage)) :
    db.statusOf runId = s.db.statusOf runId ∨
      ∃ written, s.controlWrite runId (.control i ok) = some written ∧
        db.statusOf runId = (s.db.statusOf runId).map fun _ => written := by
  rcases Control.step_cases hstep with rfl | ⟨action, haction, hstage, rfl⟩
  · exact .inl rfl
  · rw [Database.statusOf_updateRunStatus]
    by_cases hid : runId = c.runId
    · refine .inr ⟨action.status, ?_, if_pos hid⟩
      rcases hstage with hstage | hstage <;>
        simp [controlWrite, hc, Control.writes, hstage, hid, haction]
    · exact .inl (if_neg hid)

/-- What is at rest when it is finished stays so, if a control request writes only at rest. -/
theorem rests_step (hs : RestsWhenFinished runId s) (hbody : s.KeepsBody runId a)
    (hwrite : s.controlWrite runId a ≠ none → s.AtRest runId) (h : s.step setting a = some s') :
    RestsWhenFinished runId s' := by
  have howned := owned_step a hs.owned h
  cases a with
  | requestRun kind user threadId request runId' =>
    cases h
    refine ⟨howned, fun hfinished => ⟨(hs.atRest hfinished).1, ?_⟩⟩
    exact forall_append (by simp [Creation.drives, Creation.hasRow]) (hs.atRest hfinished).2
  | create i =>
    obtain ⟨c, db, stage, hc, hmoves, rfl⟩ := step_create h
    exact rests_create hs hc hmoves
  | execute i outcome =>
    obtain ⟨task, db, task', htask, hstep, rfl⟩ := step_execute h
    exact (rests_execute hs htask hstep (hbody i outcome task rfl htask)).1
  | disconnect runId' =>
    rcases step_disconnect h with rfl | rfl
    · exact hs
    · refine ⟨howned, fun hfinished => ⟨?_, (hs.atRest hfinished).2⟩⟩
      exact forall_cancelTask runId' (fun _ => id) (hs.atRest hfinished).1
  | requestControl endpoint user threadId runId' =>
    cases h
    exact ⟨howned, hs.atRest⟩
  | control i ok =>
    obtain ⟨c, db, stage, hc, hstep, rfl⟩ := step_control h
    refine ⟨howned, fun hfinished => ?_⟩
    rcases statusOf_control hc hstep with heq | ⟨written, hwritten, -⟩
    · exact hs.atRest (by rwa [Database.finished, heq] at hfinished)
    · exact hwrite (by simp [hwritten])
  | requestObserver kind user threadId runId' =>
    cases h
    exact ⟨howned, hs.atRest⟩
  | observe i timeout =>
    obtain ⟨o, stage, cancels, -, -, rfl⟩ := step_observe h
    refine ⟨howned, fun hfinished => ⟨?_, (hs.atRest hfinished).2⟩⟩
    cases cancels with
    | false => exact (hs.atRest hfinished).1
    | true => exact forall_cancelTask o.runId (fun _ => id) (hs.atRest hfinished).1

/-- A finished run at rest keeps its status, unless a control request writes it. -/
theorem statusOf_step (hs : RestsWhenFinished runId s) (hbody : s.KeepsBody runId a)
    (hfinished : s.db.finished runId = true) (h : s.step setting a = some s') :
    s'.db.statusOf runId = s.db.statusOf runId ∨
      ∃ written, s.controlWrite runId a = some written ∧ s'.db.statusOf runId = some written := by
  obtain ⟨status, hstatus, -⟩ := (Option.any_eq_true _ _).mp hfinished
  cases a with
  | requestRun | requestControl | requestObserver =>
    cases h
    exact .inl rfl
  | create i =>
    obtain ⟨c, db, stage, hc, hmoves, rfl⟩ := step_create h
    rcases hmoves.statusOf runId with heq | ⟨hnone, -⟩
    · exact .inl heq
    · rw [hnone] at hstatus
      cases hstatus
  | execute i outcome =>
    obtain ⟨task, db, task', htask, hstep, rfl⟩ := step_execute h
    exact .inl ((rests_execute hs htask hstep (hbody i outcome task rfl htask)).2 hfinished)
  | disconnect runId' =>
    rcases step_disconnect h with rfl | rfl <;> exact .inl rfl
  | control i ok =>
    obtain ⟨c, db, stage, hc, hstep, rfl⟩ := step_control h
    rcases statusOf_control hc hstep with heq | ⟨written, hwritten, heq⟩
    · exact .inl heq
    · exact .inr ⟨written, hwritten, by rw [heq, hstatus]; rfl⟩
  | observe i timeout =>
    obtain ⟨o, stage, cancels, -, -, rfl⟩ := step_observe h
    exact .inl rfl

end Server

end OpenLangGraph

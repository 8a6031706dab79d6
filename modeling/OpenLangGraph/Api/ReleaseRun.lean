import OpenLangGraph.Api.RunStatus
import OpenLangGraph.Services.BrokerManager
import OpenLangGraph.Services.RunSignals

/-!
# What the executor leaves behind

The task of `ExecuteRun` together with the broker of its run and the statuses that it writes: what
has been released when `execute_run_async` has returned.

## The release

The `finally` clause awaits `cleanup_run`, which inserts what is left of the storage batch before
it finishes the broker, and only then takes the run out of `active_runs`. A failure of this insert,
or a cancellation delivered there, skips both. A task whose body was never entered, or whose
session could not be made, has no `finally` clause at all.

## What others do

Consumers and requests move the broker, and the cleanup loop removes it. Requests also write a
status, `cancelled` or `interrupted`, at any time.

## Main definitions

* `RunRelease.State`, `RunRelease.Label`, `RunRelease.step`
* `RunRelease.State.Released`

## Main results

* `RunRelease.tracked_step` — the stored status is the one that was written last
* `RunRelease.isFinished_step` — only the cleanup loop takes a finished broker away
* `RunRelease.released_iff` — when the executor has released its run
-/

open PyString

namespace OpenLangGraph

open Transition
open Runs (exampleDatabase)
open RunSignals (Signal)
open RunStream (exampleSetup)

/-- The signal of an `except` clause. -/
def Cause.signal : Cause → Signal
  | .cancelled => .cancelled
  | .failed error => .error error

/-- The awaited statement took effect. -/
def Outcome.applied : Outcome → Bool
  | .completes => true
  | .ends _ _ => false
  | .raises _ applied | .cancelled applied => applied

namespace Task

/-- The status that the awaited statement writes, if it is `update_run_status`. -/
def statusWrite (task : Task) : Option RunStatus :=
  match task.executor with
  | .settingRunning => some .running
  | .recording interrupted _ => some (if interrupted then .interrupted else .completed)
  | .recordingCause cause => some cause.status
  | .created | .streaming | .releasing _ | .releasingCause _ | .signallingCause _ | .cleaning _
  | .ended _ => none

/-- The task awaits its signal. -/
def isSignalling (task : Task) : Bool :=
  match task.executor with
  | .signallingCause _ => true
  | _ => false

end Task

namespace RunRelease

structure State where
  db : Database
  task : Task
  manager : BrokerManager
  /-- The statuses of the writes that took effect, oldest first. -/
  written : List RunStatus

inductive Label
  /-- the await that the task is at ends; a signal that completes has its own label -/
  | await (outcome : Outcome)
  /-- the signal of an `except` clause completes: its event is put, or has been waiting for room -/
  | signal (eventId : Option Str)
  /-- `_get_session_maker` raises before the body is entered -/
  | sessionFails
  /-- `task.cancel()` -/
  | cancel
  /-- an event of the graph is put to the broker -/
  | put (eventId : Str) (payload : PyVal)
  /-- a request writes its status -/
  | control (action : ControlAction)
  /-- what others do with the broker -/
  | broker (move : BrokerMove)

/-- The broker manager after the await of the task has ended. An insert that fails leaves
`cleanup_run` before it reaches the broker, and a signal has looked the broker up when it awaits
room. -/
def State.managerAfter (s : State) (outcome : Outcome) : BrokerManager :=
  match s.task.executor with
  | .cleaning _ =>
    match outcome with
    | .completes => s.manager.cleanupBroker
    | _ => s.manager
  | .signallingCause _ => s.manager.getOrCreateBroker
  | _ => s.manager

/-- The await of the task ends. -/
def await (jsonb : Jsonb) (s : State) (outcome : Outcome) : Option State :=
  (s.task.step jsonb s.db outcome).map fun (db, task) =>
    { db, task, manager := s.managerAfter outcome
      written := s.written ++ if outcome.applied then s.task.statusWrite.toList else [] }

/-- The broker manager after a signal of the task: its event has been put, and the broker is
finished. -/
def State.managerSignalled (cfg : BrokerConfig) (s : State) (cause : Cause) :
    Option Str → Option BrokerManager
  | some eventId => (s.manager.put cfg eventId cause.signal.payload).map (·.cleanupBroker)
  | none => some s.manager.cleanupBroker

/-- The signal of an `except` clause completes. -/
def signal (cfg : BrokerConfig) (jsonb : Jsonb) (s : State) (eventId : Option Str) :
    Option State :=
  match s.task.executor with
  | .signallingCause cause => do
    let manager ← s.managerSignalled cfg cause eventId
    let (db, task) ← s.task.step jsonb s.db .completes
    return { s with db, task, manager }
  | _ => none

/-- A request writes its status. -/
def control (s : State) (action : ControlAction) : State :=
  { s with db := updateRunStatus s.db s.task.runId action.status none none
           written := s.written ++ [action.status] }

/-- One step of the task or of another. -/
def step (cfg : BrokerConfig) (jsonb : Jsonb) (s : State) : Label → Option State
  | .await outcome =>
    if s.task.isSignalling && outcome.cause?.isNone then none else await jsonb s outcome
  | .signal eventId => signal cfg jsonb s eventId
  | .sessionFails =>
    match s.task.executor with
    | .created => some { s with task := { s.task with executor := .ended .raised } }
    | _ => none
  | .cancel => some { s with task := { s.task with cancelRequested := true } }
  | .put eventId payload =>
    match s.task.executor with
    | .streaming => (s.manager.put cfg eventId payload).map fun manager => { s with manager }
    | _ => none
  | .control action => some (control s action)
  | .broker move => (s.manager.move cfg move).map fun manager => { s with manager }

/-! ### What a step can do -/

variable {cfg : BrokerConfig} {jsonb : Jsonb} {s s' : State} {l : Label}

/-- What a step can do, one constructor for each label. -/
inductive Moves (cfg : BrokerConfig) (jsonb : Jsonb) (s : State) : Label → State → Prop
  | await {outcome : Outcome} {db : Database} {task : Task}
      (htask : s.task.step jsonb s.db outcome = some (db, task)) :
      Moves cfg jsonb s (.await outcome)
        { db, task, manager := s.managerAfter outcome
          written := s.written ++ if outcome.applied then s.task.statusWrite.toList else [] }
  | signal {eventId : Option Str} {cause : Cause} {manager : BrokerManager} {db : Database}
      {task : Task} (hex : s.task.executor = .signallingCause cause)
      (hmanager : s.managerSignalled cfg cause eventId = some manager)
      (htask : s.task.step jsonb s.db .completes = some (db, task)) :
      Moves cfg jsonb s (.signal eventId) { s with db, task, manager }
  | sessionFails (hex : s.task.executor = .created) :
      Moves cfg jsonb s .sessionFails
        { s with task := { s.task with executor := .ended .raised } }
  | cancel :
      Moves cfg jsonb s .cancel { s with task := { s.task with cancelRequested := true } }
  | put {eventId : Str} {payload : PyVal} {manager : BrokerManager}
      (hex : s.task.executor = .streaming)
      (hput : s.manager.put cfg eventId payload = some manager) :
      Moves cfg jsonb s (.put eventId payload) { s with manager }
  | control (action : ControlAction) : Moves cfg jsonb s (.control action) (control s action)
  | broker {move : BrokerMove} {manager : BrokerManager}
      (hmove : s.manager.move cfg move = some manager) :
      Moves cfg jsonb s (.broker move) { s with manager }

theorem step_cases (h : step cfg jsonb s l = some s') : Moves cfg jsonb s l s' := by
  cases l with
  | await outcome =>
    rw [step] at h
    split at h
    · cases h
    · obtain ⟨⟨db, task⟩, htask, rfl⟩ := Option.map_eq_some_iff.mp h
      exact .await htask
  | signal eventId =>
    rw [step, signal] at h
    split at h
    · rename_i cause hex
      obtain ⟨manager, hmanager, h⟩ := Option.bind_eq_some_iff.mp h
      obtain ⟨⟨db, task⟩, htask, h⟩ := Option.bind_eq_some_iff.mp h
      obtain rfl := Option.some.inj h
      exact .signal hex hmanager htask
    · cases h
  | sessionFails =>
    rw [step] at h
    split at h
    · rename_i hex
      obtain rfl := Option.some.inj h
      exact .sessionFails hex
    · cases h
  | cancel =>
    obtain rfl := Option.some.inj h
    exact .cancel
  | put eventId payload =>
    rw [step] at h
    split at h
    · rename_i hex
      obtain ⟨manager, hput, rfl⟩ := Option.map_eq_some_iff.mp h
      exact .put hex hput
    · cases h
  | control action =>
    obtain rfl := Option.some.inj h
    exact .control action
  | broker move =>
    obtain ⟨manager, hmove, rfl⟩ := Option.map_eq_some_iff.mp h
    exact .broker hmove

/-! ### What a step writes -/

/-- The stored status after the awaited statement of a task. -/
theorem statusOf_write {db db' : Database} {task : Task} (h : task.write jsonb db = some db') :
    db'.statusOf task.runId =
      task.statusWrite.elim (db.statusOf task.runId) fun status =>
        (db.statusOf task.runId).map fun _ => status := by
  have hupdate (status : RunStatus) (output : Option Json) (error : Option String) :
      (updateRunStatus db task.runId status output error).statusOf task.runId =
        (db.statusOf task.runId).map fun _ => status := by
    rw [Database.statusOf_updateRunStatus, if_pos rfl]
  rw [Task.statusWrite]
  rw [Task.write] at h
  cases hex : task.executor with
  | settingRunning | recordingCause =>
    rw [hex] at h
    obtain rfl := Option.some.inj h
    exact hupdate _ _ _
  | recording interrupted output =>
    rw [hex] at h
    obtain ⟨json, -, rfl⟩ := Option.map_eq_some_iff.mp h
    exact hupdate _ _ _
  | releasing | releasingCause =>
    rw [hex] at h
    obtain rfl := Option.some.inj h
    exact Database.statusOf_of_runs rfl
  | created | streaming | signallingCause | cleaning | ended =>
    rw [hex] at h
    obtain rfl := Option.some.inj h
    rfl

/-- The statement of an await takes effect or does not. -/
theorem db_of_step {db db' : Database} {task task' : Task} {outcome : Outcome}
    (h : task.step jsonb db outcome = some (db', task')) :
    (if outcome.applied then task.write jsonb db else some db) = some db' := by
  cases outcome with
  | completes =>
    obtain ⟨db₁, hdb, h⟩ := Option.bind_eq_some_iff.mp h
    obtain ⟨executor, -, h⟩ := Option.bind_eq_some_iff.mp h
    obtain ⟨rfl, -⟩ := Prod.mk.inj (Option.some.inj h)
    exact hdb
  | ends interrupted finalOutput =>
    rw [Task.step] at h
    split at h
    · obtain ⟨rfl, -⟩ := Prod.mk.inj (Option.some.inj h)
      rfl
    · cases h
  | raises error applied => exact (Task.interrupt_eq_some h).2.2.1
  | cancelled applied =>
    rw [Task.step] at h
    split at h
    · exact (Task.interrupt_eq_some h).2.2.1
    · cases h

/-- The task has just been created for a run that is stored, and is listed. -/
structure State.Started (s : State) : Prop where
  executor : s.task.executor = .created
  listed : s.task.listed = true
  written : s.written = []
  stored : (s.db.statusOf s.task.runId).isSome = true

/-- The run is released: no broker that is not finished is registered for it, `active_runs` has no
entry for it, and its status is final, unless no status was written at all. -/
structure State.Released (s : State) : Prop where
  broker : s.manager.isRunStreaming = false
  listed : s.task.listed = false
  status : s.written = [] ∨
    ∀ status, s.db.statusOf s.task.runId = some status → status.isActive = false

/-! ### The stored status -/

/-- What holds of a task that was started, until it has ended: it is listed, and the stored status
is the one that was written last, `running` or a final one. -/
structure State.Tracked (s : State) : Prop where
  listed : s.task.isDone = false → s.task.listed = true
  present : (s.db.statusOf s.task.runId).isSome = true
  stored : ∀ status, s.written.getLast? = some status →
    s.db.statusOf s.task.runId = some status
  final : ∀ status ∈ s.written, status ≠ .running → status.isActive = false

theorem State.Started.tracked (hs : s.Started) : s.Tracked where
  listed _ := hs.listed
  present := hs.stored
  stored status h := by
    rw [hs.written] at h
    cases h
  final status h := by
    rw [hs.written] at h
    cases h

theorem isActive_statusWrite {task : Task} {status : RunStatus}
    (h : task.statusWrite = some status) (hrunning : status ≠ .running) :
    status.isActive = false := by
  rw [Task.statusWrite] at h
  cases hex : task.executor with
  | settingRunning =>
    rw [hex] at h
    exact absurd (Option.some.inj h).symm hrunning
  | recording interrupted =>
    rw [hex] at h
    rw [← Option.some.inj h]
    cases interrupted <;> rfl
  | recordingCause cause =>
    rw [hex] at h
    rw [← Option.some.inj h]
    cases cause <;> rfl
  | created | streaming | releasing | releasingCause | signallingCause | cleaning | ended =>
    rw [hex] at h
    cases h

/-- A step that writes no status. -/
theorem State.Tracked.same (hs : s.Tracked) (hwritten : s'.written = s.written)
    (hstatus : s'.db.statusOf s'.task.runId = s.db.statusOf s.task.runId)
    (hlisted : s'.task.isDone = false → s'.task.listed = true) : s'.Tracked where
  listed := hlisted
  present := hstatus ▸ hs.present
  stored := by
    rw [hwritten, hstatus]
    exact hs.stored
  final := by
    rw [hwritten]
    exact hs.final

/-- A step that writes a status. -/
theorem State.Tracked.write (hs : s.Tracked) {status : RunStatus}
    (hfinal : status ≠ .running → status.isActive = false)
    (hwritten : s'.written = s.written ++ [status])
    (hstatus : s'.db.statusOf s'.task.runId = (s.db.statusOf s.task.runId).map fun _ => status)
    (hlisted : s'.task.isDone = false → s'.task.listed = true) : s'.Tracked := by
  obtain ⟨old, hold⟩ := Option.isSome_iff_exists.mp hs.present
  rw [hold] at hstatus
  refine ⟨hlisted, by rw [hstatus]; rfl, fun last hlast => ?_, fun last hlast => ?_⟩
  · rw [hwritten, List.getLast?_concat] at hlast
    obtain rfl := Option.some.inj hlast
    exact hstatus
  · rw [hwritten] at hlast
    rcases List.mem_append.mp hlast with hlast | hlast
    · exact hs.final last hlast
    · obtain rfl := List.mem_singleton.mp hlast
      exact hfinal

/-! ### The entry in `active_runs` -/

/-- Only a `cleanup_run` that completes takes the task out of `active_runs`, and it ends the
task. -/
theorem listed_of_step {db db' : Database} {task task' : Task} {outcome : Outcome}
    (h : task.step jsonb db outcome = some (db', task')) :
    task'.listed = task.listed ∧ (task'.isDone = true → outcome.cause?.isSome = true) ∨
      outcome = .completes ∧ (∃ result, task.executor = .cleaning result) ∧
        task'.listed = false ∧ task'.isDone = true := by
  have hinterrupt {cause : Cause} {applied : Bool} {db db' : Database} {task task' : Task}
      (h : task.interrupt jsonb db cause applied = some (db', task')) :
      task'.listed = task.listed := by
    rw [Task.interrupt] at h
    obtain ⟨db₁, -, h⟩ := Option.bind_eq_some_iff.mp h
    obtain ⟨executor, -, h⟩ := Option.bind_eq_some_iff.mp h
    obtain ⟨-, rfl⟩ := Prod.mk.inj (Option.some.inj h)
    rfl
  cases outcome with
  | completes =>
    obtain ⟨db₁, -, h⟩ := Option.bind_eq_some_iff.mp h
    obtain ⟨executor, hnext, h⟩ := Option.bind_eq_some_iff.mp h
    obtain ⟨-, rfl⟩ := Prod.mk.inj (Option.some.inj h)
    show task.unlist = task.listed ∧ _ ∨ _
    rw [Task.unlist]
    cases hex : task.executor with
    | cleaning result =>
      rw [hex] at hnext
      obtain rfl := Option.some.inj hnext
      exact .inr ⟨rfl, ⟨result, rfl⟩, rfl, rfl⟩
    | created | settingRunning | recording | releasing | recordingCause | releasingCause
    | signallingCause =>
      rw [hex] at hnext
      obtain rfl := Option.some.inj hnext
      exact .inl ⟨rfl, fun hended => absurd hended Bool.false_ne_true⟩
    | streaming | ended =>
      rw [hex] at hnext
      cases hnext
  | ends interrupted finalOutput =>
    rw [Task.step] at h
    split at h
    · obtain ⟨-, rfl⟩ := Prod.mk.inj (Option.some.inj h)
      exact .inl ⟨rfl, fun hended => absurd hended Bool.false_ne_true⟩
    · cases h
  | raises error applied => exact .inl ⟨hinterrupt h, fun _ => rfl⟩
  | cancelled applied =>
    rw [Task.step] at h
    split at h
    · have hlisted := hinterrupt h
      exact .inl ⟨hlisted, fun _ => rfl⟩
    · cases h

theorem tracked_await (hs : s.Tracked) {outcome : Outcome} {db : Database} {task : Task}
    (h : s.task.step jsonb s.db outcome = some (db, task)) (hdb : s'.db = db)
    (htask : s'.task = task) (hwritten : s'.written =
      s.written ++ if outcome.applied then s.task.statusWrite.toList else [])
    (hactive : s.task.isDone = false) : s'.Tracked := by
  have hrun : task.runId = s.task.runId := (Task.step_cases h).1
  have hlisted : s'.task.isDone = false → s'.task.listed = true := by
    intro hended
    rw [htask] at hended ⊢
    rcases listed_of_step h with ⟨hlisted, -⟩ | ⟨-, -, -, hends⟩
    · rw [hlisted]
      exact hs.listed hactive
    · rw [hends] at hended
      cases hended
  have hwrite := db_of_step h
  cases happlied : outcome.applied with
  | false =>
    rw [happlied] at hwrite hwritten
    obtain rfl := Option.some.inj hwrite
    refine hs.same (hwritten.trans (List.append_nil _)) ?_ hlisted
    rw [hdb, htask, hrun]
  | true =>
    rw [happlied] at hwrite hwritten
    have hstatus := statusOf_write hwrite
    rw [← hdb, ← hrun, ← htask] at hstatus
    cases hstatusWrite : s.task.statusWrite with
    | none =>
      rw [hstatusWrite] at hstatus hwritten
      refine hs.same (hwritten.trans (List.append_nil _)) (hstatus.trans ?_) hlisted
      rw [htask, hrun]
      rfl
    | some status =>
      rw [hstatusWrite] at hstatus hwritten
      refine hs.write (isActive_statusWrite hstatusWrite) hwritten (hstatus.trans ?_) hlisted
      rw [htask, hrun]
      rfl

/-! ### Tracking the executor -/

/-- **The executor is tracked** until it has ended, and after the step that ends it. -/
theorem tracked_step (hs : s.Tracked) (hactive : s.task.isDone = false)
    (h : step cfg jsonb s l = some s') : s'.Tracked := by
  have hgoes : s.task.isDone = false → s.task.listed = true := hs.listed
  cases step_cases h with
  | await htask => exact tracked_await hs htask rfl rfl rfl hactive
  | signal hex hmanager htask =>
    refine tracked_await hs htask rfl rfl ?_ hactive
    rw [Task.statusWrite, hex]
    exact (List.append_nil _).symm
  | sessionFails hex => exact hs.same rfl rfl fun hended => absurd hended.symm Bool.false_ne_true
  | cancel | put | broker => exact hs.same rfl rfl hgoes
  | control action =>
    refine hs.write (fun _ => ?_) rfl ?_ hgoes
    · cases action <;> rfl
    · exact (Database.statusOf_updateRunStatus _ _ _ _).trans (if_pos rfl)

/-- A task that has ended does nothing more. -/
theorem isDone_step (hended : s.task.isDone = true) (h : step cfg jsonb s l = some s') :
    s'.task.isDone = true := by
  have hnot (hex : s.task.executor = .created ∨ s.task.executor = .streaming ∨
      ∃ cause, s.task.executor = .signallingCause cause) : False := by
    rw [Task.isDone] at hended
    rcases hex with hex | hex | ⟨cause, hex⟩ <;> rw [hex] at hended <;> cases hended
  cases step_cases h with
  | @await outcome db task htask =>
    obtain ⟨result, hex⟩ : ∃ result, s.task.executor = .ended result := by
      rw [Task.isDone] at hended
      split at hended
      · exact ⟨_, by assumption⟩
      · cases hended
    rcases (Task.step_cases htask).2.2 with ⟨-, hnext⟩ | ⟨-, hstreaming, -⟩ | ⟨_, _, -, -, hnext⟩
    · rw [hex] at hnext
      cases hnext
    · exact absurd (.inr (.inl hstreaming)) hnot
    · rw [hex] at hnext
      cases hnext
  | signal hex => exact absurd (.inr (.inr ⟨_, hex⟩)) hnot
  | sessionFails hex => exact absurd (.inl hex) hnot
  | put hex => exact absurd (.inr (.inl hex)) hnot
  | cancel | control | broker => exact hended

/-- The executor of a run is tracked, or has ended. -/
theorem tracked_exec {labels : List Label} (hs : s.Tracked)
    (h : exec (step cfg jsonb) s labels = some s') : s'.task.isDone = true ∨ s'.Tracked := by
  refine exec_invariant (P := fun _ _ => True) (I := fun t => t.task.isDone = true ∨ t.Tracked)
    (fun t a t' ht _ h => ?_) (.inr hs) (along_true _ _) h
  rcases ht with hended | ht
  · exact .inl (isDone_step hended h)
  · cases hdone : t.task.isDone with
    | true => exact .inl (isDone_step hdone h)
    | false => exact .inr (tracked_step ht hdone h)

theorem isFinished_managerAfter (hfinished : s.manager.isFinished = true) (outcome : Outcome) :
    (s.managerAfter outcome).isFinished = true := by
  have hsome := BrokerManager.isSome_of_isFinished hfinished
  rw [State.managerAfter.eq_def]
  cases s.task.executor with
  | cleaning result =>
    cases outcome with
    | completes => exact (BrokerManager.isFinished_cleanupBroker _).trans hsome
    | ends | raises | cancelled => exact hfinished
  | signallingCause cause =>
    show s.manager.getOrCreateBroker.isFinished = true
    rw [BrokerManager.getOrCreateBroker_of_isSome hsome]
    exact hfinished
  | created | settingRunning | streaming | recording | releasing | recordingCause
  | releasingCause | ended => exact hfinished

/-- A finished broker stays finished until the cleanup loop removes it. -/
theorem isFinished_step (hfinished : s.manager.isFinished = true)
    (h : step cfg jsonb s l = some s') : s'.manager.isFinished = true ∨
      l = .broker .sweep ∧ s.manager.isOld = true ∧ s'.manager.entry = none := by
  cases step_cases h with
  | @await outcome => exact .inl (isFinished_managerAfter hfinished outcome)
  | @signal eventId cause manager _ _ hex hmanager =>
    refine .inl ?_
    show manager.isFinished = true
    cases eventId with
    | none =>
      obtain rfl := Option.some.inj hmanager
      rw [BrokerManager.isFinished_cleanupBroker]
      exact BrokerManager.isSome_of_isFinished hfinished
    | some eventId =>
      obtain ⟨m, hput, rfl⟩ := Option.map_eq_some_iff.mp hmanager
      rw [BrokerManager.isFinished_cleanupBroker]
      exact BrokerManager.isSome_put hput
  | put hex hput => exact .inl (BrokerManager.isFinished_put hfinished hput)
  | sessionFails | cancel | control => exact .inl hfinished
  | broker hmove =>
    rcases BrokerManager.isFinished_move hfinished hmove with hkept | ⟨rfl, hold, hnone⟩
    · exact .inl hkept
    · exact .inr ⟨rfl, hold, hnone⟩

/-! ### Release -/

/-- The step is the end of `cleanup_run` without an exception. -/
def Label.completes : Label → Bool
  | .await .completes => true
  | _ => false

/-- With the broker finished and the task out of `active_runs`, the status decides. -/
theorem released_iff_of_cleaned (hs : s.Tracked) (hbroker : s.manager.isRunStreaming = false)
    (hlisted : s.task.listed = false) : s.Released ↔ s.written.getLast? ≠ some .running := by
  constructor
  · rintro ⟨-, -, hnothing | hfinal⟩ hrunning
    · rw [hnothing] at hrunning
      cases hrunning
    · exact absurd (hfinal _ (hs.stored _ hrunning)) nofun
  · intro hnot
    refine ⟨hbroker, hlisted, ?_⟩
    cases hlast : s.written.getLast? with
    | none => exact .inl (List.getLast?_eq_none_iff.mp hlast)
    | some last =>
      refine .inr fun status hstatus => ?_
      obtain rfl := Option.some.inj ((hs.stored _ hlast).symm.trans hstatus)
      refine hs.final last (List.mem_of_getLast? hlast) fun hrunning => hnot ?_
      rw [hlast, hrunning]

/-- The step that ends the task releases its run exactly if it is a `cleanup_run` that completes
and the status is not left at `running`. -/
theorem released_step_iff (hs : s.Tracked) (hactive : s.task.isDone = false)
    (h : step cfg jsonb s l = some s') (hended : s'.task.isDone = true) :
    s'.Released ↔ l.completes = true ∧ s.written.getLast? ≠ some .running := by
  have htracked := tracked_step hs hactive h
  have hstays (hlisted : s'.task.listed = s.task.listed) (hl : l.completes = false) :
      s'.Released ↔ l.completes = true ∧ s.written.getLast? ≠ some .running := by
    refine iff_of_false (fun hreleased => ?_) fun ⟨hcompletes, _⟩ => ?_
    · rw [hs.listed hactive, hreleased.listed] at hlisted
      cases hlisted
    · rw [hcompletes] at hl
      cases hl
  have hgoes (hexecutor : s'.task.executor = s.task.executor) :
      s'.Released ↔ l.completes = true ∧ s.written.getLast? ≠ some .running := by
    rw [Task.isDone, hexecutor] at hended
    exact absurd (hactive.symm.trans hended) Bool.false_ne_true
  cases step_cases h with
  | @await outcome db task htask =>
    rcases listed_of_step htask with ⟨hlisted, hcause⟩ | ⟨rfl, ⟨result, hex⟩, hlisted, -⟩
    · refine hstays hlisted ?_
      have hcause := hcause hended
      cases outcome with
      | completes => cases hcause
      | ends | raises | cancelled => rfl
    · have hmanager : s.managerAfter .completes = s.manager.cleanupBroker := by
        rw [State.managerAfter, hex]
      have hnothing : s.task.statusWrite = none := by rw [Task.statusWrite, hex]
      rw [released_iff_of_cleaned htracked
        (hmanager ▸ BrokerManager.isRunStreaming_cleanupBroker s.manager) hlisted, hnothing]
      show (s.written ++ []).getLast? ≠ _ ↔ _
      rw [List.append_nil]
      exact (and_iff_right rfl).symm
  | signal hex hmanager htask =>
    rcases listed_of_step htask with ⟨-, hcause⟩ | ⟨-, ⟨result, hcleaning⟩, -, -⟩
    · cases hcause hended
    · rw [hex] at hcleaning
      cases hcleaning
  | sessionFails => exact hstays rfl rfl
  | cancel | put | control | broker => exact hgoes rfl

/-- **When the executor has released its run**: exactly if its last step is a `cleanup_run` that
completes, and the status that was written last is not `running`. -/
theorem released_iff {s₀ : State} {labels : List Label} (hs : s₀.Started)
    (hlabels : exec (step cfg jsonb) s₀ labels = some s) (hactive : s.task.isDone = false)
    (h : step cfg jsonb s l = some s') (hended : s'.task.isDone = true) :
    s'.Released ↔ l.completes = true ∧ s.written.getLast? ≠ some .running := by
  rcases tracked_exec hs.tracked hlabels with hdone | htracked
  · exact absurd (hactive.symm.trans hdone) nofun
  · exact released_step_iff htracked hactive h hended

/-! ### A run of a graph -/

/-- The server when it has created the task of a run. -/
def requestedServer : Server :=
  (exec (Server.step exampleSetting) (Server.idle exampleDatabase)
    (creationLabels .run "t" "r" 0)).get (by decide)

/-- The task has been created, and there is no broker. -/
def requested : State :=
  { db := requestedServer.db, task := ⟨"r", "t", .created, false, true⟩, manager := ⟨none, 0⟩
    written := [] }

theorem started_requested : requested.Started := ⟨rfl, rfl, rfl, by decide⟩

/-- The graph emits one event and ends; `cleanup_run` is still to come. -/
def gracefulLabels (interrupted : Bool) : List Label :=
  [.await .completes, .await .completes,
    .put "r_event_1".toList (.tuple [.str "values", .dict []]),
    .await (.ends interrupted (.dict [])), .await .completes, .await .completes]

theorem released_graceful :
    ∃ t s, exec (step exampleSetup.broker exampleSetting.jsonb) requested (gracefulLabels false) =
        some t ∧
      step exampleSetup.broker exampleSetting.jsonb t (.await .completes) = some s ∧
        s.Released := by
  obtain ⟨t, ht, hactive, hlast, s, hs, hended⟩ : ∃ t,
      exec (step exampleSetup.broker exampleSetting.jsonb) requested (gracefulLabels false) =
        some t ∧
        t.task.isDone = false ∧ t.written.getLast? = some .completed ∧
          ∃ s, step exampleSetup.broker exampleSetting.jsonb t (.await .completes) = some s ∧
            s.task.isDone = true :=
    ⟨_, rfl, rfl, rfl, _, rfl, rfl⟩
  have hlast : t.written.getLast? ≠ some .running := by
    rw [hlast]
    decide
  exact ⟨t, s, ht, hs, (released_iff started_requested ht hactive hs hended).mpr ⟨rfl, hlast⟩⟩

/-- **A run that is not released**: the last insert of its events fails in `cleanup_run`, so the
broker goes on waiting for events, and the run stays in `active_runs`. -/
theorem flush_fails :
    ¬ ∀ (cfg : BrokerConfig) (jsonb : Jsonb) (s₀ t s : State) (labels : List Label) (l : Label),
      s₀.Started → exec (step cfg jsonb) s₀ labels = some t → t.task.isDone = false →
        step cfg jsonb t l = some s → s.task.isDone = true → s.Released := by
  intro h
  have hreleased := h exampleSetup.broker exampleSetting.jsonb requested _ _
    (gracefulLabels false) (.await (.raises "insert failed" false)) started_requested
    rfl rfl rfl rfl
  exact absurd hreleased.listed nofun

end RunRelease

end OpenLangGraph

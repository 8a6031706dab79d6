import OpenLangGraph.Api.ThreadDeletion

/-!
# The shutdown of the server

The second half of `lifespan` over the server of `ThreadDeletion`. It begins when the requests have
ended; the tasks of the runs go on, and the cleanup of expired threads and the cron scheduler until
they are stopped. An exception of one of the services ends the shutdown where it is.

## Two registries

The endpoints put the tasks of their runs into `active_runs` of `api/runs.py`, the field `listed` of
a task. The loop at the beginning of the shutdown reads `active_runs` of `main.py`, another
dictionary, into which nothing is put.

## Main definitions

* `Shutdown.State`, `Shutdown.Label`, `Shutdown.step`
* `Shutdown.StopsEveryRun`

## Main results

* `Shutdown.stops_every_run_iff` — in which runs of the server the shutdown stops every run
-/

namespace OpenLangGraph

open Runs Transition Processes

namespace Shutdown

/-! ### The server and its shutdown -/

/-- The await that `lifespan` is at. -/
inductive Stage
  /-- the `yield` -/
  | serving
  | stoppingMover
  | stoppingEventStore
  | stoppingThreadCleanup
  | stoppingCronScheduler
  | closingRateLimiter
  | closingCache
  | closingDatabase
  | ended
deriving DecidableEq

def Stage.next : Stage → Option Stage
  | .serving | .ended => none
  | .stoppingMover => some .stoppingEventStore
  | .stoppingEventStore => some .stoppingThreadCleanup
  | .stoppingThreadCleanup => some .stoppingCronScheduler
  | .stoppingCronScheduler => some .closingRateLimiter
  | .closingRateLimiter => some .closingCache
  | .closingCache => some .closingDatabase
  | .closingDatabase => some .ended

/-- The event store is being stopped, or has been; the cache and the database come after it. -/
def Stage.closes : Stage → Bool
  | .serving | .stoppingMover => false
  | _ => true

/-- The cleanup of expired threads has not been stopped. -/
def Stage.cleans : Stage → Bool
  | .serving | .stoppingMover | .stoppingEventStore | .stoppingThreadCleanup => true
  | _ => false

/-- The cron scheduler has not been stopped. -/
def Stage.schedules : Stage → Bool
  | .stoppingCronScheduler => true
  | stage => stage.cleans

/-- The background task of a run, by its position: one of an endpoint or of the cron scheduler. -/
inductive Background
  | run (k : ℕ)
  | cron (i : ℕ)
deriving DecidableEq

structure State where
  site : ThreadDeletion.State
  /-- `active_runs` of `main.py` -/
  activeRuns : List (String × ℕ)
  stage : Stage
  /-- the tasks for which `cancel` has been called -/
  asked : List Background
  /-- the tasks that were live when the shutdown began -/
  live : List Background
  /-- those of them for which `cancel` had not been called before -/
  unasked : List Background

inductive Label
  /-- a step of a request, of a task or of a service -/
  | site (l : ThreadDeletion.Label)
  /-- the shutdown begins: the loop over `active_runs`, which does not await -/
  | begin
  /-- the next service has been stopped -/
  | stopNext

/-- Whether a step can be made while the shutdown is at a stage. -/
def Stage.allows (stage : Stage) : ThreadDeletion.Label → Bool
  | .server (.execute _ _) | .runCron _ _ => true
  | .fire _ _ _ _ => stage.schedules
  | .selectExpired _ | .cleanUp _ _ => stage.cleans
  | _ => stage = .serving

/-- The tasks with a `CancelledError` that is still to be raised. -/
def requested (tasks : List Task) : List Background :=
  (tasks.zipIdx.filter (·.1.cancelRequested)).map fun p => .run p.2

/-- The tasks that are not done. -/
def liveTasks (site : ThreadDeletion.State) : List Background :=
  ((site.server.tasks.zipIdx.filter (!·.1.isDone)).map fun p => .run p.2) ++
    (site.scheduled.zipIdx.filter (!·.1.isDone)).map fun p => .cron p.2

/-- `if not task.done(): task.cancel()` -/
def cancelAt (tasks : List Task) (k : ℕ) : List Task :=
  tasks.modify k fun task => if task.isDone then task else { task with cancelRequested := true }

/-- The server after a step. -/
def State.goOn (s : State) (site : ThreadDeletion.State) : State :=
  { s with site, asked := s.asked ++ requested site.server.tasks }

/-- The server as the shutdown begins. -/
def State.begin (s : State) : State :=
  let tasks := (s.activeRuns.map Prod.snd).foldl cancelAt s.site.server.tasks
  { s.goOn { s.site with server := { s.site.server with tasks } } with
    stage := .stoppingMover
    live := liveTasks s.site
    unasked := (liveTasks s.site).filter fun task => !s.asked.contains task }

/-- A server that has just been started. -/
def start (db : Database) : State := ⟨.start db, [], .serving, [], [], []⟩

def step (setting : ThreadDeletion.Setting) (s : State) : Label → Option State
  | .site l =>
    if s.stage.allows l then (ThreadDeletion.step setting s.site l).map s.goOn else none
  | .begin => if s.stage = .serving then some s.begin else none
  | .stopNext => s.stage.next.map fun stage => { s with stage }

/-! ### What is asked of the shutdown -/

/-- **The shutdown stops every run**: before the event store, the cache and the database are closed,
every task that was live has been asked to cancel. -/
def StopsEveryRun (s : State) : Prop := s.stage.closes = true → ∀ task ∈ s.live, task ∈ s.asked

/-- Nothing is closed unless every task that was live when the shutdown began had been asked to
cancel before. -/
def nothingLeft (s : State) : Label → Bool
  | .stopNext => s.stage ≠ .stoppingMover || s.unasked.isEmpty
  | _ => true

/-! ### Who asks a task to cancel -/

variable {setting : ThreadDeletion.Setting} {s s' : State} {a : Label}

theorem mem_requested {tasks : List Task} {task : Background} :
    task ∈ requested tasks ↔
      ∃ k row, task = .run k ∧ tasks[k]? = some row ∧ row.cancelRequested = true := by
  rw [requested, List.mem_map]
  constructor
  · rintro ⟨p, hp, rfl⟩
    obtain ⟨hmem, hrequested⟩ := List.mem_filter.mp hp
    exact ⟨p.2, p.1, rfl, List.mem_zipIdx_iff_getElem?.mp hmem, hrequested⟩
  · rintro ⟨k, row, rfl, hrow, hrequested⟩
    exact ⟨(row, k), List.mem_filter.mpr ⟨List.mem_zipIdx_iff_getElem?.mpr hrow, hrequested⟩, rfl⟩

/-- A task does not cancel itself. -/
theorem cancelRequested_of_step {jsonb : Jsonb} {db db' : Database} {task task' : Task}
    {outcome : Outcome} (h : task.step jsonb db outcome = some (db', task'))
    (hrequested : task'.cancelRequested = true) : task.cancelRequested = true := by
  have hinterrupt {task₁ : Task} {cause : Cause} {applied : Bool}
      (h : task₁.interrupt jsonb db cause applied = some (db', task')) :
      task'.cancelRequested = task₁.cancelRequested := by
    obtain ⟨db₁, -, h⟩ := Option.bind_eq_some_iff.mp h
    obtain ⟨executor, -, h⟩ := Option.bind_eq_some_iff.mp h
    cases h
    rfl
  cases outcome with
  | completes =>
    obtain ⟨db₁, -, h⟩ := Option.bind_eq_some_iff.mp h
    obtain ⟨executor, -, h⟩ := Option.bind_eq_some_iff.mp h
    cases h
    exact hrequested
  | ends interrupted finalOutput =>
    rw [Task.step] at h
    split at h
    · cases h
      exact hrequested
    · cases h
  | raises error applied => exact hinterrupt h ▸ hrequested
  | cancelled applied =>
    rw [Task.step] at h
    split at h
    · assumption
    · cases h

theorem tasks_foldl_deleteThread (site : ThreadDeletion.State) (threadIds : List String) :
    (threadIds.foldl ThreadDeletion.State.deleteThread site).server.tasks = site.server.tasks := by
  induction threadIds generalizing site with
  | nil => rfl
  | cons threadId threadIds ih =>
    rw [List.foldl_cons, ih, ThreadDeletion.tasks_deleteThread]

/-- **Once the shutdown has begun**, nothing asks a task to cancel. -/
theorem requested_of_allows {site site' : ThreadDeletion.State} {stage : Stage}
    {l : ThreadDeletion.Label} (hstage : stage ≠ .serving) (hallows : stage.allows l = true)
    (h : ThreadDeletion.step setting site l = some site') :
    ∀ task ∈ requested site'.server.tasks, task ∈ requested site.server.tasks := by
  have hsame {site' : ThreadDeletion.State} (h : site'.server.tasks = site.server.tasks) :
      ∀ task ∈ requested site'.server.tasks, task ∈ requested site.server.tasks := by
    rw [h]
    exact fun _ => id
  cases l with
  | server l =>
    obtain ⟨server, hserver, rfl⟩ := Option.map_eq_some_iff.mp h
    cases l with
    | execute i outcome =>
      obtain ⟨task, db, task', htask, hstep, rfl⟩ := Server.step_execute hserver
      intro x hx
      obtain ⟨k, row, rfl, hrow, hrequested⟩ := mem_requested.mp hx
      rcases getElem?_set_cases hrow with ⟨rfl, rfl⟩ | ⟨-, hrow⟩
      · exact mem_requested.mpr ⟨k, task, rfl, htask, cancelRequested_of_step hstep hrequested⟩
      · exact mem_requested.mpr ⟨k, row, rfl, hrow, hrequested⟩
    | _ => simp [Stage.allows, hstage] at hallows
  | fire cron now runId newThreadId =>
    rw [ThreadDeletion.step] at h
    split at h
    · cases h
    · obtain ⟨db, -, rfl⟩ := Option.map_eq_some_iff.mp h
      exact hsame rfl
  | runCron i outcome =>
    obtain ⟨scheduled, -, h⟩ := Option.bind_eq_some_iff.mp h
    obtain ⟨move, -, h⟩ := Option.bind_eq_some_iff.mp h
    cases h
    exact hsame rfl
  | selectExpired now =>
    cases h
    exact hsame rfl
  | cleanUp i ok =>
    obtain ⟨threadIds, -, h⟩ := Option.bind_eq_some_iff.mp h
    cases h
    cases ok with
    | false => exact hsame rfl
    | true => exact hsame (tasks_foldl_deleteThread site threadIds)
  | _ => simp [Stage.allows, hstage] at hallows

/-! ### The invariant -/

/-- The registry of `main.py` is empty, and from the beginning of the shutdown on nobody asks the
tasks that had not been asked before. -/
structure Sound (s : State) : Prop where
  empty : s.activeRuns = []
  noted : ∀ task ∈ requested s.site.server.tasks, task ∈ s.asked
  asked : s.stage ≠ .serving → ∀ task ∈ s.live, task ∈ s.unasked ∨ task ∈ s.asked
  notAsked : s.stage ≠ .serving → ∀ task ∈ s.unasked, task ∈ s.live ∧ task ∉ s.asked

theorem sound_start (db : Database) : Sound (start db) := by
  constructor <;> simp [start, ThreadDeletion.State.start, Server.idle, requested]

theorem sound_step (hs : Sound s) (h : step setting s a = some s') : Sound s' := by
  cases a with
  | site l =>
    rw [step] at h
    split at h
    · rename_i hallows
      obtain ⟨site, hsite, rfl⟩ := Option.map_eq_some_iff.mp h
      refine ⟨hs.empty, fun task => List.mem_append_right _, fun hstage task htask => ?_,
        fun hstage task htask => ?_⟩
      · exact (hs.asked hstage task htask).imp_right (List.mem_append_left _)
      · obtain ⟨hlive, hasked⟩ := hs.notAsked hstage task htask
        refine ⟨hlive, fun hmem => ?_⟩
        rcases List.mem_append.mp hmem with hmem | hmem
        · exact hasked hmem
        · exact hasked (hs.noted task (requested_of_allows hstage hallows hsite task hmem))
    · cases h
  | begin =>
    rw [step] at h
    split at h
    · cases h
      have htasks : ((s.activeRuns.map Prod.snd).foldl cancelAt s.site.server.tasks) =
          s.site.server.tasks := by
        rw [hs.empty]
        rfl
      have hasked : s.begin.asked = s.asked ++ requested s.site.server.tasks :=
        congrArg (s.asked ++ requested ·) htasks
      refine ⟨hs.empty, fun task => List.mem_append_right _, fun _ task htask => ?_,
        fun _ task htask => ?_⟩
      · by_cases hmem : task ∈ s.asked
        · exact .inr (hasked ▸ List.mem_append_left _ hmem)
        · exact .inl (List.mem_filter.mpr ⟨htask, by simpa using hmem⟩)
      · obtain ⟨hlive, hmem⟩ := List.mem_filter.mp htask
        have hmem : task ∉ s.asked := by simpa using hmem
        refine ⟨hlive, fun hin => ?_⟩
        rcases List.mem_append.mp (hasked ▸ hin) with hin | hin
        · exact hmem hin
        · exact hmem (hs.noted task hin)
    · cases h
  | stopNext =>
    obtain ⟨stage, hstage, rfl⟩ := Option.map_eq_some_iff.mp h
    have hserving : s.stage ≠ .serving := by
      intro hserving
      rw [hserving] at hstage
      cases hstage
    exact ⟨hs.empty, hs.noted, fun _ => hs.asked hserving, fun _ => hs.notAsked hserving⟩

/-! ### When the shutdown stops every run -/

theorem stopsEveryRun_step_iff (hs : Sound s) (hstops : StopsEveryRun s)
    (h : step setting s a = some s') : StopsEveryRun s' ↔ nothingLeft s a = true := by
  cases a with
  | site l =>
    rw [step] at h
    split at h
    · obtain ⟨site, -, rfl⟩ := Option.map_eq_some_iff.mp h
      refine iff_of_true (fun hcloses task htask => ?_) rfl
      exact List.mem_append_left _ (hstops hcloses task htask)
    · cases h
  | begin =>
    rw [step] at h
    split at h
    · cases h
      exact iff_of_true (fun hcloses => by cases hcloses) rfl
    · cases h
  | stopNext =>
    obtain ⟨stage, hnext, rfl⟩ := Option.map_eq_some_iff.mp h
    by_cases hstage : s.stage = .stoppingMover
    · have hserving : s.stage ≠ .serving := by simp [hstage]
      rw [hstage] at hnext
      obtain rfl := Option.some.inj hnext
      simp only [nothingLeft, hstage, ne_eq, not_true_eq_false, decide_false, Bool.false_or,
        List.isEmpty_iff]
      constructor
      · intro hall
        rw [List.eq_nil_iff_forall_not_mem]
        intro task htask
        obtain ⟨hlive, hasked⟩ := hs.notAsked hserving task htask
        exact hasked (hall rfl task hlive)
      · intro hnil _ task htask
        rcases hs.asked hserving task htask with hmem | hmem
        · rw [hnil] at hmem
          cases hmem
        · exact hmem
    · have hcloses : s.stage.closes = true := by
        cases hs : s.stage <;> simp [hs, Stage.next] at hnext hstage <;> rfl
      exact iff_of_true (fun _ => hstops hcloses) (by simp [nothingLeft, hstage])

/-- **When the shutdown stops every run**: when no task is live as it begins that has not been asked
to cancel before. -/
theorem stops_every_run_iff (setting : ThreadDeletion.Setting) (db : Database) (t : State)
    (as : List Label) (h : exec (step setting) (start db) as = some t) :
    (∀ pre t, pre <+: as → exec (step setting) (start db) pre = some t → StopsEveryRun t) ↔
      Along (step setting) (fun s a => nothingLeft s a = true) (start db) as :=
  forall_prefix_iff_along (fun _ _ _ hs hstep => sound_step hs hstep)
    (fun _ _ _ hs hstops hstep => stopsEveryRun_step_iff hs hstops hstep) (sound_start db)
    (fun hcloses => by cases hcloses) h

/-- The labels of a shutdown, up to the end of the cleanup of the event store. -/
def exampleShutdown : List Label := [.begin, .stopNext, .stopNext]

/-- A shutdown after the only run has ended. -/
theorem stops_every_run_ended :
    (∃ t, exec (step ThreadDeletion.exampleServer) (start exampleDatabase)
      ((creationLabels .run "t" "r" 0 ++ taskLabels 0 false).map (.site ∘ .server) ++
        exampleShutdown) = some t ∧ t.stage.closes = true) ∧
    ∀ pre t, pre <+: (creationLabels .run "t" "r" 0 ++ taskLabels 0 false).map (.site ∘ .server) ++
        exampleShutdown →
      exec (step ThreadDeletion.exampleServer) (start exampleDatabase) pre = some t →
      StopsEveryRun t :=
  ⟨⟨_, rfl, by decide⟩, (stops_every_run_iff _ _ _ _ rfl).mpr (by decide)⟩

/-- **A run that is not stopped**: its task was started by `create_run`. -/
theorem shutdown_leaves_run :
    ¬ ∀ (setting : ThreadDeletion.Setting) (db : Database) (as : List Label) (t : State),
      exec (step setting) (start db) as = some t → StopsEveryRun t := by
  intro h
  have hstops := h ThreadDeletion.exampleServer exampleDatabase
    ((creationLabels .run "t" "r" 0).map (.site ∘ .server) ++ exampleShutdown) _ rfl
  have hasked := hstops rfl (.run 0) (List.mem_singleton_self _)
  cases hasked

end Shutdown

end OpenLangGraph

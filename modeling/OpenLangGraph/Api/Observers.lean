import OpenLangGraph.Api.RunServer

/-!
# Observing a run

`join_run` and the standalone wait await the executor's task itself, under a timeout. Most of what
they do is invisible to the run: erasing the observers from a run of the server leaves a run of the
server that ends in the same tables. But when the time of an observer is up before the task has
ended, the task is cancelled, although the timeout is documented not to be an error; and an
observer that waits for a task that fails gets the exception of the task instead of the stored
result.

## Main definitions

* `Server.withoutObservers`, `Label.isObservation`
* `Server.harmless` — the steps of observers at which neither happens
* `Response.Reports` — a response is what is stored

## Main results

* `Server.observing_changes_nothing` — harmless observers can be erased, and all of them return
  what is stored
* `Server.timeout_cancels` — an impatient observer changes the run
-/

namespace OpenLangGraph

open Runs Transition Processes

/-! ### What is stored -/

/-- The stored output fits the response: it is an object or nothing, or for `join_run`, which
returns `output or {}`, any falsy value. -/
def presentable (kind : ObserverKind) : Option Json → Bool
  | none | some .null | some (.obj _) => true
  | some v => kind = .joinRun && !v.truthy

/-- The output in a response is the stored one, where `None` stands for nothing. -/
def SameOutput (output : Option JsonObject) (stored : Option Json) : Prop :=
  match output with
  | none => stored = none ∨ stored = some .null
  | some members => stored = some (.obj members)

/-- The response is what is stored about the run. -/
def Response.Reports (run : Option Run) : Response → Prop
  | .output members => run.bind (·.output) = some (.obj members) ∨
      (members = [] ∧ ∀ v, run.bind (·.output) = some v → v.truthy = false)
  | .result status out error => status = run.map (·.status) ∧
      error = run.bind (·.errorMessage) ∧ SameOutput out (run.bind (·.output))

/-- The stage of an observer that has not failed and, if it has returned, has returned what is
stored. -/
def ObserverStage.Faithful (run : Option Run) : ObserverStage → Prop
  | .returned response => response.Reports run
  | .raised _ => False
  | _ => True

namespace Observer

theorem sameOutput_of_outputMembers {stored : Option Json} {output : Option JsonObject}
    (h : outputMembers stored = some output) : SameOutput output stored := by
  rw [outputMembers.eq_def] at h
  split at h
  · cases h
    exact .inl rfl
  · cases h
    exact .inr rfl
  · cases h
    rfl
  · cases h

/-- `join_run` returns an empty object for a falsy output. -/
theorem reply_falsy {run : Option Run}
    (h : ∀ v, run.bind (·.output) = some v → v.truthy = false) :
    (reply .joinRun run).Faithful run := by
  have hnone : (run.bind (·.output)).filter Json.truthy = none := by
    rw [Option.filter_eq_none_iff]
    intro v hv
    simp [h v hv]
  rw [reply, respond, hnone]
  exact .inr ⟨rfl, h⟩

theorem reply_result {kind : ObserverKind} {run : Option Run} {output : Option JsonObject}
    (hkind : kind ≠ .joinRun) (h : outputMembers (run.bind (·.output)) = some output) :
    (reply kind run).Faithful run := by
  have hrespond : respond kind run =
      some (.result (run.map (·.status)) output (run.bind (·.errorMessage))) := by
    cases kind with
    | joinRun => exact absurd rfl hkind
    | waitForRun | createAndWait => rw [respond, h]; rfl
  rw [reply, hrespond]
  exact ⟨rfl, rfl, sameOutput_of_outputMembers h⟩

/-- What fits the response is returned as it is stored. -/
theorem reply_faithful {kind : ObserverKind} {run : Option Run}
    (h : presentable kind (run.bind (·.output)) = true) : (reply kind run).Faithful run := by
  by_cases hkind : kind = .joinRun
  · subst hkind
    cases hstored : run.bind (·.output) with
    | none => exact reply_falsy (by simp [hstored])
    | some v =>
      by_cases hv : v.truthy = true
      · cases v with
        | obj members =>
          rw [reply, respond, hstored, Option.filter_some, if_pos hv]
          exact .inl hstored
        | null => cases hv
        | bool | num | str | arr => simp [hstored, presentable, hv] at h
      · exact reply_falsy (by simpa [hstored] using hv)
  · cases hstored : run.bind (·.output) with
    | none => exact reply_result hkind (by rw [hstored]; rfl)
    | some v =>
      cases v with
      | null | obj => exact reply_result hkind (by rw [hstored]; rfl)
      | bool | num | str | arr => simp [hstored, presentable, hkind] at h

/-- The observer is not about to cancel the task it awaits, to be given the exception of a task that
has failed, or to build a response from an output that does not fit it. -/
def harmless (db : Database) (tasks : List Task) (o : Observer) (timeout : Bool) : Bool :=
  match o.stage with
  | .waiting =>
    match o.awaited tasks with
    | some none => !timeout
    | some (some .raised) => false
    | _ => true
  | .rereading => presentable o.kind ((db.run? o.runId).bind (·.output))
  | _ => true

theorem attach_eq (tasks : List Task) (o : Observer) :
    o.attach tasks = .waiting ∨ o.attach tasks = .rereading := by
  rw [attach]
  split
  · exact .inl rfl
  · exact .inr rfl

theorem afterReading_cases (db : Database) (tasks : List Task) (o : Observer) :
    (o.afterReading db tasks = .raised .notFound ∧ o.lookup db = none) ∨
      o.afterReading db tasks = .waiting ∨ o.afterReading db tasks = .rereading := by
  rw [afterReading]
  cases o.kind with
  | createAndWait => exact .inr (attach_eq tasks o)
  | joinRun | waitForRun =>
    cases hlookup : o.lookup db with
    | none => exact .inl ⟨rfl, rfl⟩
    | some run =>
      dsimp only
      split
      · exact .inr (.inr rfl)
      · exact .inr (attach_eq tasks o)

/-- **One step** of a harmless observer cancels nothing, and if it is a reply, it is faithful. -/
theorem step_harmless {db : Database} {tasks : List Task} {o : Observer} {timeout cancels : Bool}
    {stage : ObserverStage} (hstage : o.stage ≠ .timedOut) (ho : o.harmless db tasks timeout = true)
    (h : o.step db tasks timeout = some (stage, cancels)) :
    cancels = false ∧ stage ≠ .timedOut ∧
      (o.lookup db ≠ none → stage.Faithful (db.run? o.runId)) := by
  rw [step.eq_def] at h
  rw [harmless] at ho
  cases hat : o.stage with
  | reading =>
    simp only [hat, Option.some.injEq, Prod.mk.injEq] at h
    obtain ⟨rfl, rfl⟩ := h
    rcases afterReading_cases db tasks o with ⟨heq, hnone⟩ | heq | heq
    · exact ⟨rfl, by simp [heq], fun hfound => absurd hnone hfound⟩
    · exact ⟨rfl, by simp [heq], fun _ => by rw [heq]; trivial⟩
    · exact ⟨rfl, by simp [heq], fun _ => by rw [heq]; trivial⟩
  | waiting =>
    simp only [hat] at h ho
    cases hawaited : o.awaited tasks with
    | none =>
      rw [hawaited] at h
      cases h
    | some result =>
      rw [hawaited] at h ho
      cases result with
      | none =>
        cases timeout with
        | true => cases ho
        | false => cases h
      | some result =>
        cases h
        cases result with
        | returned | cancelled => exact ⟨rfl, by simp [afterTask], fun _ => trivial⟩
        | raised => cases ho
  | timedOut => exact absurd hat hstage
  | rereading =>
    simp only [hat, Option.some.injEq, Prod.mk.injEq] at h ho
    obtain ⟨rfl, rfl⟩ := h
    refine ⟨rfl, ?_, fun _ => reply_faithful ho⟩
    rw [reply]
    split <;> simp
  | returned | raised =>
    simp only [hat] at h
    cases h

end Observer

/-! ### Erasing the observers -/

/-- The arrival of an observer, or a step of one. -/
def Label.isObservation : Label → Bool
  | .requestObserver _ _ _ _ | .observe _ _ => true
  | _ => false

namespace Server

variable {setting : Setting} {s s' t : Server} {a : Label}

def withoutObservers (s : Server) : Server := { s with observers := [] }

/-- The other processes do not look at the observers. -/
theorem step_withoutObservers (h : a.isObservation = false) :
    s.withoutObservers.step setting a = (s.step setting a).map withoutObservers := by
  cases a with
  | requestObserver | observe => cases h
  | requestRun | requestControl | disconnect => rfl
  | create i =>
    simp only [step, Option.bind_eq_bind, Option.map_bind, Function.comp_def]
    rfl
  | execute i outcome =>
    simp only [step, Option.bind_eq_bind, Option.map_bind, Function.comp_def]
    rfl
  | control i ok =>
    simp only [step, Option.bind_eq_bind, Option.map_bind, Function.comp_def]
    rfl

/-- The observer that moves is harmless. -/
def harmless (s : Server) : Label → Bool
  | .observe i timeout => s.observers[i]?.all (·.harmless s.db s.tasks timeout)
  | _ => true

theorem harmless_observer {i : ℕ} {timeout : Bool} {o : Observer}
    (h : s.harmless (.observe i timeout) = true) (hget : s.observers[i]? = some o) :
    o.harmless s.db s.tasks timeout = true := by
  rwa [harmless, hget] at h

/-- An observer whose run is there does not fail, and what it returns is what is stored. -/
def RepliesAsStored (setting : Setting) (s : Server) (a : Label) : Prop :=
  ∀ i timeout s' o o', a = .observe i timeout → s.step setting a = some s' →
    s.observers[i]? = some o → s'.observers[i]? = some o' → o.lookup s.db ≠ none →
    o'.stage.Faithful (s'.db.run? o.runId)

/-- No observer has run out of time. -/
def NoneTimedOut (s : Server) : Prop := ∀ o ∈ s.observers, o.stage ≠ .timedOut

theorem observe_harmless {i : ℕ} {timeout : Bool} (hs : NoneTimedOut s)
    (ho : s.harmless (.observe i timeout) = true)
    (h : s.step setting (.observe i timeout) = some s') :
    NoneTimedOut s' ∧ s'.withoutObservers = s.withoutObservers := by
  obtain ⟨o, stage, cancels, hget, hstep, rfl⟩ := step_observe h
  obtain ⟨rfl, hstage, -⟩ := Observer.step_harmless (hs o (List.mem_of_getElem? hget))
    (harmless_observer ho hget) hstep
  exact ⟨forall_set hstage hs, rfl⟩

theorem noneTimedOut_step (hs : NoneTimedOut s) (ho : s.harmless a = true)
    (h : s.step setting a = some s') : NoneTimedOut s' := by
  cases a with
  | requestObserver =>
    cases h
    exact forall_append (by simp) hs
  | observe i timeout => exact (observe_harmless hs ho h).1
  | requestRun | requestControl =>
    cases h
    exact hs
  | create i =>
    obtain ⟨c, db, stage, -, -, rfl⟩ := step_create h
    exact hs
  | execute i outcome =>
    obtain ⟨task, db, task', -, -, rfl⟩ := step_execute h
    exact hs
  | disconnect runId => rcases step_disconnect h with rfl | rfl <;> exact hs
  | control i ok =>
    obtain ⟨c, db, stage, -, -, rfl⟩ := step_control h
    exact hs

theorem repliesAsStored_step (hs : NoneTimedOut s) (ho : s.harmless a = true) :
    RepliesAsStored setting s a := by
  rintro i timeout s' o o' rfl h hget hget' hfound
  obtain ⟨o₁, stage, cancels, hget₁, hstep, rfl⟩ := step_observe h
  obtain rfl : o₁ = o := Option.some.inj (hget₁.symm.trans hget)
  obtain ⟨hi, -⟩ := List.getElem?_eq_some_iff.mp hget
  obtain rfl : { o₁ with stage } = o' := by
    rw [List.getElem?_set_self hi] at hget'
    exact Option.some.inj hget'
  exact (Observer.step_harmless (hs o₁ (List.mem_of_getElem? hget))
    (harmless_observer ho hget) hstep).2.2 hfound

/-- **Observing a run does not change it**, as long as no observer runs out of time while the task
it awaits is at work, none awaits a task that has failed, and the stored output fits the response:
without the observers the server comes to the same tables, tasks and requests, and every observer
whose run is there returns what is stored. -/
theorem observing_changes_nothing (setting : Setting) (s t : Server) (as : List Label)
    (hnone : s.observers = [])
    (hharmless : Along (step setting) (fun s a => s.harmless a = true) s as)
    (hrun : exec (step setting) s as = some t) :
    exec (step setting) s (as.filter fun a => !a.isObservation) = some t.withoutObservers ∧
      Along (step setting) (RepliesAsStored setting) s as := by
  have hs : NoneTimedOut s := by simp [NoneTimedOut, hnone]
  have hinv : ∀ s a s', NoneTimedOut s → s.harmless a = true → s.step setting a = some s' →
      NoneTimedOut s' := fun s a s' hs ho h => noneTimedOut_step hs ho h
  refine ⟨?_, along_of_invariant hinv (fun s a hs ho => repliesAsStored_step hs ho) hs hharmless⟩
  have hskip : ∀ s a s', NoneTimedOut s → s.harmless a = true → (!a.isObservation) = false →
      s.step setting a = some s' → s'.withoutObservers = s.withoutObservers := by
    intro s a s' hs ho hkeep h
    cases a with
    | requestObserver =>
      cases h
      rfl
    | observe i timeout => exact (observe_harmless hs ho h).2
    | requestRun | create | execute | disconnect | requestControl | control => cases hkeep
  have hkeep : ∀ s a s', NoneTimedOut s → s.harmless a = true → (!a.isObservation) = true →
      s.step setting a = some s' →
      s.withoutObservers.step setting a = some s'.withoutObservers := by
    intro s a s' _ _ hkeep h
    rw [step_withoutObservers (by simpa using hkeep), h]
    rfl
  have herase : exec (step setting) s.withoutObservers (as.filter fun a => !a.isObservation) =
      some t.withoutObservers := exec_erase withoutObservers _ hinv hskip hkeep hs hharmless hrun
  have hstart : s.withoutObservers = s := by rw [withoutObservers, ← hnone]
  rwa [hstart] at herase

/-- A run with an observer from its start; the observer goes on when `labels` are done. -/
def observedLabels (kind : ObserverKind) (labels : List Label) : List Label :=
  creationLabels .run "t" "r" 0 ++
    [.requestObserver kind ⟨"alice", none⟩ "t" "r", .observe 0 false] ++ labels

/-- The run completes while the observer waits. -/
def joinedLabels : List Label :=
  observedLabels .joinRun (taskLabels 0 false ++ [.observe 0 false, .observe 0 false])

/-- Where this run of the server ends. -/
def joinedServer : Server :=
  (exec (step exampleSetting) (idle exampleDatabase) joinedLabels).get (by decide)

/-- An observer waits for a run until it has completed. -/
theorem observing_changes_nothing_joined :
    exec (step exampleSetting) (idle exampleDatabase)
        (joinedLabels.filter fun a => !a.isObservation) = some joinedServer.withoutObservers ∧
      Along (step exampleSetting) (RepliesAsStored exampleSetting) (idle exampleDatabase)
        joinedLabels :=
  observing_changes_nothing exampleSetting (idle exampleDatabase) joinedServer joinedLabels rfl
    (by decide) (Option.some_get _).symm

/-- The time of an observer is up while the graph is streaming: the run ends cancelled, and the
steps of its task are not those of a run without observers. -/
theorem timeout_cancels :
    ¬ ∀ (setting : Setting) (s t : Server) (as : List Label), s.observers = [] →
      exec (step setting) s as = some t →
      exec (step setting) s (as.filter fun a => !a.isObservation) = some t.withoutObservers := by
  intro h
  have hrun : (exec (step exampleSetting) (idle exampleDatabase)
      (observedLabels .joinRun [.execute 0 .completes, .execute 0 .completes, .observe 0 true,
        .execute 0 (.cancelled false), .execute 0 .completes])).any
          (fun t => (t.db.run? "r").any (·.status = .cancelled)) = true := by
    decide
  obtain ⟨t, ht, -⟩ := (Option.any_eq_true _ _).mp hrun
  have herased := h exampleSetting (idle exampleDatabase) t _ rfl ht
  have hstuck : (exec (step exampleSetting) (idle exampleDatabase)
      ((observedLabels .joinRun [.execute 0 .completes, .execute 0 .completes, .observe 0 true,
        .execute 0 (.cancelled false), .execute 0 .completes]).filter
          fun a => !a.isObservation)).isNone = true := by
    decide
  rw [herased] at hstuck
  cases hstuck

end Server

end OpenLangGraph

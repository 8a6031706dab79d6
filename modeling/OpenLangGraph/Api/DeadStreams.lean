import OpenLangGraph.Api.ReleaseRun

/-!
# Streams of dead runs

A run is dead when nothing can put an event to its broker any more: its executor has ended, or it
never had one, since the cron scheduler executes its runs without a broker. This module is about a
consumer that enters `stream_run_execution` of such a run.

## Whether to wait

The consumer was given the run with a status, replays the stored events, and then looks the broker
up. It leaves at once if the status is one of four *and* the broker is finished. Otherwise it reads
the broker, and ends with it; a broker that is not finished is waited for. A broker that the
look-up itself has created is never finished by an executor that has ended before.

## Removed brokers

A consumer keeps the broker it reads. When the cleanup loop removes this broker, it is finished and
empty, and the consumer ends with its next poll.

## Main definitions

* `DeadStream.State`, `DeadStream.Label`, `DeadStream.step`
* `DeadStream.State.isStranded` — a consumer that waits on a dead run
* `DeadStream.findsFinished` — the look-up finds a finished broker

## Main results

* `DeadStream.never_stranded_iff` — when a consumer of a dead run never waits
* `DeadStream.along_findsFinished` — after a release, while the broker is kept
-/

open PyString

namespace OpenLangGraph

open Transition
open RunStream (exampleSetup)

namespace DeadStream

/-- Where the consumer is. -/
inductive Consumer
  | absent
  /-- sending the stored events; the status is that of the run it was given -/
  | replaying (status : RunStatus)
  /-- reading the registered broker, or one that has been removed -/
  | live (removed : Option RunBroker)
  | ended

structure State where
  run : RunRelease.State
  consumer : Consumer

inductive Label
  /-- a step of the executor, of a request, of another consumer or of the cleanup loop -/
  | run (l : RunRelease.Label)
  /-- the consumer enters with a status of the run -/
  | enter (status : RunStatus)
  /-- a stored event is sent -/
  | replay
  /-- `get_or_create_broker`, and the decision whether to read it -/
  | lookUp
  /-- the consumer takes an event, or its poll finds the broker finished and empty -/
  | consume
  /-- the stream is closed or fails -/
  | leave

/-- The consumer after a step of the others: the broker it reads may have been removed. -/
def State.consumerAfter (s : State) (run : RunRelease.State) : Consumer :=
  match s.consumer, s.run.manager.entry, run.manager.entry with
  | .live none, some e, none => .live (some e.broker.markFinished)
  | consumer, _, _ => consumer

/-- The consumer after an event or the end of a broker. -/
def Consumer.received (consumer : Consumer) : Option (Str × PyVal) → Consumer
  | some item => if RunBroker.isEnd item.2 then .ended else consumer
  | none => .ended

/-- The consumer reads its broker; `none` is waiting. -/
def consume (s : State) : Option State :=
  match s.consumer with
  | .live none => do
    let e ← s.run.manager.entry
    let (event, broker) ← e.broker.takeNext
    return { run := { s.run with manager := s.run.manager.setBroker broker }
             consumer := (Consumer.live none).received event }
  | .live (some removed) => do
    let (event, broker) ← removed.takeNext
    return { s with consumer := (Consumer.live (some broker)).received event }
  | _ => none

/-- The consumer looks the broker up. -/
def lookUp (s : State) (status : RunStatus) : State :=
  { run := { s.run with manager := s.run.manager.getOrCreateBroker }
    consumer :=
      if status.isOver && s.run.manager.getOrCreateBroker.isFinished then .ended
      else .live none }

def step (cfg : BrokerConfig) (jsonb : Jsonb) (s : State) : Label → Option State
  | .run l =>
    (RunRelease.step cfg jsonb s.run l).map fun run => { run, consumer := s.consumerAfter run }
  | .enter status =>
    match s.consumer with
    | .absent => some { s with consumer := .replaying status }
    | _ => none
  | .replay =>
    match s.consumer with
    | .replaying _ => some s
    | _ => none
  | .lookUp =>
    match s.consumer with
    | .replaying status => some (lookUp s status)
    | _ => none
  | .consume => consume s
  | .leave => some { s with consumer := .ended }

/-- The broker that the consumer reads. -/
def State.broker? (s : State) : Option RunBroker :=
  match s.consumer with
  | .live none => s.run.manager.entry.map (·.broker)
  | .live (some removed) => some removed
  | _ => none

/-- The consumer waits on a dead run. -/
def State.isStranded (s : State) : Bool :=
  s.run.task.isDone && s.broker?.any (·.takeNext.isNone)

/-- A look-up finds a broker that is registered and finished. -/
def findsFinished (s : State) : Label → Bool
  | .lookUp => s.run.manager.isFinished
  | _ => true

/-! ### What a step can do -/

variable {cfg : BrokerConfig} {jsonb : Jsonb} {s s' : State} {l : Label}

/-- What a step can do, one constructor for each thing. -/
inductive Moves (cfg : BrokerConfig) (jsonb : Jsonb) (s : State) : Label → State → Prop
  | run {l : RunRelease.Label} {run : RunRelease.State}
      (hrun : RunRelease.step cfg jsonb s.run l = some run) :
      Moves cfg jsonb s (.run l) { run, consumer := s.consumerAfter run }
  | enter (status : RunStatus) (hconsumer : s.consumer = .absent) :
      Moves cfg jsonb s (.enter status) { s with consumer := .replaying status }
  | replay : Moves cfg jsonb s .replay s
  | lookUp {status : RunStatus} (hconsumer : s.consumer = .replaying status) :
      Moves cfg jsonb s .lookUp (lookUp s status)
  | consume {e : BrokerEntry} {event : Option (Str × PyVal)} {broker : RunBroker}
      (hconsumer : s.consumer = .live none) (he : s.run.manager.entry = some e)
      (htake : e.broker.takeNext = some (event, broker)) :
      Moves cfg jsonb s .consume
        { run := { s.run with manager := s.run.manager.setBroker broker }
          consumer := (Consumer.live none).received event }
  | consumeRemoved {removed : RunBroker} {event : Option (Str × PyVal)} {broker : RunBroker}
      (hconsumer : s.consumer = .live (some removed))
      (htake : removed.takeNext = some (event, broker)) :
      Moves cfg jsonb s .consume
        { s with consumer := (Consumer.live (some broker)).received event }
  | leave : Moves cfg jsonb s .leave { s with consumer := .ended }

theorem step_cases (h : step cfg jsonb s l = some s') : Moves cfg jsonb s l s' := by
  cases l with
  | run l =>
    obtain ⟨run, hrun, rfl⟩ := Option.map_eq_some_iff.mp h
    exact .run hrun
  | enter status =>
    rw [step] at h
    split at h
    · rename_i hconsumer
      obtain rfl := Option.some.inj h
      exact .enter status hconsumer
    · cases h
  | replay =>
    rw [step] at h
    split at h
    · obtain rfl := Option.some.inj h
      exact .replay
    · cases h
  | lookUp =>
    rw [step] at h
    split at h
    · rename_i hconsumer
      obtain rfl := Option.some.inj h
      exact .lookUp hconsumer
    · cases h
  | consume =>
    rw [step, consume] at h
    split at h
    · rename_i hconsumer
      obtain ⟨e, he, h⟩ := Option.bind_eq_some_iff.mp h
      obtain ⟨⟨event, broker⟩, htake, h⟩ := Option.bind_eq_some_iff.mp h
      obtain rfl := Option.some.inj h
      exact .consume hconsumer he htake
    · rename_i hconsumer
      obtain ⟨⟨event, broker⟩, htake, h⟩ := Option.bind_eq_some_iff.mp h
      obtain rfl := Option.some.inj h
      exact .consumeRemoved hconsumer htake
    · cases h
  | leave =>
    obtain rfl := Option.some.inj h
    exact .leave

/-! ### A finished broker is not waited for -/

/-- The consumer reads a finished broker, if it reads one. -/
def State.ReadsFinished (s : State) : Prop :=
  match s.consumer with
  | .live none => s.run.manager.isFinished = true
  | .live (some removed) => removed.finished = true
  | _ => True

theorem State.ReadsFinished.finished (hs : s.ReadsFinished) {broker : RunBroker}
    (hbroker : s.broker? = some broker) : broker.finished = true := by
  rw [State.ReadsFinished] at hs
  rw [State.broker?] at hbroker
  cases hconsumer : s.consumer with
  | live removed =>
    rw [hconsumer] at hs hbroker
    cases removed with
    | none =>
      obtain ⟨e, he, rfl⟩ := Option.map_eq_some_iff.mp hbroker
      obtain ⟨e', he', hfinished⟩ := BrokerManager.isFinished_iff.mp hs
      obtain rfl := Option.some.inj (he.symm.trans he')
      exact hfinished
    | some removed =>
      obtain rfl := Option.some.inj hbroker
      exact hs
  | absent | replaying | ended =>
    rw [hconsumer] at hbroker
    cases hbroker

theorem State.ReadsFinished.not_stranded (hs : s.ReadsFinished) : s.isStranded = false := by
  rw [State.isStranded]
  cases hbroker : s.broker? with
  | none => exact Bool.and_false _
  | some broker =>
    have htakes : broker.takeNext.isNone = false := by
      rw [Option.isNone_eq_false_iff, Option.isSome_iff_ne_none]
      intro hnone
      have hunfinished := (RunBroker.takeNext_eq_none_iff.mp hnone).2
      exact absurd ((hs.finished hbroker).symm.trans hunfinished) nofun
    rw [Option.any_some, htakes]
    exact Bool.and_false _

/-- The end of a broker ends the consumer, and so does an end event. -/
theorem readsFinished_received {consumer : Consumer} {run : RunRelease.State}
    {event : Option (Str × PyVal)} (hs : (State.mk run consumer).ReadsFinished) :
    (State.mk run (consumer.received event)).ReadsFinished := by
  cases event with
  | none => trivial
  | some item =>
    rw [Consumer.received]
    split
    · trivial
    · exact hs

/-- A step of the others keeps the broker that the consumer reads, or removes it. -/
theorem readsFinished_consumerAfter {run : RunRelease.State} (hs : s.ReadsFinished)
    (hrun : s.run.manager.isFinished = true →
      run.manager.isFinished = true ∨ run.manager.entry = none) :
    (State.mk run (s.consumerAfter run)).ReadsFinished := by
  rw [State.ReadsFinished] at hs
  rw [State.consumerAfter]
  cases hconsumer : s.consumer with
  | live removed =>
    rw [hconsumer] at hs
    cases removed with
    | none =>
      obtain ⟨e, he, -⟩ := BrokerManager.isFinished_iff.mp hs
      rw [he]
      rcases hrun hs with hkept | hnone
      · obtain ⟨e', he', -⟩ := BrokerManager.isFinished_iff.mp hkept
        rw [he']
        exact hkept
      · rw [hnone]
        rfl
    | some removed => exact hs
  | absent | replaying | ended => trivial

theorem isFinished_lookUp (hfinished : s.run.manager.isFinished = true) (status : RunStatus) :
    (lookUp s status).run.manager.isFinished = true := by
  rw [lookUp, BrokerManager.getOrCreateBroker_of_isSome
    (BrokerManager.isSome_of_isFinished hfinished)]
  exact hfinished

/-- **The invariant of a consumer that found a finished broker**: what it reads stays finished, in
the manager or out of it. -/
theorem readsFinished_step (hs : s.ReadsFinished) (hfinds : findsFinished s l = true)
    (h : step cfg jsonb s l = some s') : s'.ReadsFinished := by
  cases step_cases h with
  | run hrun =>
    refine readsFinished_consumerAfter hs fun hfinished => ?_
    rcases RunRelease.isFinished_step hfinished hrun with hkept | ⟨-, -, hnone⟩
    · exact .inl hkept
    · exact .inr hnone
  | enter | leave => trivial
  | replay => exact hs
  | @lookUp status hconsumer =>
    have hkept := isFinished_lookUp hfinds status
    rw [State.ReadsFinished]
    split
    · exact hkept
    · rename_i hlive
      rw [lookUp] at hlive
      dsimp only at hlive
      split at hlive <;> cases hlive
    · trivial
  | consume hconsumer he htake =>
    rw [State.ReadsFinished, hconsumer] at hs
    refine readsFinished_received ?_
    exact BrokerManager.isFinished_takeNext hs he htake
  | consumeRemoved hconsumer htake =>
    rw [State.ReadsFinished, hconsumer] at hs
    exact readsFinished_received ((RunBroker.finished_takeNext htake).trans hs)

/-! ### A broker that is not finished is waited for -/

/-- A dead run stays dead. -/
theorem isDone_step (hdead : s.run.task.isDone = true) (h : step cfg jsonb s l = some s') :
    s'.run.task.isDone = true := by
  cases step_cases h with
  | run hrun => exact RunRelease.isDone_step hdead hrun
  | enter | replay | lookUp | consume | consumeRemoved | leave => exact hdead

/-- Another consumer takes an event of the broker that the consumer reads. -/
theorem step_take (cfg : BrokerConfig) (jsonb : Jsonb) {item : Str × PyVal}
    {queue : List (Str × PyVal)} {createdAt : ℕ} (hconsumer : s.consumer = .live none)
    (he : s.run.manager.entry = some ⟨⟨item :: queue, false⟩, createdAt⟩) :
    ∃ s', step cfg jsonb s (.run (.broker .take)) = some s' ∧ s'.run.task = s.run.task ∧
      s'.consumer = .live none ∧ s'.run.manager.entry = some ⟨⟨queue, false⟩, createdAt⟩ := by
  have htake : s.run.manager.take = some (s.run.manager.setBroker ⟨queue, false⟩) := by
    rw [BrokerManager.take, he]
    rfl
  have hentry : (s.run.manager.setBroker ⟨queue, false⟩).entry =
      some ⟨⟨queue, false⟩, createdAt⟩ := by
    rw [BrokerManager.setBroker, he]
    rfl
  refine ⟨⟨{ s.run with manager := s.run.manager.setBroker ⟨queue, false⟩ }, .live none⟩, ?_, rfl,
    rfl, hentry⟩
  rw [step, RunRelease.step, BrokerManager.move, htake]
  show some (State.mk _ (s.consumerAfter _)) = _
  rw [State.consumerAfter, hconsumer, he, hentry]

/-- Once others have taken what is left in a broker that is not finished, the consumer that reads
it waits. -/
theorem stranded_of_unfinished (cfg : BrokerConfig) (jsonb : Jsonb) {e : BrokerEntry}
    (hdead : s.run.task.isDone = true) (hconsumer : s.consumer = .live none)
    (he : s.run.manager.entry = some e) (hunfinished : e.broker.finished = false) :
    ∃ post t, (∀ a ∈ post, a ≠ Label.lookUp) ∧ exec (step cfg jsonb) s post = some t ∧
      t.isStranded = true := by
  obtain ⟨⟨queue, finished⟩, createdAt⟩ := e
  obtain rfl : finished = false := hunfinished
  induction queue generalizing s with
  | nil =>
    refine ⟨[], s, nofun, rfl, ?_⟩
    rw [State.isStranded, hdead, State.broker?, hconsumer, he]
    rfl
  | cons item queue ih =>
    obtain ⟨s', hs', htask, hconsumer', he'⟩ := step_take cfg jsonb hconsumer he
    obtain ⟨post, t, hpost, ht, hstranded⟩ := ih (htask ▸ hdead) hconsumer' he'
    refine ⟨.run (.broker .take) :: post, t, ?_, ?_, hstranded⟩
    · rw [List.forall_mem_cons]
      exact ⟨nofun, hpost⟩
    · rw [exec_cons, hs']
      exact ht

/-- A look-up that finds no finished broker leads to waiting. -/
theorem stranded_of_lookUp (hdead : s.run.task.isDone = true)
    (hfinds : s.run.manager.isFinished = false) (h : step cfg jsonb s .lookUp = some s') :
    ∃ post t, (∀ a ∈ post, a ≠ Label.lookUp) ∧ exec (step cfg jsonb) s' post = some t ∧
      t.isStranded = true := by
  rw [step] at h
  split at h
  · rename_i status hconsumer
    obtain rfl := Option.some.inj h
    obtain ⟨e, he⟩ := Option.isSome_iff_exists.mp
      (BrokerManager.isSome_getOrCreateBroker s.run.manager)
    have hunfinished : s.run.manager.getOrCreateBroker.isFinished = false := by
      rw [BrokerManager.getOrCreateBroker]
      split
      · exact hfinds
      · rfl
    refine stranded_of_unfinished cfg jsonb (e := e) hdead ?_ he ?_
    · rw [lookUp, hunfinished, Bool.and_false]
      rfl
    · rw [BrokerManager.isFinished, he] at hunfinished
      exact hunfinished
  · cases h

/-! ### Runs -/

theorem along_of_no_lookUp {labels : List Label} (h : ∀ a ∈ labels, a ≠ .lookUp) :
    Along (step cfg jsonb) (fun s a => findsFinished s a = true) s labels := by
  induction labels generalizing s with
  | nil => trivial
  | cons a labels ih =>
    obtain ⟨ha, h⟩ := List.forall_mem_cons.mp h
    refine ⟨?_, fun s' _ => ih h⟩
    cases a with
    | lookUp => exact absurd rfl ha
    | run | enter | replay | consume | leave => rfl

/-- A consumer that never waits has found a finished broker. -/
theorem along_of_never_stranded {labels : List Label} (hdead : s.run.task.isDone = true)
    (h : exec (step cfg jsonb) s labels = some s')
    (hnever : ∀ pre post t, pre <+: labels → (∀ a ∈ post, a ≠ Label.lookUp) →
      exec (step cfg jsonb) s (pre ++ post) = some t → t.isStranded = false) :
    Along (step cfg jsonb) (fun s a => findsFinished s a = true) s labels := by
  induction labels generalizing s with
  | nil => trivial
  | cons a labels ih =>
    obtain ⟨s₁, hs₁, h⟩ := exec_cons_eq_some.mp h
    refine ⟨?_, fun t ht => ?_⟩
    · cases a with
      | lookUp =>
        by_contra hunfinished
        obtain ⟨post, t, hpost, ht, hstranded⟩ :=
          stranded_of_lookUp hdead (eq_false_of_ne_true hunfinished) hs₁
        have hnot := hnever [.lookUp] post t ((List.prefix_cons_inj _).mpr List.nil_prefix) hpost
          (exec_cons_eq_some.mpr ⟨s₁, hs₁, ht⟩)
        exact absurd (hstranded.symm.trans hnot) nofun
      | run | enter | replay | consume | leave => rfl
    · obtain rfl := Option.some.inj (hs₁.symm.trans ht)
      refine ih (isDone_step hdead hs₁) h fun pre post t hpre hpost ht => ?_
      exact hnever (a :: pre) post t ((List.prefix_cons_inj a).mpr hpre) hpost
        (exec_cons_eq_some.mpr ⟨s₁, hs₁, ht⟩)

/-- **When a consumer of a dead run never waits**: its run finds a finished broker at every look-up
exactly if the consumer waits neither at any time of it, nor at any time of a run that goes on from
there without another look-up. -/
theorem never_stranded_iff {s₀ : State} {labels : List Label} (hdead : s₀.run.task.isDone = true)
    (habsent : s₀.consumer = .absent) (h : exec (step cfg jsonb) s₀ labels = some s) :
    (∀ pre post t, pre <+: labels → (∀ a ∈ post, a ≠ Label.lookUp) →
        exec (step cfg jsonb) s₀ (pre ++ post) = some t → t.isStranded = false) ↔
      Along (step cfg jsonb) (fun s a => findsFinished s a = true) s₀ labels := by
  constructor
  · exact along_of_never_stranded hdead h
  · rintro halong pre post t ⟨rest, rfl⟩ hpost ht
    have hstart : s₀.ReadsFinished := by
      rw [State.ReadsFinished, habsent]
      trivial
    have hpre := (along_append.mp halong).1
    refine State.ReadsFinished.not_stranded ?_
    exact exec_invariant (fun _ _ _ => readsFinished_step) hstart
      (along_append.mpr ⟨hpre, fun _ _ => along_of_no_lookUp hpost⟩) ht

/-- The step does not remove the broker of the run. -/
def keepsBroker (s : State) : Label → Bool
  | .run (.broker .sweep) => !s.run.manager.isOld
  | _ => true

/-- Every other step keeps the broker of the manager finished. -/
theorem isFinished_step (hfinished : s.run.manager.isFinished = true)
    (hkeeps : keepsBroker s l = true) (h : step cfg jsonb s l = some s') :
    s'.run.manager.isFinished = true := by
  cases step_cases h with
  | run hrun =>
    rcases RunRelease.isFinished_step hfinished hrun with hkept | ⟨rfl, hold, -⟩
    · exact hkept
    · rw [keepsBroker, hold] at hkeeps
      cases hkeeps
  | enter | replay | consumeRemoved | leave => exact hfinished
  | lookUp => exact isFinished_lookUp hfinished _
  | consume hconsumer he htake => exact BrokerManager.isFinished_takeNext hfinished he htake

/-- **After a release**: as long as the cleanup loop leaves the broker of a released run alone,
every look-up finds it finished. -/
theorem along_findsFinished {labels : List Label} (hreleased : s.run.Released)
    (hsome : s.run.manager.entry.isSome = true)
    (hkeeps : Along (step cfg jsonb) (fun s a => keepsBroker s a = true) s labels) :
    Along (step cfg jsonb) (fun s a => findsFinished s a = true) s labels := by
  refine along_of_invariant (fun _ _ _ => isFinished_step) (fun t a ht _ => ?_) ?_ hkeeps
  · cases a with
    | lookUp => exact ht
    | run | enter | replay | consume | leave => rfl
  · obtain ⟨e, he⟩ := Option.isSome_iff_exists.mp hsome
    have hstreaming := hreleased.broker
    rw [BrokerManager.isRunStreaming, he] at hstreaming
    exact BrokerManager.isFinished_iff.mpr ⟨e, he, by simpa using hstreaming⟩

/-! ### An interrupted run -/

/-- A consumer of an interrupted run, with one stored event. -/
def lateLabels : List Label := [.enter .interrupted, .replay, .lookUp]

/-- The run has been released, and its broker is kept. -/
def interruptedRun : RunRelease.State :=
  (exec (RunRelease.step exampleSetup.broker exampleSetting.jsonb) RunRelease.requested
    (RunRelease.gracefulLabels true ++ [.await .completes])).get (by decide)

theorem never_stranded_interrupted :
    ∃ s, exec (step exampleSetup.broker exampleSetting.jsonb) ⟨interruptedRun, .absent⟩ lateLabels =
        some s ∧
      ∀ pre post t, pre <+: lateLabels → (∀ a ∈ post, a ≠ Label.lookUp) →
        exec (step exampleSetup.broker exampleSetting.jsonb) ⟨interruptedRun, .absent⟩
          (pre ++ post) = some t → t.isStranded = false := by
  obtain ⟨s, hs⟩ : ∃ s, exec (step exampleSetup.broker exampleSetting.jsonb)
      ⟨interruptedRun, .absent⟩ lateLabels = some s := ⟨_, rfl⟩
  exact ⟨s, hs, (never_stranded_iff rfl rfl hs).mpr (by decide)⟩

/-- **A consumer that waits for ever**: the one event has been taken, an hour has passed, and the
cleanup loop has removed the broker. The consumer makes a new one. -/
theorem stranded_after_removal :
    ¬ ∀ (cfg : BrokerConfig) (jsonb : Jsonb) (s₀ r : RunRelease.State)
      (past : List RunRelease.Label) (labels : List Label) (t : State),
      s₀.Started → exec (RunRelease.step cfg jsonb) s₀ past = some r → r.task.isDone = true →
        exec (step cfg jsonb) ⟨r, .absent⟩ labels = some t → t.isStranded = false := by
  intro h
  have hnot := h exampleSetup.broker exampleSetting.jsonb RunRelease.requested _
    (RunRelease.gracefulLabels true ++ [.await .completes, .broker .take, .broker (.tick 3601),
      .broker .sweep]) lateLabels _ RunRelease.started_requested rfl rfl rfl
  exact absurd hnot (by decide)

end DeadStream

end OpenLangGraph

import OpenLangGraph.Core.Orm
import OpenLangGraph.Foundation.Transition
import OpenLangGraph.Services.StreamingService

/-!
# One run and its stream

The streaming side of one run as a labelled transition system: the producer in
`execute_run_async`, the broker, the storage batch, the `run_events` table, and one consumer that
connects, disconnects and reconnects as it likes.

## Steps

A step is what happens between two awaits, so the steps of the two parties interleave freely. The
producer takes an event from the graph, puts it to the broker (which may have to wait for room),
stores it, and when a batch is full awaits the insert of the batch. The insert may fail. At the
end it writes the final status, after a failure it signals an `end` event, and `cleanup_run`
flushes what is left and finishes the broker. The consumer is `stream_run` or, without the check
of the status, `stream_run_execution`: it replays the rows of one query, then drains the queue.

## What the labels decide

The events of the graph, whether an insert succeeds, how the graph ends, when rows expire, what
`Last-Event-ID` a client presents: everything the program does not decide is in the label.

## Main definitions

* `State`, `Label`, `step`
* `Produces`, `Consumes` — the steps of the two parties, one constructor for each thing that can
  happen

## Main results

* `step_cases` — every step is one of these, or rows expire, or a connection starts or ends
-/

open PyString

namespace OpenLangGraph

namespace RunStream

open EventStore EventConverter StreamingService Transition

/-- What stays fixed during a run. -/
structure Setup where
  unicode : UnicodeDb
  jsonb : Jsonb
  runtime : Runtime
  runId : RunId
  broker : BrokerConfig
  /-- `max(int(EVENT_STORE_BATCH_SIZE), 1)` -/
  batchSize : ℕ
  batchSize_pos : 0 < batchSize
  onlyInterruptUpdates : Bool

/-- Where `execute_run_async` is; `n` is its `event_counter`. -/
inductive Producer
  /-- created, but not running yet -/
  | starting
  /-- awaiting the next event of the graph -/
  | running (n : ℕ)
  /-- in `put_to_broker` for the event `n` -/
  | putting (n : ℕ) (rawEvent : PyVal)
  /-- in `store_event_from_raw`, before the append -/
  | storing (n : ℕ) (rawEvent : PyVal)
  /-- awaiting the insert of a batch taken from `_storage_batches` -/
  | flushing (n : ℕ) (batch : List SSEEvent)
  /-- an exception was caught; the final status is still to be written -/
  | failing (n : ℕ)
  /-- in `signal_run_cancelled` or `signal_run_error` -/
  | signalling (n : ℕ) (cancelled : Bool)
  /-- about to enter `cleanup_run` -/
  | finishing (n : ℕ)
  /-- awaiting the insert in `cleanup_run` -/
  | cleaning (n : ℕ) (batch : List SSEEvent)
  | done (n : ℕ)

/-- Where the consumer is. -/
inductive Consumer
  | absent
  /-- connected, with the status of the run as it was read; the replay query is still to come -/
  | connected (status : RunStatus) (lastEventId : Option Str)
  /-- replaying the remaining rows of the query -/
  | replaying (status : RunStatus) (lastSentSequence : ℤ) (rows : List Row)
  /-- draining the broker -/
  | live (lastSentSequence : ℤ)
  /-- the stream has ended, by an error event or not -/
  | ended (error : Bool)

structure State where
  producer : Producer
  broker : RunBroker
  /-- `_storage_batches[run_id]` -/
  batch : List SSEEvent
  /-- The rows of the run in `run_events`, oldest first. -/
  table : List Row
  status : RunStatus
  consumer : Consumer
  /-- The messages of the current connection. -/
  sent : List SseMessage
  /-- The events the graph has emitted, with their sequence numbers. -/
  emitted : List (ℕ × PyVal)

/-- Before the first step of the executor. -/
def init : State :=
  { producer := .starting, broker := .empty, batch := [], table := [], status := .pending,
    consumer := .absent, sent := [], emitted := [] }

inductive Label
  /-- the executor writes the status `running` -/
  | start
  /-- the graph emits an event -/
  | emit (rawEvent : PyVal)
  | put
  | store
  /-- the insert of a batch succeeds or fails -/
  | commit (ok : Bool)
  /-- the graph ends; `interrupted` says how the run ends -/
  | finish (interrupted : Bool)
  /-- the graph raises -/
  | fail
  /-- the final status of a failed or cancelled run is written -/
  | recordFailure (cancelled : Bool)
  | signal
  | cleanup
  /-- `_cleanup_old_runs` deletes the oldest rows -/
  | expire (rows : ℕ)
  /-- `stream_run` -/
  | streamRun (lastEventId : Option Str)
  /-- `stream_run_execution` for a run read with the given status -/
  | attach (status : RunStatus) (lastEventId : Option Str)
  /-- the consumer takes its next step -/
  | consume
  | disconnect

/-! ### The producer -/

/-- The id of the event with a sequence number. -/
def Setup.eventId (S : Setup) (n : ℕ) : Str := generateEventId S.runId n

/-- The sequence number in an event id. -/
def Setup.seq (S : Setup) (eventId : Str) : ℤ := extractEventSequence S.unicode eventId

@[simp] theorem Setup.seq_eventId (S : Setup) (n : ℕ) : S.seq (S.eventId n) = n :=
  extractEventSequence_generateEventId S.unicode S.runId n

/-- `put_to_broker`. An exception leads to the handlers of `execute_run_async`. -/
def putToBroker (S : Setup) (s : State) (n : ℕ) (rawEvent : PyVal) : Option State :=
  match processInterruptUpdates rawEvent S.onlyInterruptUpdates with
  | none => some { s with producer := .failing n }
  | some (_, true) => some { s with producer := .storing n rawEvent }
  | some (processedEvent, false) =>
    (s.broker.put S.broker (S.eventId n) processedEvent).map fun broker =>
      { s with producer := .storing n rawEvent, broker }

/-- `store_event_from_raw`, with `_flush_storage_batch` up to its await. -/
def storeEventFromRaw (S : Setup) (s : State) (n : ℕ) (rawEvent : PyVal) : State :=
  match storageEvent (S.eventId n) rawEvent S.onlyInterruptUpdates with
  | none => { s with producer := .failing n }
  | some none => { s with producer := .running n }
  | some (some (event, force)) =>
    let batch := s.batch ++ [event]
    if force || S.batchSize ≤ batch.length then
      { s with producer := .flushing n batch, batch := [] }
    else { s with producer := .running n, batch }

/-- The table after `store_events`, if the insert succeeds. -/
def insertBatch (S : Setup) (s : State) (batch : List SSEEvent) (ok : Bool) : Option (List Row) :=
  if ok then storeEvents S.unicode S.jsonb s.table batch else none

/-- The end of the await in `_flush_storage_batch`, outside and inside `cleanup_run`. -/
def commitBatch (S : Setup) (s : State) (ok : Bool) : Option State :=
  match s.producer with
  | .flushing n batch =>
    match insertBatch S s batch ok with
    | some table => some { s with producer := .running n, table }
    | none => some { s with producer := .failing n }
  | .cleaning n batch =>
    match insertBatch S s batch ok with
    | some table => some { s with producer := .done n, table, broker := s.broker.markFinished }
    -- the exception leaves `cleanup_run` before it reaches `cleanup_broker`
    | none => some { s with producer := .done n }
  | _ => none

/-- The event that `signal_run_cancelled` or `signal_run_error` puts. -/
def endEvent (S : Setup) (cancelled : Bool) : PyVal :=
  if cancelled then .tuple [.str "end", .dict [(.str "status", .str "cancelled")]]
  else .tuple [.str "end", .dict [(.str "status", .str "failed"),
    (.str "error", .str S.runtime.exceptionText)]]

/-- `signal_run_cancelled` or `signal_run_error`. -/
def signalEnd (S : Setup) (s : State) (n : ℕ) (cancelled : Bool) : Option State :=
  (s.broker.put S.broker (S.eventId (n + 1)) (endEvent S cancelled)).map fun broker =>
    { s with producer := .finishing (n + 1), broker := broker.markFinished }

/-- `cleanup_run`, up to its await. -/
def cleanupRun (s : State) (n : ℕ) : State :=
  if s.batch = [] then { s with producer := .done n, broker := s.broker.markFinished }
  else { s with producer := .cleaning n s.batch, batch := [] }

/-! ### The consumer -/

/-- `last_sent_sequence` before the replay. -/
def lastSentSequence (S : Setup) : Option Str → ℤ
  | none => 0
  | some lastEventId => S.seq lastEventId

/-- The rows of the replay query. -/
def replayRows (S : Setup) (table : List Row) : Option Str → List Row
  | none => streamAllEvents table
  | some lastEventId => streamEventsSince S.unicode table lastEventId

/-- The error event that ends a stream. It has no id. -/
def errorMessages (S : Setup) : List SseMessage :=
  (Sse.createErrorEvent S.runtime.now S.runtime.exceptionText none).toList

/-- The start of `stream_run_execution`. An empty `Last-Event-ID` is none. -/
def streamRunExecution (S : Setup) (s : State) (status : RunStatus) (lastEventId : Option Str) :
    State :=
  let lastEventId := lastEventId.filter (· ≠ [])
  let metadata := if lastEventId.isNone then
    (Sse.createMetadataEvent S.runId.text (S.eventId 0)).toList else []
  { s with consumer := .connected status lastEventId, sent := metadata }

/-- `stream_run` -/
def streamRun (S : Setup) (s : State) (lastEventId : Option Str) : State :=
  if s.status.isTerminal then
    { s with consumer := .ended false, sent := (Sse.createEndEvent none).toList }
  else streamRunExecution S s s.status lastEventId

/-- One turn of `_replay_stored_events`. -/
def replayRow (S : Setup) (s : State) (status : RunStatus) (lastSent : ℤ) (row : Row)
    (rows : List Row) : State :=
  match convertStoredToSse S.runtime row.stored (some S.runId.text) with
  | none => { s with consumer := .ended true, sent := s.sent ++ errorMessages S }
  | some message =>
    { s with consumer := .replaying status lastSent rows, sent := s.sent ++ message.toList }

/-- One turn of `_stream_live_events`, for an event taken from the queue. An `end` event ends the
iteration once it has been handled. -/
def liveEvent (S : Setup) (s : State) (lastSent : ℤ) (eventId : Str) (rawEvent : PyVal) : State :=
  let next (lastSent : ℤ) : Consumer :=
    if RunBroker.isEnd rawEvent then .ended false else .live lastSent
  let currentSequence := S.seq eventId
  if currentSequence ≤ lastSent then { s with consumer := next lastSent }
  else
    match convertRawToSse eventId rawEvent with
    | none => { s with consumer := .ended true, sent := s.sent ++ errorMessages S }
    | some none => { s with consumer := next lastSent }
    | some (some message) =>
      { s with consumer := next currentSequence, sent := s.sent ++ [message] }

/-- The next step of the consumer; `none` is waiting, or nothing to do. -/
def consume (S : Setup) (s : State) : Option State :=
  match s.consumer with
  | .connected status lastEventId =>
    some { s with consumer := .replaying status (lastSentSequence S lastEventId)
                    (replayRows S s.table lastEventId) }
  | .replaying status lastSent (row :: rows) => some (replayRow S s status lastSent row rows)
  | .replaying status lastSent [] =>
    if status.isOver && s.broker.finished then some { s with consumer := .ended false }
    else some { s with consumer := .live lastSent }
  | .live lastSent =>
    match s.broker.takeNext with
    | none => none
    | some (none, broker) => some { s with consumer := .ended false, broker }
    | some (some (eventId, rawEvent), broker) =>
      some (liveEvent S { s with broker } lastSent eventId rawEvent)
  | .absent | .ended _ => none

/-! ### The system -/

/-- One step of the system. -/
def step (S : Setup) (s : State) : Label → Option State
  | .start =>
    match s.producer with
    | .starting => some { s with producer := .running 0, status := .running }
    | _ => none
  | .emit rawEvent =>
    match s.producer with
    | .running n => some { s with producer := .putting (n + 1) rawEvent,
                                  emitted := s.emitted ++ [(n + 1, rawEvent)] }
    | _ => none
  | .put =>
    match s.producer with
    | .putting n rawEvent => putToBroker S s n rawEvent
    | _ => none
  | .store =>
    match s.producer with
    | .storing n rawEvent => some (storeEventFromRaw S s n rawEvent)
    | _ => none
  | .commit ok => commitBatch S s ok
  | .finish interrupted =>
    match s.producer with
    | .running n => some { s with producer := .finishing n,
                                  status := if interrupted then .interrupted else .completed }
    | _ => none
  | .fail =>
    match s.producer with
    | .running n => some { s with producer := .failing n }
    | _ => none
  | .recordFailure cancelled =>
    match s.producer with
    | .failing n => some { s with producer := .signalling n cancelled,
                                  status := if cancelled then .cancelled else .failed }
    | _ => none
  | .signal =>
    match s.producer with
    | .signalling n cancelled => signalEnd S s n cancelled
    | _ => none
  | .cleanup =>
    match s.producer with
    | .finishing n => some (cleanupRun s n)
    | _ => none
  | .expire rows => some { s with table := s.table.drop rows }
  | .streamRun lastEventId => some (streamRun S s lastEventId)
  | .attach status lastEventId => some (streamRunExecution S s status lastEventId)
  | .consume => consume S s
  | .disconnect => some { s with consumer := .absent }

/-! ### What a step can do -/

/-- The steps of the producer. -/
inductive Produces (S : Setup) (s : State) : Label → State → Prop
  | start (hp : s.producer = .starting) :
      Produces S s .start { s with producer := .running 0, status := .running }
  | emit {n : ℕ} (rawEvent : PyVal) (hp : s.producer = .running n) :
      Produces S s (.emit rawEvent) { s with producer := .putting (n + 1) rawEvent,
                                             emitted := s.emitted ++ [(n + 1, rawEvent)] }
  | putRaises {n : ℕ} {rawEvent : PyVal} (hp : s.producer = .putting n rawEvent)
      (he : processInterruptUpdates rawEvent S.onlyInterruptUpdates = none) :
      Produces S s .put { s with producer := .failing n }
  | putSkips {n : ℕ} {rawEvent processedEvent : PyVal} (hp : s.producer = .putting n rawEvent)
      (he : processInterruptUpdates rawEvent S.onlyInterruptUpdates =
        some (processedEvent, true)) :
      Produces S s .put { s with producer := .storing n rawEvent }
  | put {n : ℕ} {rawEvent processedEvent : PyVal} {broker : RunBroker}
      (hp : s.producer = .putting n rawEvent)
      (he : processInterruptUpdates rawEvent S.onlyInterruptUpdates =
        some (processedEvent, false))
      (hb : s.broker.put S.broker (S.eventId n) processedEvent = some broker) :
      Produces S s .put { s with producer := .storing n rawEvent, broker }
  | storeRaises {n : ℕ} {rawEvent : PyVal} (hp : s.producer = .storing n rawEvent)
      (he : storageEvent (S.eventId n) rawEvent S.onlyInterruptUpdates = none) :
      Produces S s .store { s with producer := .failing n }
  | storeSkips {n : ℕ} {rawEvent : PyVal} (hp : s.producer = .storing n rawEvent)
      (he : storageEvent (S.eventId n) rawEvent S.onlyInterruptUpdates = some none) :
      Produces S s .store { s with producer := .running n }
  | store {n : ℕ} {rawEvent : PyVal} {event : SSEEvent} {force : Bool}
      (hp : s.producer = .storing n rawEvent)
      (he : storageEvent (S.eventId n) rawEvent S.onlyInterruptUpdates =
        some (some (event, force))) :
      Produces S s .store { s with producer := .running n, batch := s.batch ++ [event] }
  | storeFlushes {n : ℕ} {rawEvent : PyVal} {event : SSEEvent} {force : Bool}
      (hp : s.producer = .storing n rawEvent)
      (he : storageEvent (S.eventId n) rawEvent S.onlyInterruptUpdates =
        some (some (event, force))) :
      Produces S s .store { s with producer := .flushing n (s.batch ++ [event]), batch := [] }
  | commit {n : ℕ} {batch : List SSEEvent} {table : List Row}
      (hp : s.producer = .flushing n batch)
      (ht : storeEvents S.unicode S.jsonb s.table batch = some table) :
      Produces S s (.commit true) { s with producer := .running n, table }
  | commitFails {n : ℕ} {batch : List SSEEvent} (ok : Bool) (hp : s.producer = .flushing n batch) :
      Produces S s (.commit ok) { s with producer := .failing n }
  | clean {n : ℕ} {batch : List SSEEvent} {table : List Row}
      (hp : s.producer = .cleaning n batch)
      (ht : storeEvents S.unicode S.jsonb s.table batch = some table) :
      Produces S s (.commit true) { s with producer := .done n, table,
                                           broker := s.broker.markFinished }
  | cleanFails {n : ℕ} {batch : List SSEEvent} (ok : Bool) (hp : s.producer = .cleaning n batch) :
      Produces S s (.commit ok) { s with producer := .done n }
  | finish {n : ℕ} (interrupted : Bool) (hp : s.producer = .running n) :
      Produces S s (.finish interrupted)
        { s with producer := .finishing n,
                 status := if interrupted then .interrupted else .completed }
  | fail {n : ℕ} (hp : s.producer = .running n) :
      Produces S s .fail { s with producer := .failing n }
  | recordFailure {n : ℕ} (cancelled : Bool) (hp : s.producer = .failing n) :
      Produces S s (.recordFailure cancelled)
        { s with producer := .signalling n cancelled,
                 status := if cancelled then .cancelled else .failed }
  | signal {n : ℕ} {cancelled : Bool} {broker : RunBroker}
      (hp : s.producer = .signalling n cancelled)
      (hb : s.broker.put S.broker (S.eventId (n + 1)) (endEvent S cancelled) = some broker) :
      Produces S s .signal { s with producer := .finishing (n + 1),
                                    broker := broker.markFinished }
  | cleanup {n : ℕ} (hp : s.producer = .finishing n) (hb : s.batch = []) :
      Produces S s .cleanup { s with producer := .done n, broker := s.broker.markFinished }
  | cleanupFlushes {n : ℕ} (hp : s.producer = .finishing n) :
      Produces S s .cleanup { s with producer := .cleaning n s.batch, batch := [] }

/-- The steps of a connected consumer. -/
inductive Consumes (S : Setup) (s : State) : State → Prop
  | query {status : RunStatus} {lastEventId : Option Str}
      (hc : s.consumer = .connected status lastEventId) :
      Consumes S s { s with consumer := .replaying status (lastSentSequence S lastEventId)
                                          (replayRows S s.table lastEventId) }
  | row {status : RunStatus} {lastSent : ℤ} {row : Row} {rows : List Row}
      (hc : s.consumer = .replaying status lastSent (row :: rows)) :
      Consumes S s (replayRow S s status lastSent row rows)
  | stop {status : RunStatus} {lastSent : ℤ} (hc : s.consumer = .replaying status lastSent [])
      (ho : status.isOver = true) (hf : s.broker.finished = true) :
      Consumes S s { s with consumer := .ended false }
  | goLive {status : RunStatus} {lastSent : ℤ} (hc : s.consumer = .replaying status lastSent []) :
      Consumes S s { s with consumer := .live lastSent }
  | drained {lastSent : ℤ} (hc : s.consumer = .live lastSent) (hq : s.broker.queue = [])
      (hf : s.broker.finished = true) :
      Consumes S s { s with consumer := .ended false }
  | event {lastSent : ℤ} {eventId : Str} {rawEvent : PyVal} {queue : List (Str × PyVal)}
      (hc : s.consumer = .live lastSent) (hq : s.broker.queue = (eventId, rawEvent) :: queue) :
      Consumes S s (liveEvent S { s with broker := { s.broker with queue } } lastSent eventId
        rawEvent)

theorem consumes_of_consume {S : Setup} {s s' : State} (h : consume S s = some s') :
    Consumes S s s' := by
  rw [consume] at h
  split at h
  · rename_i hc
    exact Option.some.inj h ▸ .query hc
  · rename_i hc
    exact Option.some.inj h ▸ .row hc
  · rename_i hc
    split at h
    · rename_i hover
      rw [Bool.and_eq_true] at hover
      exact Option.some.inj h ▸ .stop hc hover.1 hover.2
    · exact Option.some.inj h ▸ .goLive hc
  · rename_i hc
    rw [RunBroker.takeNext] at h
    cases hq : s.broker.queue with
    | nil =>
      simp only [hq] at h
      cases hf : s.broker.finished with
      | false => simp [hf] at h
      | true =>
        simp only [hf, if_true] at h
        exact Option.some.inj h ▸ .drained hc hq hf
    | cons e queue =>
      simp only [hq] at h
      exact Option.some.inj h ▸ .event hc hq
  · cases h
  · cases h

theorem produces_putToBroker {S : Setup} {s s' : State} {n : ℕ} {rawEvent : PyVal}
    (hp : s.producer = .putting n rawEvent) (h : putToBroker S s n rawEvent = some s') :
    Produces S s .put s' := by
  rw [putToBroker] at h
  split at h
  · rename_i he
    exact Option.some.inj h ▸ .putRaises hp he
  · rename_i he
    exact Option.some.inj h ▸ .putSkips hp he
  · rename_i he
    obtain ⟨broker, hb, rfl⟩ := Option.map_eq_some_iff.mp h
    exact .put hp he hb

theorem produces_storeEventFromRaw {S : Setup} {s : State} {n : ℕ} {rawEvent : PyVal}
    (hp : s.producer = .storing n rawEvent) :
    Produces S s .store (storeEventFromRaw S s n rawEvent) := by
  rw [storeEventFromRaw]
  split
  · rename_i he
    exact .storeRaises hp he
  · rename_i he
    exact .storeSkips hp he
  · rename_i event force he
    dsimp only
    split
    · exact .storeFlushes hp he
    · exact .store hp he

theorem produces_commitBatch {S : Setup} {s s' : State} {ok : Bool}
    (h : commitBatch S s ok = some s') : Produces S s (.commit ok) s' := by
  unfold commitBatch insertBatch at h
  split at h
  · rename_i hp
    split at h
    · rename_i ht
      cases ok with
      | false => cases ht
      | true => exact Option.some.inj h ▸ .commit hp ht
    · exact Option.some.inj h ▸ .commitFails ok hp
  · rename_i hp
    split at h
    · rename_i ht
      cases ok with
      | false => cases ht
      | true => exact Option.some.inj h ▸ .clean hp ht
    · exact Option.some.inj h ▸ .cleanFails ok hp
  · cases h

/-- **What a step can do.** The producer moves, rows expire, a connection starts or ends, or the
consumer moves. -/
theorem step_cases {S : Setup} {s s' : State} {a : Label} (h : step S s a = some s') :
    Produces S s a s' ∨
      (∃ rows, a = .expire rows ∧ s' = { s with table := s.table.drop rows }) ∨
      (∃ lastEventId, a = .streamRun lastEventId ∧ s' = streamRun S s lastEventId) ∨
      (∃ status lastEventId, a = .attach status lastEventId ∧
        s' = streamRunExecution S s status lastEventId) ∨
      (a = .disconnect ∧ s' = { s with consumer := .absent }) ∨
      (a = .consume ∧ Consumes S s s') := by
  cases a with
  | start =>
    simp only [step] at h
    split at h
    · rename_i hp
      exact .inl (Option.some.inj h ▸ .start hp)
    · cases h
  | emit rawEvent =>
    simp only [step] at h
    split at h
    · rename_i hp
      exact .inl (Option.some.inj h ▸ .emit rawEvent hp)
    · cases h
  | put =>
    simp only [step] at h
    split at h
    · rename_i hp
      exact .inl (produces_putToBroker hp h)
    · cases h
  | store =>
    simp only [step] at h
    split at h
    · rename_i hp
      exact .inl (Option.some.inj h ▸ produces_storeEventFromRaw hp)
    · cases h
  | commit ok => exact .inl (produces_commitBatch h)
  | finish interrupted =>
    simp only [step] at h
    split at h
    · rename_i hp
      exact .inl (Option.some.inj h ▸ .finish interrupted hp)
    · cases h
  | fail =>
    simp only [step] at h
    split at h
    · rename_i hp
      exact .inl (Option.some.inj h ▸ .fail hp)
    · cases h
  | recordFailure cancelled =>
    simp only [step] at h
    split at h
    · rename_i hp
      exact .inl (Option.some.inj h ▸ .recordFailure cancelled hp)
    · cases h
  | signal =>
    simp only [step] at h
    split at h
    · rename_i hp
      obtain ⟨broker, hb, rfl⟩ := Option.map_eq_some_iff.mp h
      exact .inl (.signal hp hb)
    · cases h
  | cleanup =>
    simp only [step] at h
    split at h
    · rename_i hp
      obtain rfl := Option.some.inj h
      rw [cleanupRun]
      split
      · rename_i hb
        exact .inl (.cleanup hp hb)
      · exact .inl (.cleanupFlushes hp)
    · cases h
  | expire rows => exact .inr (.inl ⟨rows, rfl, (Option.some.inj h).symm⟩)
  | streamRun lastEventId => exact .inr (.inr (.inl ⟨lastEventId, rfl, (Option.some.inj h).symm⟩))
  | attach status lastEventId =>
    exact .inr (.inr (.inr (.inl ⟨status, lastEventId, rfl, (Option.some.inj h).symm⟩)))
  | consume =>
    exact .inr (.inr (.inr (.inr (.inr ⟨rfl, consumes_of_consume h⟩))))
  | disconnect => exact .inr (.inr (.inr (.inr (.inl ⟨rfl, (Option.some.inj h).symm⟩))))

end RunStream

end OpenLangGraph

import OpenLangGraph.Services.Broker

/-!
# The broker manager

`BrokerManager` of `services/broker.py`, for one run: whether a broker is registered for it, since
when, and what the operations do. A broker is created by whoever asks first, be it the executor or
a consumer, and it is removed by the cleanup loop once it is finished, empty and an hour old. Who
asks after that gets a new one, which is not finished.

Time is counted in whole seconds.

## Waiting for room

A `put` that finds room is one step. A `put` that has to wait tested the flag when it began, so its
event enters the queue later whatever the flag is then: this is a move of its own, `arrive`, and a
request whose signal has waited finishes the broker with another, `finish`.

## Main definitions

* `BrokerManager`, with `getOrCreateBroker`, `cleanupBroker`, `removeBroker`, `cleanupOldBrokers`
* `BrokerManager.isRunStreaming`, `BrokerManager.isFinished`
* `BrokerMove`, `BrokerManager.move` — what others than the executor do

## Main results

* `BrokerManager.isRunStreaming_cleanupBroker` — nothing is streaming after `cleanup_broker`
* `BrokerManager.isFinished_put`, `BrokerManager.isFinished_move` — a finished broker stays
  finished until it is removed
-/

open PyString

namespace OpenLangGraph

/-- A registered broker with its `_created_at`. -/
structure BrokerEntry where
  broker : RunBroker
  createdAt : ℕ

/-- `BrokerManager`, for one run, at a time. -/
structure BrokerManager where
  entry : Option BrokerEntry
  now : ℕ

namespace BrokerManager

/-- The broker of the run is finished. -/
def isFinished (m : BrokerManager) : Bool := m.entry.any (·.broker.finished)

/-- `is_run_streaming` -/
def isRunStreaming (m : BrokerManager) : Bool := m.entry.any fun e => !e.broker.finished

/-- `get_or_create_broker` -/
def getOrCreateBroker (m : BrokerManager) : BrokerManager :=
  match m.entry with
  | some _ => m
  | none => { m with entry := some { broker := .empty, createdAt := m.now } }

/-- Replace the registered broker. -/
def setBroker (m : BrokerManager) (broker : RunBroker) : BrokerManager :=
  { m with entry := m.entry.map fun e => { e with broker } }

/-- `get_or_create_broker` and a `put` of the broker; `none` is waiting for room. -/
def put (cfg : BrokerConfig) (m : BrokerManager) (eventId : Str) (payload : PyVal) :
    Option BrokerManager :=
  m.getOrCreateBroker.entry.bind fun e =>
    (e.broker.put cfg eventId payload).map m.getOrCreateBroker.setBroker

/-- `cleanup_broker` -/
def cleanupBroker (m : BrokerManager) : BrokerManager :=
  { m with entry := m.entry.map fun e => { e with broker := e.broker.markFinished } }

/-- `remove_broker` -/
def removeBroker (m : BrokerManager) : BrokerManager := { m with entry := none }

/-- The test of the cleanup loop: finished, empty, and more than an hour old. -/
def isOld (m : BrokerManager) : Bool :=
  m.entry.any fun e => e.broker.finished && e.broker.queue.isEmpty && 3600 < m.now - e.createdAt

/-- One round of `_cleanup_old_brokers`. -/
def cleanupOldBrokers (m : BrokerManager) : BrokerManager := if m.isOld then m.removeBroker else m

/-- An event that waited for room enters the queue. -/
def arrive (cfg : BrokerConfig) (m : BrokerManager) (eventId : Str) (payload : PyVal) :
    Option BrokerManager := do
  let e ← m.entry
  let queue ← e.broker.makeRoom cfg
  return m.setBroker { queue := queue ++ [(eventId, payload)]
                       finished := e.broker.finished || RunBroker.isEnd payload }

/-- A consumer takes an event. -/
def take (m : BrokerManager) : Option BrokerManager := do
  let e ← m.entry
  let (event, broker) ← e.broker.takeNext
  if event.isSome then return m.setBroker broker else none

end BrokerManager

/-- What others than the executor do with the broker of a run. -/
inductive BrokerMove
  /-- a consumer looks the broker up -/
  | attach
  /-- the signal of a request -/
  | signal (eventId : Str) (payload : PyVal)
  /-- an event that waited for room enters the queue -/
  | arrive (eventId : Str) (payload : PyVal)
  /-- the end of a signal that waited -/
  | finish
  /-- a consumer takes an event -/
  | take
  /-- time passes -/
  | tick (seconds : ℕ)
  /-- a round of the cleanup loop -/
  | sweep

namespace BrokerManager

/-- A move; `none` is waiting. -/
def move (cfg : BrokerConfig) (m : BrokerManager) : BrokerMove → Option BrokerManager
  | .attach => some m.getOrCreateBroker
  | .signal eventId payload => (m.put cfg eventId payload).map cleanupBroker
  | .arrive eventId payload => m.arrive cfg eventId payload
  | .finish => some m.cleanupBroker
  | .take => m.take
  | .tick seconds => some { m with now := m.now + seconds }
  | .sweep => some m.cleanupOldBrokers

/-! ### What the operations do to the flag -/

variable {m m' : BrokerManager}

theorem isFinished_iff : m.isFinished = true ↔ ∃ e, m.entry = some e ∧ e.broker.finished = true :=
  Option.any_eq_true _ _

/-- Nothing is streaming once the broker was cleaned up. -/
@[simp] theorem isRunStreaming_cleanupBroker (m : BrokerManager) :
    m.cleanupBroker.isRunStreaming = false := by
  rw [isRunStreaming, cleanupBroker]
  cases m.entry <;> rfl

@[simp] theorem isFinished_cleanupBroker (m : BrokerManager) :
    m.cleanupBroker.isFinished = m.entry.isSome := by
  rw [isFinished, cleanupBroker]
  cases m.entry <;> rfl

theorem isSome_of_isFinished (h : m.isFinished = true) : m.entry.isSome = true := by
  obtain ⟨e, he, -⟩ := isFinished_iff.mp h
  rw [he]
  rfl

theorem getOrCreateBroker_of_isSome (h : m.entry.isSome = true) : m.getOrCreateBroker = m := by
  rw [getOrCreateBroker]
  split
  · rfl
  · rename_i hnone
    rw [hnone] at h
    cases h

theorem isSome_getOrCreateBroker (m : BrokerManager) :
    m.getOrCreateBroker.entry.isSome = true := by
  rw [getOrCreateBroker]
  split
  · rename_i hsome
    rw [hsome]
    rfl
  · rfl

/-- A finished broker stays finished when an event is put. -/
theorem isFinished_put {cfg : BrokerConfig} {eventId : Str} {payload : PyVal}
    (hfinished : m.isFinished = true) (h : m.put cfg eventId payload = some m') :
    m'.isFinished = true := by
  obtain ⟨e, he, hbroker⟩ := isFinished_iff.mp hfinished
  rw [put, getOrCreateBroker_of_isSome (isSome_of_isFinished hfinished), he] at h
  obtain ⟨broker, hput, rfl⟩ := Option.map_eq_some_iff.mp h
  rw [RunBroker.put, hbroker, if_pos rfl] at hput
  obtain rfl := Option.some.inj hput
  rw [isFinished, setBroker, he]
  exact hbroker

theorem isSome_put {cfg : BrokerConfig} {eventId : Str} {payload : PyVal}
    (h : m.put cfg eventId payload = some m') : m'.entry.isSome = true := by
  obtain ⟨e, he, h⟩ := Option.bind_eq_some_iff.mp h
  obtain ⟨broker, -, rfl⟩ := Option.map_eq_some_iff.mp h
  rw [setBroker, he]
  rfl

theorem isFinished_setBroker {broker : RunBroker} (hsome : m.entry.isSome = true) :
    (m.setBroker broker).isFinished = broker.finished := by
  obtain ⟨e, he⟩ := Option.isSome_iff_exists.mp hsome
  rw [isFinished, setBroker, he]
  rfl

/-- What is taken from a finished broker leaves it finished. -/
theorem isFinished_takeNext {e : BrokerEntry} {event : Option (Str × PyVal)} {broker : RunBroker}
    (hfinished : m.isFinished = true) (he : m.entry = some e)
    (htake : e.broker.takeNext = some (event, broker)) :
    (m.setBroker broker).isFinished = true := by
  obtain ⟨e', he', hbroker⟩ := isFinished_iff.mp hfinished
  obtain rfl := Option.some.inj (he.symm.trans he')
  rw [isFinished_setBroker (Option.isSome_of_mem he), RunBroker.finished_takeNext htake]
  exact hbroker

/-- A finished broker stays finished until the cleanup loop removes it. -/
theorem isFinished_move {cfg : BrokerConfig} {a : BrokerMove} (hfinished : m.isFinished = true)
    (h : m.move cfg a = some m') :
    m'.isFinished = true ∨ a = .sweep ∧ m.isOld = true ∧ m'.entry = none := by
  have hsome := isSome_of_isFinished hfinished
  obtain ⟨e, he, hbroker⟩ := isFinished_iff.mp hfinished
  cases a with
  | attach =>
    obtain rfl := Option.some.inj h
    rw [getOrCreateBroker_of_isSome hsome]
    exact .inl hfinished
  | signal eventId payload =>
    obtain ⟨m₁, hput, rfl⟩ := Option.map_eq_some_iff.mp h
    rw [isFinished_cleanupBroker]
    exact .inl (isSome_put hput)
  | arrive eventId payload =>
    obtain ⟨e', he', h⟩ := Option.bind_eq_some_iff.mp h
    obtain rfl := Option.some.inj (he.symm.trans he')
    obtain ⟨queue, -, h⟩ := Option.bind_eq_some_iff.mp h
    obtain rfl := Option.some.inj h
    rw [isFinished_setBroker hsome, hbroker]
    exact .inl rfl
  | finish =>
    obtain rfl := Option.some.inj h
    rw [isFinished_cleanupBroker]
    exact .inl hsome
  | take =>
    obtain ⟨e', he', h⟩ := Option.bind_eq_some_iff.mp h
    obtain ⟨⟨event, broker⟩, htake, h⟩ := Option.bind_eq_some_iff.mp h
    dsimp only at h
    split at h
    · obtain rfl := Option.some.inj h
      exact .inl (isFinished_takeNext hfinished he' htake)
    · cases h
  | tick seconds =>
    obtain rfl := Option.some.inj h
    exact .inl hfinished
  | sweep =>
    obtain rfl := Option.some.inj h
    rw [cleanupOldBrokers]
    split
    · rename_i hold
      exact .inr ⟨rfl, hold, rfl⟩
    · exact .inl hfinished

end BrokerManager

end OpenLangGraph

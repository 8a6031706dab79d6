import OpenLangGraph.Services.BrokerQueue
import OpenLangGraph.Services.RunStreamOrder

/-!
# A run and its signals

The events of one run when it is cancelled or interrupted from outside: the executor, the broker
with the tasks that wait for room in it, the storage batch and the table, and any number of cancel
and interrupt requests. What `RunStream` leaves out of a run is here, and what it is about, the
messages that a consumer is sent, is left out.

## Two counters

The executor numbers its events with a local `event_counter`. `put_to_broker` raises the
`event_counters` of the service to this number. A signal takes the next number of the service, and
the executor does not learn of it.

## Identity

The program has no name for an event but its id. Here an event also has a serial number, in the
order in which the ids are given, so that two events with one id are still two. Nothing in the
model depends on it except which of the waiting tasks is the executor.

## Main definitions

* `Event`, `Signal`, `State`, `Label`, `step`
* `State.UniqueIds` — no two events in the broker and the store share an id

## Main results

* `issues_of_step` — what a step does to the ids that were given
* `nodup_issued_iff` — when no id is given twice
* `uniqueIds_of_along`
-/

open PyString

namespace OpenLangGraph

namespace RunSignals

open EventStore StreamingService Transition
open RunStream (Setup exampleSetup)

/-- An event with its id. -/
structure Event where
  /-- The number of events that were given an id before it. -/
  serial : ℕ
  eventId : Str
  payload : PyVal

/-- `signal_run_cancelled` and `signal_run_error` -/
inductive Signal
  | cancelled
  | error (message : String)

/-- The end event of a signal. -/
def Signal.payload : Signal → PyVal
  | .cancelled => .tuple [.str "end", .dict [(.str "status", .str "cancelled")]]
  | .error message => .tuple [.str "end", .dict [(.str "status", .str "failed"),
      (.str "error", .str message)]]

/-- The queue of the broker, with the events of the tasks that wait for room. -/
abbrev Traffic := BoundedQueue.State Event

/-- The bounded queue of `BrokerQueue`, with serial numbers. -/
def eventConfig (cfg : BrokerConfig) : BoundedQueue.Config Event where
  capacity := cfg.queueMaxsize
  capacity_pos := cfg.queueMaxsize_pos
  dropsOldest := (RunBroker.queueConfig cfg).dropsOldest
  mayDrop e := (RunBroker.queueConfig cfg).mayDrop (e.eventId, e.payload)
  closes e := (RunBroker.queueConfig cfg).closes (e.eventId, e.payload)

/-- Where `execute_run_async` is. -/
inductive Producer
  /-- awaiting the next event of the graph -/
  | running
  /-- in `put_to_broker`, awaiting room -/
  | waiting (e : Event)
  /-- in `store_event_from_raw`, before the append -/
  | storing (e : Event)
  /-- awaiting the insert of a batch -/
  | flushing (batch : List Event)
  /-- an exception was caught -/
  | failing
  /-- in its own signal, awaiting room -/
  | signalling (e : Event)
  /-- about to enter `cleanup_run` -/
  | finishing
  /-- awaiting the insert in `cleanup_run` -/
  | cleaning (batch : List Event)
  | done

structure State where
  producer : Producer
  /-- `event_counter` -/
  counter : ℕ
  /-- `event_counters[run_id]`, with 0 for a missing key -/
  eventCounters : ℕ
  broker : Traffic
  /-- `_storage_batches[run_id]` -/
  batch : List Event
  /-- The events of the run in `run_events`. -/
  table : List Event
  /-- The events that were given an id. -/
  issued : List Event

/-- Before the first event of the graph. -/
def init : State :=
  { producer := .running, counter := 0, eventCounters := 0, broker := BoundedQueue.init,
    batch := [], table := [], issued := [] }

inductive Label
  /-- the graph emits an event, and `put_to_broker` runs up to its await -/
  | emit (rawEvent : PyVal)
  | store
  /-- the insert of a batch succeeds or fails -/
  | flush (ok : Bool)
  /-- the graph ends -/
  | finish
  /-- the graph raises, or the task is cancelled -/
  | fail
  /-- the signal of the executor after a failure, up to its await -/
  | signal (signal : Signal)
  | cleanup
  /-- the signal of a cancel or interrupt request, up to its await -/
  | request (signal : Signal)
  /-- the `cleanup_broker` at the end of such a signal -/
  | close
  /-- a task that waits gets its room -/
  | resume (i : ℕ)
  /-- a task that waits is cancelled -/
  | abandon (i : ℕ)
  /-- a consumer takes an event -/
  | take

/-! ### Ids -/

/-- `_next_event_counter` -/
def nextEventCounter (S : Setup) (current : ℕ) (eventId : Str) : ℕ :=
  if (current : ℤ) < S.seq eventId then (S.seq eventId).toNat else current

theorem nextEventCounter_eventId (S : Setup) (current n : ℕ) :
    nextEventCounter S current (S.eventId n) = max current n := by
  rw [nextEventCounter, RunStream.Setup.seq_eventId, Int.toNat_natCast]
  split <;> omega

/-- The event that is given an id next. -/
def State.newEvent (s : State) (eventId : Str) (payload : PyVal) : Event :=
  { serial := s.issued.length, eventId, payload }

/-- An event of the executor gets its id. -/
def State.number (S : Setup) (s : State) (payload : PyVal) : State :=
  let eventId := S.eventId (s.counter + 1)
  { s with counter := s.counter + 1
           eventCounters := nextEventCounter S s.eventCounters eventId
           issued := s.issued ++ [s.newEvent eventId payload] }

/-- The end event of a signal gets its id. -/
def State.numberSignal (S : Setup) (s : State) (signal : Signal) : State :=
  { s with eventCounters := s.eventCounters + 1
           issued := s.issued ++ [s.newEvent (S.eventId (s.eventCounters + 1)) signal.payload] }

/-! ### The executor -/

/-- A `put` would have to wait for room. -/
def State.mustWait (S : Setup) (s : State) : Bool :=
  !s.broker.closed && (BoundedQueue.room (eventConfig S.broker) s.broker.items).isNone

/-- One step of the broker. -/
def State.traffic (S : Setup) (s : State) (l : BoundedQueue.Label Event) : Option State :=
  (BoundedQueue.step (eventConfig S.broker) s.broker l).map fun broker => { s with broker }

/-- `cleanup_broker` -/
def State.closeBroker (s : State) : State := { s with broker := { s.broker with closed := true } }

/-- `put_to_broker` for the next event of the graph. -/
def emit (S : Setup) (s : State) (rawEvent : PyVal) : Option State :=
  match processInterruptUpdates rawEvent S.onlyInterruptUpdates with
  | none => some { s.number S rawEvent with producer := .failing }
  | some (_, true) => some (s.number S rawEvent)
  | some (processedEvent, false) =>
    let e := s.newEvent (S.eventId (s.counter + 1)) processedEvent
    { s.number S processedEvent with
      producer := if s.mustWait S then .waiting e else .storing e }.traffic S (.put e)

/-- `store_event_from_raw`, with `_flush_storage_batch` up to its await. -/
def store (S : Setup) (s : State) (e : Event) : State :=
  match recordOf e.eventId e.payload with
  | none => { s with producer := .running }
  | some (_, force) =>
    let batch := s.batch ++ [e]
    if force || S.batchSize ≤ batch.length then
      { s with producer := .flushing batch, batch := [] }
    else { s with producer := .running, batch }

/-- `INSERT … ON CONFLICT (id) DO NOTHING` -/
def insertEvent (table : List Event) (e : Event) : List Event :=
  if table.any (·.eventId = e.eventId) then table else table ++ [e]

/-- The end of the await in `_flush_storage_batch`, outside and inside `cleanup_run`. -/
def flush (s : State) (ok : Bool) : Option State :=
  match s.producer with
  | .flushing batch =>
    if ok then some { s with producer := .running, table := batch.foldl insertEvent s.table }
    else some { s with producer := .failing }
  | .cleaning batch =>
    if ok then
      some { s with producer := .done, table := batch.foldl insertEvent s.table }.closeBroker
    else some { s with producer := .done }
  | _ => none

/-- The signal of the executor. -/
def signal (S : Setup) (s : State) (signal : Signal) : Option State :=
  let e := s.newEvent (S.eventId (s.eventCounters + 1)) signal.payload
  let s' := s.numberSignal S signal
  if s.mustWait S then { s' with producer := .signalling e }.traffic S (.put e)
  else ({ s' with producer := .finishing }.traffic S (.put e)).map State.closeBroker

/-- `cleanup_run`, up to its await. -/
def cleanup (s : State) : State :=
  if s.batch.isEmpty then { s with producer := .done }.closeBroker
  else { s with producer := .cleaning s.batch, batch := [] }

/-- The signal of a request. -/
def request (S : Setup) (s : State) (signal : Signal) : Option State :=
  (s.numberSignal S signal).traffic S
    (.put (s.newEvent (S.eventId (s.eventCounters + 1)) signal.payload))

/-! ### Waiting tasks -/

/-- The executor after a task that waits has got its room: it may be the executor. -/
def resumed (s : State) (e : Event) : State :=
  match s.producer with
  | .waiting e' => if e'.serial = e.serial then { s with producer := .storing e' } else s
  | .signalling e' =>
    if e'.serial = e.serial then { s with producer := .finishing }.closeBroker else s
  | _ => s

/-- The executor after a task that waits was cancelled. -/
def abandoned (s : State) (e : Event) : State :=
  match s.producer with
  | .waiting e' => if e'.serial = e.serial then { s with producer := .failing } else s
  | .signalling e' => if e'.serial = e.serial then { s with producer := .finishing } else s
  | _ => s

/-- One step of the run. -/
def step (S : Setup) (s : State) : Label → Option State
  | .emit rawEvent =>
    match s.producer with
    | .running => emit S s rawEvent
    | _ => none
  | .store =>
    match s.producer with
    | .storing e => some (store S s e)
    | _ => none
  | .flush ok => flush s ok
  | .finish =>
    match s.producer with
    | .running => some { s with producer := .finishing }
    | _ => none
  | .fail =>
    match s.producer with
    | .running => some { s with producer := .failing }
    | _ => none
  | .signal sig =>
    match s.producer with
    | .failing => signal S s sig
    | _ => none
  | .cleanup =>
    match s.producer with
    | .finishing => some (cleanup s)
    | _ => none
  | .request sig => request S s sig
  | .close => some s.closeBroker
  | .resume i => do
    let e ← s.broker.waiting[i]?
    let s ← s.traffic S (.resume i)
    return resumed s e
  | .abandon i => do
    let e ← s.broker.waiting[i]?
    let s ← s.traffic S (.abandon i)
    return abandoned s e
  | .take => s.traffic S .take

/-! ### What a step can do -/

variable {S : Setup} {s s' : State} {a : Label}

/-- What a step can do, one constructor for each label. -/
inductive Moves (S : Setup) (s : State) : Label → State → Prop
  | emit {rawEvent : PyVal} {s' : State} (hp : s.producer = .running)
      (h : emit S s rawEvent = some s') : Moves S s (.emit rawEvent) s'
  | store {e : Event} (hp : s.producer = .storing e) : Moves S s .store (store S s e)
  | flush {ok : Bool} {s' : State} (h : flush s ok = some s') : Moves S s (.flush ok) s'
  | finish (hp : s.producer = .running) : Moves S s .finish { s with producer := .finishing }
  | fail (hp : s.producer = .running) : Moves S s .fail { s with producer := .failing }
  | signal {sig : Signal} {s' : State} (hp : s.producer = .failing)
      (h : signal S s sig = some s') : Moves S s (.signal sig) s'
  | cleanup (hp : s.producer = .finishing) : Moves S s .cleanup (cleanup s)
  | request {sig : Signal} {s' : State} (h : request S s sig = some s') :
      Moves S s (.request sig) s'
  | close : Moves S s .close s.closeBroker
  | resume {i : ℕ} {t : State} (e : Event) (ht : s.traffic S (.resume i) = some t) :
      Moves S s (.resume i) (resumed t e)
  | abandon {i : ℕ} {t : State} (e : Event) (ht : s.traffic S (.abandon i) = some t) :
      Moves S s (.abandon i) (abandoned t e)
  | take {s' : State} (h : s.traffic S .take = some s') : Moves S s .take s'

theorem step_cases (h : step S s a = some s') : Moves S s a s' := by
  cases a with
  | emit rawEvent =>
    rw [step] at h
    split at h
    · rename_i hp
      exact .emit hp h
    · cases h
  | store =>
    rw [step] at h
    split at h
    · rename_i e hp
      obtain rfl := Option.some.inj h
      exact .store hp
    · cases h
  | flush ok => exact .flush h
  | finish =>
    rw [step] at h
    split at h
    · rename_i hp
      obtain rfl := Option.some.inj h
      exact .finish hp
    · cases h
  | fail =>
    rw [step] at h
    split at h
    · rename_i hp
      obtain rfl := Option.some.inj h
      exact .fail hp
    · cases h
  | signal sig =>
    rw [step] at h
    split at h
    · rename_i hp
      exact .signal hp h
    · cases h
  | cleanup =>
    rw [step] at h
    split at h
    · rename_i hp
      obtain rfl := Option.some.inj h
      exact .cleanup hp
    · cases h
  | request sig => exact .request h
  | close =>
    obtain rfl := Option.some.inj h
    exact .close
  | resume i =>
    obtain ⟨e, -, h⟩ := Option.bind_eq_some_iff.mp h
    obtain ⟨t, ht, h⟩ := Option.bind_eq_some_iff.mp h
    obtain rfl := Option.some.inj h
    exact .resume e ht
  | abandon i =>
    obtain ⟨e, -, h⟩ := Option.bind_eq_some_iff.mp h
    obtain ⟨t, ht, h⟩ := Option.bind_eq_some_iff.mp h
    obtain rfl := Option.some.inj h
    exact .abandon e ht
  | take => exact .take h

/-! ### What a step does to the ids -/

/-- What a step can do to the ids that were given: nothing, or it gives the next number of the
executor to an event of the graph, or the next number of the service to a signal. -/
inductive Issues (S : Setup) (s : State) : Label → State → Prop
  | nothing {a : Label} {s' : State} (hissued : s'.issued = s.issued)
      (hcounter : s'.counter = s.counter) (hcounters : s'.eventCounters = s.eventCounters)
      (ha : ∀ rawEvent, a ≠ .emit rawEvent) : Issues S s a s'
  | emitted {s' : State} (rawEvent payload : PyVal)
      (hissued : s'.issued = s.issued ++ [s.newEvent (S.eventId (s.counter + 1)) payload])
      (hcounter : s'.counter = s.counter + 1)
      (hcounters : s'.eventCounters = max s.eventCounters (s.counter + 1)) :
      Issues S s (.emit rawEvent) s'
  | signalled {a : Label} {s' : State} (payload : PyVal)
      (hissued : s'.issued = s.issued ++ [s.newEvent (S.eventId (s.eventCounters + 1)) payload])
      (hcounter : s'.counter = s.counter) (hcounters : s'.eventCounters = s.eventCounters + 1)
      (ha : ∀ rawEvent, a ≠ .emit rawEvent) : Issues S s a s'

theorem traffic_eq_some {l : BoundedQueue.Label Event} (h : s.traffic S l = some s') :
    ∃ broker, BoundedQueue.step (eventConfig S.broker) s.broker l = some broker ∧
      s' = { s with broker } := by
  obtain ⟨broker, hbroker, rfl⟩ := Option.map_eq_some_iff.mp h
  exact ⟨broker, hbroker, rfl⟩

theorem issues_emit {rawEvent : PyVal} (h : emit S s rawEvent = some s') :
    Issues S s (.emit rawEvent) s' := by
  have hcounters (payload : PyVal) :
      (s.number S payload).eventCounters = max s.eventCounters (s.counter + 1) :=
    nextEventCounter_eventId S s.eventCounters (s.counter + 1)
  rw [emit] at h
  split at h
  · obtain rfl := Option.some.inj h
    exact .emitted rawEvent rawEvent rfl rfl (hcounters rawEvent)
  · obtain rfl := Option.some.inj h
    exact .emitted rawEvent rawEvent rfl rfl (hcounters rawEvent)
  · rename_i processedEvent _
    obtain ⟨broker, -, rfl⟩ := traffic_eq_some h
    exact .emitted rawEvent processedEvent rfl rfl (hcounters processedEvent)

theorem issues_signal {sig : Signal} (h : signal S s sig = some s') :
    Issues S s (.signal sig) s' := by
  rw [signal] at h
  split at h
  · obtain ⟨broker, -, rfl⟩ := traffic_eq_some h
    exact .signalled sig.payload rfl rfl rfl nofun
  · obtain ⟨s₁, hs₁, rfl⟩ := Option.map_eq_some_iff.mp h
    obtain ⟨broker, -, rfl⟩ := traffic_eq_some hs₁
    exact .signalled sig.payload rfl rfl rfl nofun

/-- What a task does when it has waited leaves the ids alone. -/
theorem issued_resumed (s : State) (e : Event) : (resumed s e).issued = s.issued ∧
    (resumed s e).counter = s.counter ∧ (resumed s e).eventCounters = s.eventCounters := by
  rw [resumed]
  split
  · split <;> exact ⟨rfl, rfl, rfl⟩
  · split <;> exact ⟨rfl, rfl, rfl⟩
  · exact ⟨rfl, rfl, rfl⟩

theorem issued_abandoned (s : State) (e : Event) : (abandoned s e).issued = s.issued ∧
    (abandoned s e).counter = s.counter ∧ (abandoned s e).eventCounters = s.eventCounters := by
  rw [abandoned]
  split
  · split <;> exact ⟨rfl, rfl, rfl⟩
  · split <;> exact ⟨rfl, rfl, rfl⟩
  · exact ⟨rfl, rfl, rfl⟩

/-- **What a step does to the ids that were given.** -/
theorem issues_of_step (h : step S s a = some s') : Issues S s a s' := by
  cases step_cases h with
  | emit _ h => exact issues_emit h
  | store =>
    rw [store]
    split
    · exact .nothing rfl rfl rfl nofun
    · dsimp only
      split <;> exact .nothing rfl rfl rfl nofun
  | flush h =>
    rw [flush] at h
    split at h
    · split at h <;> cases h <;> exact .nothing rfl rfl rfl nofun
    · split at h <;> cases h <;> exact .nothing rfl rfl rfl nofun
    · cases h
  | finish | fail | close => exact .nothing rfl rfl rfl nofun
  | signal _ h => exact issues_signal h
  | cleanup =>
    rw [cleanup]
    split <;> exact .nothing rfl rfl rfl nofun
  | request h =>
    obtain ⟨broker, -, rfl⟩ := traffic_eq_some h
    exact .signalled _ rfl rfl rfl nofun
  | resume e ht =>
    obtain ⟨broker, -, rfl⟩ := traffic_eq_some ht
    obtain ⟨hissued, hcounter, hcounters⟩ := issued_resumed { s with broker } e
    exact .nothing hissued hcounter hcounters nofun
  | abandon e ht =>
    obtain ⟨broker, -, rfl⟩ := traffic_eq_some ht
    obtain ⟨hissued, hcounter, hcounters⟩ := issued_abandoned { s with broker } e
    exact .nothing hissued hcounter hcounters nofun
  | take h =>
    obtain ⟨broker, -, rfl⟩ := traffic_eq_some h
    exact .nothing rfl rfl rfl nofun

/-! ### No id is given twice -/

/-- The ids that were given are those with a number up to the counter of the service. -/
structure State.Numbered (S : Setup) (s : State) : Prop where
  counter : s.counter ≤ s.eventCounters
  upTo : ∀ e ∈ s.issued, ∃ n, n ≤ s.eventCounters ∧ e.eventId = S.eventId n
  all : ∀ n, 0 < n → n ≤ s.eventCounters → S.eventId n ∈ s.issued.map Event.eventId

theorem numbered_init (S : Setup) : State.Numbered S init :=
  ⟨Nat.le_refl 0, nofun, fun _ hpos hle => absurd hle (Nat.not_le.mpr hpos)⟩

/-- The id of a number is given; the counter of the service rises to it, or has passed it. -/
theorem numbered_of_issued (hs : s.Numbered S) {n : ℕ} {payload : PyVal}
    (hissued : s'.issued = s.issued ++ [s.newEvent (S.eventId n) payload])
    (hcounters : s'.eventCounters = max s.eventCounters n) (hn : n ≤ s.eventCounters + 1)
    (hcounter : s'.counter ≤ s'.eventCounters) : s'.Numbered S := by
  refine ⟨hcounter, fun e he => ?_, fun m hpos hle => ?_⟩
  · rw [hissued] at he
    rcases List.mem_append.mp he with he | he
    · obtain ⟨m, hm, hid⟩ := hs.upTo e he
      exact ⟨m, by omega, hid⟩
    · obtain rfl := List.mem_singleton.mp he
      exact ⟨n, by omega, rfl⟩
  · rw [hissued, List.map_append]
    by_cases hold : m ≤ s.eventCounters
    · exact List.mem_append_left _ (hs.all m hpos hold)
    · obtain rfl : m = n := by omega
      exact List.mem_append_right _ (List.mem_singleton_self _)

theorem numbered_step (hs : s.Numbered S) (h : step S s a = some s') : s'.Numbered S := by
  have hcounter := hs.counter
  cases issues_of_step h with
  | nothing hissued hcounter' hcounters' =>
    refine ⟨by omega, ?_, ?_⟩
    · rw [hissued, hcounters']
      exact hs.upTo
    · rw [hissued, hcounters']
      exact hs.all
  | emitted rawEvent payload hissued hcounter' hcounters' =>
    exact numbered_of_issued hs hissued hcounters' (by omega) (by omega)
  | signalled payload hissued hcounter' hcounters' =>
    exact numbered_of_issued hs hissued (by omega) (Nat.le_refl _) (by omega)

/-- The executor numbers an event only while no signal has taken a number. -/
def numbersAlone (s : State) : Label → Bool
  | .emit _ => s.eventCounters ≤ s.counter
  | _ => true

theorem eventId_inj {m n : ℕ} (h : S.eventId m = S.eventId n) : m = n := by
  have hseq := congrArg S.seq h
  rw [RunStream.Setup.seq_eventId, RunStream.Setup.seq_eventId] at hseq
  exact_mod_cast hseq

theorem notMem_issued (hs : s.Numbered S) {n : ℕ} (hn : s.eventCounters < n) :
    S.eventId n ∉ s.issued.map Event.eventId := by
  intro hmem
  obtain ⟨e, he, hid⟩ := List.mem_map.mp hmem
  obtain ⟨m, hm, hid'⟩ := hs.upTo e he
  obtain rfl := eventId_inj (hid'.symm.trans hid)
  omega

theorem nodup_concat {l : List Event} {e : Event} (hl : (l.map Event.eventId).Nodup) :
    ((l ++ [e]).map Event.eventId).Nodup ↔ e.eventId ∉ l.map Event.eventId := by
  rw [List.map_append, List.map_singleton, List.nodup_append]
  constructor
  · rintro ⟨-, -, hdisjoint⟩ hmem
    exact hdisjoint _ hmem _ (List.mem_singleton_self _) rfl
  · intro hfresh
    refine ⟨hl, List.nodup_singleton _, fun id hid id' hid' heq => hfresh ?_⟩
    rw [← List.mem_singleton.mp hid', ← heq]
    exact hid

/-- A step gives an id a second time exactly if the executor numbers an event after a signal. -/
theorem nodup_step_iff (hs : s.Numbered S) (hnodup : (s.issued.map Event.eventId).Nodup)
    (h : step S s a = some s') :
    (s'.issued.map Event.eventId).Nodup ↔ numbersAlone s a = true := by
  cases issues_of_step h with
  | nothing hissued hcounter' hcounters' ha =>
    rw [hissued]
    refine iff_of_true hnodup ?_
    cases a with
    | emit rawEvent => exact absurd rfl (ha rawEvent)
    | _ => rfl
  | emitted rawEvent payload hissued =>
    rw [hissued, nodup_concat hnodup, numbersAlone, decide_eq_true_eq]
    constructor
    · intro hfresh
      by_contra hlt
      exact hfresh (hs.all (s.counter + 1) (Nat.succ_pos _) (by omega))
    · intro hle
      exact notMem_issued hs (by omega)
  | signalled payload hissued hcounter' hcounters' ha =>
    rw [hissued, nodup_concat hnodup]
    refine iff_of_true (notMem_issued hs (Nat.lt_succ_self _)) ?_
    cases a with
    | emit rawEvent => exact absurd rfl (ha rawEvent)
    | _ => rfl

theorem issued_of_exec {labels : List Label} (h : exec (step S) s labels = some s') :
    s.issued <+: s'.issued := by
  refine exec_invariant (P := fun _ _ => True) (I := fun t => s.issued <+: t.issued) ?_
    List.prefix_rfl (along_true _ _) h
  intro t l t' ht _ hstep
  cases issues_of_step hstep with
  | nothing hissued => rwa [hissued]
  | emitted rawEvent payload hissued | signalled payload hissued =>
    rw [hissued]
    exact ht.trans (List.prefix_append _ _)

/-- **When no id is given twice**: exactly if the executor numbers no event after a signal has
taken a number. -/
theorem nodup_issued_iff {labels : List Label} (h : exec (step S) init labels = some s) :
    (s.issued.map Event.eventId).Nodup ↔
      Along (step S) (fun t l => numbersAlone t l = true) init labels := by
  suffices hgeneral : ∀ t : State, t.Numbered S → (t.issued.map Event.eventId).Nodup →
      exec (step S) t labels = some s → ((s.issued.map Event.eventId).Nodup ↔
        Along (step S) (fun t l => numbersAlone t l = true) t labels) from
    hgeneral init (numbered_init S) List.nodup_nil h
  clear h
  induction labels with
  | nil =>
    intro t _ hnodup h
    obtain rfl := Option.some.inj h
    exact iff_of_true hnodup trivial
  | cons a labels ih =>
    intro t ht hnodup h
    obtain ⟨t', ht', h⟩ := exec_cons_eq_some.mp h
    have hstep := nodup_step_iff ht hnodup ht'
    constructor
    · intro hs
      have hnodup' : (t'.issued.map Event.eventId).Nodup :=
        hs.sublist ((issued_of_exec h).sublist.map _)
      refine ⟨hstep.mp hnodup', fun t'' ht'' => ?_⟩
      obtain rfl := Option.some.inj (ht'.symm.trans ht'')
      exact (ih t' (numbered_step ht ht') hnodup' h).mp hs
    · rintro ⟨halone, hrest⟩
      exact (ih t' (numbered_step ht ht') (hstep.mpr halone) h).mpr (hrest t' ht')

/-! ### The events in the broker and in the store -/

/-- The events that the executor has in hand. -/
def Producer.events : Producer → List Event
  | .waiting e | .storing e | .signalling e => [e]
  | .flushing batch | .cleaning batch => batch
  | .running | .failing | .finishing | .done => []

/-- The batch whose insert is awaited. -/
def Producer.inFlight : Producer → List Event
  | .flushing batch | .cleaning batch => batch
  | _ => []

/-- The events that are, or were, in the broker, and those that are stored or about to be. -/
def State.present (s : State) : List Event :=
  s.broker.accepted ++ (s.producer.inFlight ++ s.batch ++ s.table)

/-- No two events in the broker and the store share an id. -/
def State.UniqueIds (s : State) : Prop :=
  ∀ e ∈ s.present, ∀ e' ∈ s.present, e.eventId = e'.eventId → e = e'

/-- Every event that a part of the system holds was given its id. -/
structure State.Held (s : State) : Prop where
  broker : ∀ e ∈ s.broker.waiting ++ s.broker.accepted, e ∈ s.issued
  producer : ∀ e ∈ s.producer.events, e ∈ s.issued
  batch : ∀ e ∈ s.batch, e ∈ s.issued
  table : ∀ e ∈ s.table, e ∈ s.issued

theorem mem_foldl_insertEvent {table batch : List Event} {e : Event}
    (he : e ∈ batch.foldl insertEvent table) : e ∈ table ∨ e ∈ batch := by
  induction batch generalizing table with
  | nil => exact .inl he
  | cons b batch ih =>
    rcases ih he with he | he
    · rw [insertEvent] at he
      split at he
      · exact .inl he
      · exact (List.mem_append.mp he).imp_right fun he => by simp [List.mem_singleton.mp he]
    · exact .inr (List.mem_cons_of_mem _ he)

/-- A step of the broker with an event that was given its id. -/
theorem held_traffic (hs : s.Held) {l : BoundedQueue.Label Event} (h : s.traffic S l = some s')
    (hput : ∀ e, l = .put e → e ∈ s.issued) : s'.Held := by
  obtain ⟨broker, hbroker, rfl⟩ := traffic_eq_some h
  refine ⟨fun e he => ?_, hs.producer, hs.batch, hs.table⟩
  exact (BoundedQueue.mem_of_step hbroker he).elim (hs.broker e) (hput e)

theorem held_of_issued (hs : s.Held) {e : Event} (hissued : s'.issued = s.issued ++ [e])
    (hbroker : s'.broker = s.broker) (hbatch : s'.batch = s.batch) (htable : s'.table = s.table)
    (hproducer : ∀ e' ∈ s'.producer.events, e' ∈ s.producer.events ∨ e' = e) : s'.Held := by
  have hold (e' : Event) (he' : e' ∈ s.issued) : e' ∈ s'.issued :=
    hissued ▸ List.mem_append_left _ he'
  refine ⟨?_, fun e' he' => ?_, ?_, ?_⟩
  · rw [hbroker]
    exact fun e' he' => hold e' (hs.broker e' he')
  · rcases hproducer e' he' with he' | rfl
    · exact hold e' (hs.producer e' he')
    · exact hissued ▸ List.mem_append_right _ (List.mem_singleton_self _)
  · rw [hbatch]
    exact fun e' he' => hold e' (hs.batch e' he')
  · rw [htable]
    exact fun e' he' => hold e' (hs.table e' he')

theorem held_emit (hs : s.Held) {rawEvent : PyVal}
    (h : emit S s rawEvent = some s') : s'.Held := by
  rw [emit] at h
  split at h
  · obtain rfl := Option.some.inj h
    exact held_of_issued hs rfl rfl rfl rfl nofun
  · obtain rfl := Option.some.inj h
    refine held_of_issued hs rfl rfl rfl rfl fun e he => .inl he
  · rename_i processedEvent _
    have hnumbered : State.Held { s.number S processedEvent with
        producer := if s.mustWait S
          then .waiting (s.newEvent (S.eventId (s.counter + 1)) processedEvent)
          else .storing (s.newEvent (S.eventId (s.counter + 1)) processedEvent) } := by
      refine held_of_issued hs rfl rfl rfl rfl fun e he => .inr ?_
      dsimp only at he
      split at he <;> exact List.mem_singleton.mp he
    refine held_traffic hnumbered h ?_
    rintro e ⟨⟩
    exact List.mem_append_right _ (List.mem_singleton_self _)

theorem held_signal (hs : s.Held) {sig : Signal} (h : signal S s sig = some s') : s'.Held := by
  have hput {t : State} (hissued : t.issued = (s.numberSignal S sig).issued) (e : Event)
      (he : BoundedQueue.Label.put
        (s.newEvent (S.eventId (s.eventCounters + 1)) sig.payload) = .put e) : e ∈ t.issued := by
    obtain ⟨⟩ := he
    rw [hissued]
    exact List.mem_append_right _ (List.mem_singleton_self _)
  rw [signal] at h
  split at h
  · have hnumbered : State.Held { s.numberSignal S sig with
        producer := .signalling (s.newEvent (S.eventId (s.eventCounters + 1)) sig.payload) } :=
      held_of_issued hs rfl rfl rfl rfl fun e he => .inr (List.mem_singleton.mp he)
    exact held_traffic hnumbered h (hput rfl)
  · obtain ⟨s₁, hs₁, rfl⟩ := Option.map_eq_some_iff.mp h
    have hnumbered : State.Held { s.numberSignal S sig with producer := .finishing } :=
      held_of_issued hs rfl rfl rfl rfl nofun
    have hheld := held_traffic hnumbered hs₁ (hput rfl)
    exact ⟨hheld.broker, hheld.producer, hheld.batch, hheld.table⟩

theorem held_store (hs : s.Held) {e : Event} (hp : s.producer = .storing e) :
    (store S s e).Held := by
  have he : e ∈ s.issued := hs.producer e (by rw [hp]; exact List.mem_singleton_self e)
  have hbatch : ∀ e' ∈ s.batch ++ [e], e' ∈ s.issued := by
    intro e' he'
    rcases List.mem_append.mp he' with he' | he'
    · exact hs.batch e' he'
    · exact List.mem_singleton.mp he' ▸ he
  rw [store]
  split
  · exact ⟨hs.broker, nofun, hs.batch, hs.table⟩
  · dsimp only
    split
    · exact ⟨hs.broker, hbatch, nofun, hs.table⟩
    · exact ⟨hs.broker, nofun, hbatch, hs.table⟩

theorem held_flush (hs : s.Held) {ok : Bool} (h : flush s ok = some s') : s'.Held := by
  have htable {batch : List Event} (hbatch : ∀ e ∈ batch, e ∈ s.issued) :
      ∀ e ∈ batch.foldl insertEvent s.table, e ∈ s.issued := fun e he =>
    (mem_foldl_insertEvent he).elim (hs.table e) (hbatch e)
  rw [flush] at h
  split at h
  · rename_i batch hp
    have hbatch : ∀ e ∈ batch, e ∈ s.issued := fun e he => hs.producer e (by rwa [hp])
    split at h
    · obtain rfl := Option.some.inj h
      exact ⟨hs.broker, nofun, hs.batch, htable hbatch⟩
    · obtain rfl := Option.some.inj h
      exact ⟨hs.broker, nofun, hs.batch, hs.table⟩
  · rename_i batch hp
    have hbatch : ∀ e ∈ batch, e ∈ s.issued := fun e he => hs.producer e (by rwa [hp])
    split at h
    · obtain rfl := Option.some.inj h
      exact ⟨hs.broker, nofun, hs.batch, htable hbatch⟩
    · obtain rfl := Option.some.inj h
      exact ⟨hs.broker, nofun, hs.batch, hs.table⟩
  · cases h

theorem held_resumed (hs : s.Held) (e : Event) : (resumed s e).Held := by
  rw [resumed]
  split
  · rename_i e' hp
    split
    · exact ⟨hs.broker, fun e he => hs.producer e (by rwa [hp]), hs.batch, hs.table⟩
    · exact hs
  · split
    · exact ⟨hs.broker, nofun, hs.batch, hs.table⟩
    · exact hs
  · exact hs

theorem held_abandoned (hs : s.Held) (e : Event) : (abandoned s e).Held := by
  rw [abandoned]
  split
  · split
    · exact ⟨hs.broker, nofun, hs.batch, hs.table⟩
    · exact hs
  · split
    · exact ⟨hs.broker, nofun, hs.batch, hs.table⟩
    · exact hs
  · exact hs

theorem held_cleanup (hs : s.Held) : (cleanup s).Held := by
  rw [cleanup]
  split
  · exact ⟨hs.broker, nofun, hs.batch, hs.table⟩
  · exact ⟨hs.broker, hs.batch, nofun, hs.table⟩

theorem held_request (hs : s.Held) {sig : Signal} (h : request S s sig = some s') : s'.Held := by
  have hnumbered : (s.numberSignal S sig).Held :=
    held_of_issued hs rfl rfl rfl rfl fun e he => .inl he
  refine held_traffic hnumbered h ?_
  rintro e ⟨⟩
  exact List.mem_append_right _ (List.mem_singleton_self _)

theorem held_step (hs : s.Held) (h : step S s a = some s') : s'.Held := by
  cases step_cases h with
  | emit _ h => exact held_emit hs h
  | store hp => exact held_store hs hp
  | flush h => exact held_flush hs h
  | finish | fail => exact ⟨hs.broker, nofun, hs.batch, hs.table⟩
  | signal _ h => exact held_signal hs h
  | cleanup => exact held_cleanup hs
  | request h => exact held_request hs h
  | close => exact ⟨hs.broker, hs.producer, hs.batch, hs.table⟩
  | resume e ht => exact held_resumed (held_traffic hs ht nofun) e
  | abandon e ht => exact held_abandoned (held_traffic hs ht nofun) e
  | take h => exact held_traffic hs h nofun

theorem held_init : State.Held init where
  broker _ he := nomatch he
  producer _ he := nomatch he
  batch _ he := nomatch he
  table _ he := nomatch he

theorem held_of_exec {labels : List Label} (h : exec (step S) init labels = some s) : s.Held :=
  exec_invariant (P := fun _ _ => True) (fun _ _ _ hs _ hstep => held_step hs hstep) held_init
    (along_true _ _) h

theorem mem_issued_of_present (hs : s.Held) {e : Event} (he : e ∈ s.present) : e ∈ s.issued := by
  rcases List.mem_append.mp he with he | he
  · exact hs.broker e (List.mem_append_right _ he)
  · rcases List.mem_append.mp he with he | he
    · rcases List.mem_append.mp he with he | he
      · refine hs.producer e ?_
        cases hp : s.producer with
        | flushing batch | cleaning batch => rwa [hp] at he
        | running | waiting | storing | failing | signalling | finishing | done =>
          rw [hp] at he
          cases he
      · exact hs.batch e he
    · exact hs.table e he

/-- An insert discards no event if the ids are unique. -/
theorem mem_foldl_of_unique {table batch : List Event}
    (hunique : ∀ e ∈ table ++ batch, ∀ e' ∈ table ++ batch, e.eventId = e'.eventId → e = e')
    {e : Event} (he : e ∈ table ∨ e ∈ batch) : e ∈ batch.foldl insertEvent table := by
  induction batch generalizing table with
  | nil => exact he.elim id nofun
  | cons b batch ih =>
    have hsubset : ∀ x ∈ insertEvent table b ++ batch, x ∈ table ++ b :: batch := by
      intro x hx
      rw [insertEvent] at hx
      split at hx <;> grind
    refine ih (fun x hx y hy => hunique x (hsubset x hx) y (hsubset y hy)) ?_
    rw [insertEvent]
    split
    · rename_i hexists
      obtain ⟨r, hr, hid⟩ := List.any_eq_true.mp hexists
      rcases he with he | he
      · exact .inl he
      · rcases List.mem_cons.mp he with rfl | he
        · refine .inl ?_
          rw [← hunique r (List.mem_append_left _ hr) e
            (List.mem_append_right _ List.mem_cons_self) (of_decide_eq_true hid)]
          exact hr
        · exact .inr he
    · grind

/-- **Event ids are unique** in a run whose executor numbers no event after a signal has taken a
number: no two events in the broker and the store share an id, and an insert discards no event. -/
theorem uniqueIds_of_along (S : Setup) {labels : List Label} {s : State}
    (halone : Along (step S) (fun t l => numbersAlone t l = true) init labels)
    (h : exec (step S) init labels = some s) :
    s.UniqueIds ∧ ∀ s', step S s (.flush true) = some s' →
      ∀ e ∈ s.producer.inFlight, e ∈ s'.table := by
  have hheld := held_of_exec h
  have hnodup := (nodup_issued_iff h).mpr halone
  have hunique : s.UniqueIds := fun e he e' he' hid =>
    List.inj_on_of_nodup_map hnodup (mem_issued_of_present hheld he)
      (mem_issued_of_present hheld he') hid
  refine ⟨hunique, fun s' hs' e he => ?_⟩
  have hpresent : ∀ x ∈ s.table ++ s.producer.inFlight, x ∈ s.present := by
    intro x hx
    rw [State.present]
    grind
  have hall : e ∈ s.producer.inFlight.foldl insertEvent s.table :=
    mem_foldl_of_unique (fun x hx y hy => hunique x (hpresent x hx) y (hpresent y hy)) (.inr he)
  have hs' : flush s true = some s' := hs'
  rw [flush] at hs'
  split at hs'
  · rename_i batch hp
    rw [hp] at hall
    obtain rfl := Option.some.inj hs'
    exact hall
  · rename_i batch hp
    rw [hp] at hall
    obtain rfl := Option.some.inj hs'
    exact hall
  · cases hs'

/-! ### A cancel request between two events -/

/-- One values event, put and stored in a batch of its own. -/
def valuesEvent : List Label := [.emit (.tuple [.str "values", .int 1]), .store, .flush true]

theorem uniqueIds_cancelled :
    ∃ s, exec (step exampleSetup) init (valuesEvent ++ [.request .cancelled, .close]) =
        some s ∧ s.UniqueIds := by
  obtain ⟨s, hs⟩ : ∃ s, exec (step exampleSetup) init
      (valuesEvent ++ [.request .cancelled, .close]) = some s :=
    Option.isSome_iff_exists.mp (by decide)
  exact ⟨s, hs, (uniqueIds_of_along exampleSetup (by decide) hs).1⟩

/-- **An id that is given twice**: the end event of a cancel request is in the broker, and the next
event of the graph is stored under the same id. -/
theorem id_given_twice :
    ¬ ∀ (S : Setup) (labels : List Label) (s : State),
      exec (step S) init labels = some s → s.UniqueIds := by
  intro h
  let first : Event := ⟨0, "r_event_1".toList, .tuple [.str "values", .int 1]⟩
  let ending : Event := ⟨1, "r_event_2".toList, Signal.cancelled.payload⟩
  let second : Event := ⟨2, "r_event_2".toList, .tuple [.str "values", .int 1]⟩
  obtain ⟨s, hs, hpresent⟩ : ∃ s, exec (step exampleSetup) init
      (valuesEvent ++ [.request .cancelled, .close] ++ valuesEvent) = some s ∧
      s.present = [first, ending, first, second] := ⟨_, rfl, rfl⟩
  have hsame : ending = second := h exampleSetup _ s hs ending (by simp [hpresent]) second
    (by simp [hpresent]) rfl
  exact absurd (congrArg Event.serial hsame) (by decide)

end RunSignals

end OpenLangGraph

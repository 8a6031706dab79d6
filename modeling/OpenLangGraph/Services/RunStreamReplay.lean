import OpenLangGraph.Services.EventEncoding
import OpenLangGraph.Services.RunStreamOrder
import Mathlib.Data.List.Pairwise

/-!
# What a reconnection is sent

A consumer that reconnects through `stream_run` with a `Last-Event-ID` numbered `k`. If the run
is completed, failed or cancelled by then, it is sent the `end` event and nothing else. If not,
every storable event behind `k` reaches it, from the table or from the queue, as long as the event
is still in one of the two, or on its way into the queue, when the replay query is made.

## Main definitions

* `State.Traced` — whatever is queued or stored comes from an emitted event
* `Recoverable`, `Reconnected` — the conditions on the replay query and on the steps after it
* `State.Covers` — every storable event behind `k` is sent, or still on its way to the consumer

## Main results

* `traced_step`, `covers_step` — the steps preserve the two invariants
* `consume_settles` — a consumer left alone comes to the end of its stream, or waits for more
* `reconnect_complete` — what a reconnection is sent
-/

open PyString

namespace OpenLangGraph

namespace RunStream

open EventStore EventConverter StreamingService Transition

variable {S : Setup}

/-! ### Storable events -/

/-- `_process_interrupt_updates` for the stream modes of the run. -/
def Setup.process (S : Setup) (rawEvent : PyVal) : Option (PyVal × Bool) :=
  processInterruptUpdates rawEvent S.onlyInterruptUpdates

/-- Storing the event gives a row that a replay can send. -/
def Setup.storable (S : Setup) (e : ℕ × PyVal) : Bool :=
  (storedMessage S.unicode S.jsonb S.runtime S.runId (S.eventId e.1) e.2
    S.onlyInterruptUpdates).isSome

/-- The row that storing an event gives. -/
def Setup.RowOf (S : Setup) (e : ℕ × PyVal) (row : Row) : Prop :=
  ∃ event force, storageEvent (S.eventId e.1) e.2 S.onlyInterruptUpdates =
    some (some (event, force)) ∧ buildInsertRow S.unicode S.jsonb event = some row

theorem seq_of_rowOf {e : ℕ × PyVal} {row : Row} (h : S.RowOf e row) :
    row.id = S.eventId e.1 ∧ row.seq = e.1 := by
  obtain ⟨event, force, hevent, hrow⟩ := h
  obtain ⟨hid, hseq, -⟩ := buildInsertRow_eq_some hrow
  rw [storageEvent_id hevent] at hid hseq
  exact ⟨hid, hseq.trans (S.seq_eventId e.1)⟩

theorem id_of_hasId {n : ℕ} {conversion : Option (Option SseMessage)} {m : SseMessage}
    (h : HasId (S.eventId n) conversion) (hm : conversion = some (some m)) :
    m.id = some (S.eventId n) := by
  rw [h m hm, Option.filter_eq_some_iff]
  exact ⟨rfl, decide_eq_true (generateEventId_ne_nil S.runId n)⟩

/-- The row of a storable event is replayed as a message with its id. -/
theorem replayed_of_storable {e : ℕ × PyVal} {row : Row} (hs : S.storable e = true)
    (h : S.RowOf e row) :
    ∃ m, convertStoredToSse S.runtime row.stored (some S.runId.text) = some (some m) ∧
      m.id = some (S.eventId e.1) := by
  obtain ⟨event, force, hevent, hrow⟩ := id h
  obtain ⟨m, hm⟩ : ∃ m, convertStoredToSse S.runtime row.stored (some S.runId.text) =
      some (some m) := by
    rw [Setup.storable, storedMessage, hevent] at hs
    simp only [Option.join_some, Option.bind_eq_bind, Option.bind_some, hrow] at hs
    obtain ⟨m, hm⟩ := Option.isSome_iff_exists.mp hs
    exact ⟨m, Option.join_eq_some_iff.mp hm⟩
  refine ⟨m, hm, id_of_hasId ?_ hm⟩
  rw [← (seq_of_rowOf h).1]
  exact hasId_convertStoredToSse S.runtime row.stored (some S.runId.text)

/-- A storable event is put to the broker, and the live phase sends it or raises. -/
theorem process_of_storable {e : ℕ × PyVal} (hs : S.storable e = true) :
    ∃ processedEvent, S.process e.2 = some (processedEvent, false) ∧
      convertRawToSse (S.eventId e.1) processedEvent ≠ some none := by
  rw [Setup.storable, storedMessage, storageEvent] at hs
  cases hp : processInterruptUpdates e.2 S.onlyInterruptUpdates with
  | none => simp [hp] at hs
  | some result =>
    obtain ⟨processedEvent, shouldSkip⟩ := result
    cases shouldSkip with
    | true => simp [hp] at hs
    | false =>
      refine ⟨processedEvent, hp, ?_⟩
      cases hr : recordOf (S.eventId e.1) processedEvent with
      | none => simp [hp, hr] at hs
      | some record => exact convertRawToSse_ne_of_recordOf hr

/-! ### Where events come from -/

/-- `event_counter`, the number of the last event emitted. -/
def Producer.counter : Producer → ℕ
  | .starting => 0
  | .running n | .putting n _ | .storing n _ | .flushing n _ | .failing n | .signalling n _
  | .finishing n | .cleaning n _ | .done n => n

/-- The event the producer is working on. -/
def Producer.working : Producer → Option (ℕ × PyVal)
  | .putting n rawEvent | .storing n rawEvent => some (n, rawEvent)
  | _ => none

/-- The number of the event being put. -/
def Producer.beingPut : Producer → Option ℕ
  | .putting n _ => some n
  | _ => none

/-- Nothing more will be put. -/
def Producer.IsOver : Producer → Prop
  | .finishing _ | .cleaning _ _ | .done _ => True
  | _ => False

/-- A queued item is an emitted event, or the `end` signal that comes after all of them. -/
def State.ItemTraced (S : Setup) (s : State) (item : Str × PyVal) : Prop :=
  (∃ e ∈ s.emitted, item.1 = S.eventId e.1 ∧ S.process e.2 = some (item.2, false)) ∨
    (s.producer.IsOver ∧ ∀ e ∈ s.emitted, (e.1 : ℤ) < S.seq item.1)

/-- Whatever is queued or stored comes from an emitted event. -/
structure State.Traced (S : Setup) (s : State) : Prop where
  sorted : s.emitted.Pairwise fun e e' => e.1 < e'.1
  counter : ∀ e ∈ s.emitted, e.1 ≤ s.producer.counter
  noEnd : ∀ e ∈ s.emitted, RunBroker.isEnd e.2 = false
  working : ∀ e, s.producer.working = some e → e ∈ s.emitted
  finished : s.broker.finished = true → s.producer.IsOver
  status : s.status = .interrupted → s.producer.IsOver
  queue : ∀ item ∈ s.broker.queue, s.ItemTraced S item
  batch : ∀ event ∈ s.producer.inFlight ++ s.batch, ∃ e ∈ s.emitted, ∃ force,
    storageEvent (S.eventId e.1) e.2 S.onlyInterruptUpdates = some (some (event, force))
  table : ∀ row ∈ s.table, ∃ e ∈ s.emitted, S.RowOf e row

/-- The graph emits no event that is labelled `end`. -/
def EmitsNoEnd (_ : State) : Label → Prop
  | .emit rawEvent => RunBroker.isEnd rawEvent = false
  | _ => True

theorem isEnd_process {rawEvent processedEvent : PyVal} (h : RunBroker.isEnd rawEvent = false)
    (hp : S.process rawEvent = some (processedEvent, false)) :
    RunBroker.isEnd processedEvent = false := by
  rw [Setup.process, processInterruptUpdates] at hp
  split at hp
  · split at hp
    · split at hp
      · cases hp
      · obtain ⟨n, -, hp⟩ := Option.bind_eq_some_iff.mp hp
        split at hp
        · cases hp; rfl
        · cases hp
    · cases hp; exact h
  · cases hp; exact h

theorem emitted_unique {s : State} (ht : s.Traced S) {e e' : ℕ × PyVal} (he : e ∈ s.emitted)
    (he' : e' ∈ s.emitted) (h : e.1 = e'.1) : e = e' := by
  by_contra hne
  have : Std.Symm fun e e' : ℕ × PyVal => e.1 ≠ e'.1 := ⟨fun _ _ => Ne.symm⟩
  exact (ht.sorted.imp ne_of_lt).forall he he' hne h

/-- A queued item with the number of an event is this event, processed. -/
theorem queued_event {s : State} (ht : s.Traced S) {e : ℕ × PyVal} (he : e ∈ s.emitted)
    {item : Str × PyVal} (hitem : item ∈ s.broker.queue) (hseq : S.seq item.1 = e.1) :
    item.1 = S.eventId e.1 ∧ S.process e.2 = some (item.2, false) := by
  rcases ht.queue item hitem with ⟨e', he', hid, hproc⟩ | ⟨-, hlast⟩
  · have hnum : e.1 = e'.1 := by
      rw [hid, Setup.seq_eventId] at hseq
      exact_mod_cast hseq.symm
    obtain rfl := emitted_unique ht he he' hnum
    exact ⟨hid, hproc⟩
  · exact absurd (hlast e he) (by rw [hseq]; exact lt_irrefl _)

/-- A number in the table belongs to a row of the event with this number. -/
theorem rowOf_of_seq {s : State} (ht : s.Traced S) {rows : List Row}
    (hrows : ∀ row ∈ rows, ∃ e ∈ s.emitted, S.RowOf e row) {e : ℕ × PyVal} (he : e ∈ s.emitted)
    {row : Row} (hrow : row ∈ rows) (hseq : row.seq = e.1) : S.RowOf e row := by
  obtain ⟨e', he', hof⟩ := hrows row hrow
  have hnum : e.1 = e'.1 := by
    rw [(seq_of_rowOf hof).2] at hseq
    exact_mod_cast hseq.symm
  exact emitted_unique ht he he' hnum ▸ hof

theorem traced_init : State.Traced S init :=
  ⟨.nil, by simp [init], by simp [init], by simp [init, Producer.working],
    by simp [init, RunBroker.empty], by simp [init], by simp [init, RunBroker.empty],
    by simp [init, Producer.inFlight], by simp [init]⟩

/-- A step that emits nothing keeps the traces, if what it queues or stores can be traced. -/
theorem traced_of_frame {s s' : State} (ht : s.Traced S) (he : s'.emitted = s.emitted)
    (hc : s.producer.counter ≤ s'.producer.counter)
    (hw : ∀ e, s'.producer.working = some e → s.producer.working = some e)
    (ho : s.producer.IsOver → s'.producer.IsOver)
    (hf : s'.broker.finished = true → s.broker.finished = true ∨ s'.producer.IsOver)
    (hs : s'.status = .interrupted → s.status = .interrupted ∨ s'.producer.IsOver)
    (hq : ∀ item ∈ s'.broker.queue, item ∈ s.broker.queue ∨ s'.ItemTraced S item)
    (hb : ∀ event ∈ s'.producer.inFlight ++ s'.batch, event ∈ s.producer.inFlight ++ s.batch ∨
      ∃ e ∈ s.emitted, ∃ force,
        storageEvent (S.eventId e.1) e.2 S.onlyInterruptUpdates = some (some (event, force)))
    (htab : ∀ row ∈ s'.table, row ∈ s.table ∨ ∃ e ∈ s.emitted, S.RowOf e row) :
    s'.Traced S where
  sorted := he ▸ ht.sorted
  counter e h := (ht.counter e (he ▸ h)).trans hc
  noEnd e h := ht.noEnd e (he ▸ h)
  working e h := he ▸ ht.working e (hw e h)
  finished h := (hf h).elim (fun h => ho (ht.finished h)) id
  status h := (hs h).elim (fun h => ho (ht.status h)) id
  queue item h := by
    refine (hq item h).elim (fun h => ?_) id
    rw [State.ItemTraced, he]
    exact (ht.queue item h).imp_right (And.imp_left ho)
  batch event h := he ▸ (hb event h).elim (ht.batch event) id
  table row h := he ▸ (htab row h).elim (ht.table row) id

/-- The rows of a batch in flight can be traced. -/
theorem rowOf_of_insert {s : State} (ht : s.Traced S) {batch : List SSEEvent} {table : List Row}
    (hp : s.producer.inFlight = batch)
    (hstore : storeEvents S.unicode S.jsonb s.table batch = some table) {row : Row}
    (hrow : row ∈ table) : row ∈ s.table ∨ ∃ e ∈ s.emitted, S.RowOf e row := by
  refine (mem_storeEvents hstore hrow).imp_right fun ⟨event, hevent, hbuilt⟩ => ?_
  obtain ⟨e, he, force, hstorage⟩ := ht.batch event (List.mem_append_left _ (hp ▸ hevent))
  exact ⟨e, he, event, force, hstorage, hbuilt⟩

/-- An event that the graph emits is a new one, and the steps before the end are not over. -/
theorem traced_emit {s : State} {n : ℕ} {rawEvent : PyVal} (ht : s.Traced S)
    (hend : RunBroker.isEnd rawEvent = false) (hp : s.producer = .running n) :
    State.Traced S { s with producer := .putting (n + 1) rawEvent
                            emitted := s.emitted ++ [(n + 1, rawEvent)] } := by
  have hcounter := ht.counter
  rw [hp] at hcounter
  have hbefore : ¬ s.producer.IsOver := by simp [hp, Producer.IsOver]
  have hmono {P : ℕ × PyVal → Prop} (h : ∃ e ∈ s.emitted, P e) :
      ∃ e ∈ s.emitted ++ [(n + 1, rawEvent)], P e :=
    h.imp fun e he => ⟨List.mem_append_left _ he.1, he.2⟩
  have hnew (e : ℕ × PyVal) (he : e ∈ s.emitted ++ [(n + 1, rawEvent)]) :
      e ∈ s.emitted ∨ e = (n + 1, rawEvent) :=
    (List.mem_append.mp he).imp_right List.mem_singleton.mp
  refine ⟨?_, ?_, ?_, ?_, fun hf => absurd (ht.finished hf) hbefore,
    fun hs => absurd (ht.status hs) hbefore, fun item hitem => ?_, fun event hevent => ?_,
    fun row hrow => hmono (ht.table row hrow)⟩
  · refine List.pairwise_append.mpr ⟨ht.sorted, List.pairwise_singleton _ _, ?_⟩
    intro e he e' he'
    rw [List.mem_singleton.mp he']
    exact Nat.lt_succ_of_le (hcounter e he)
  · intro e he
    rcases hnew e he with he | rfl
    · exact (hcounter e he).trans (Nat.le_succ n)
    · exact le_refl _
  · intro e he
    rcases hnew e he with he | rfl
    · exact ht.noEnd e he
    · exact hend
  · intro e he
    cases he
    exact List.mem_append_right _ List.mem_cons_self
  · rcases ht.queue item hitem with h | ⟨h, -⟩
    · exact .inl (hmono h)
    · exact absurd h hbefore
  · refine hmono (ht.batch event ?_)
    simpa [hp, Producer.inFlight] using hevent

/-- An event that is put into the queue is one that was emitted, and not the end. -/
theorem traced_put {s : State} {n : ℕ} {rawEvent processedEvent : PyVal} {broker : RunBroker}
    (ht : s.Traced S) (hp : s.producer = .putting n rawEvent)
    (he : processInterruptUpdates rawEvent S.onlyInterruptUpdates = some (processedEvent, false))
    (hb : s.broker.put S.broker (S.eventId n) processedEvent = some broker) :
    State.Traced S { s with producer := .storing n rawEvent, broker } := by
  have hworking := ht.working
  have hmem := hworking (n, rawEvent) (by rw [hp]; rfl)
  have hfinished : broker.finished = true → s.broker.finished = true := by
    intro hf
    rcases RunBroker.put_eq_some hb with ⟨-, rfl⟩ | ⟨-, queue, -, -, rfl⟩
    · exact hf
    · rw [isEnd_process (ht.noEnd _ hmem) he] at hf
      cases hf
  have hqueue : ∀ item ∈ broker.queue, item ∈ s.broker.queue ∨
      (∃ e ∈ s.emitted, item.1 = S.eventId e.1 ∧ S.process e.2 = some (item.2, false)) := by
    intro item hitem
    refine (RunBroker.mem_queue_of_put hb hitem).imp_right ?_
    rintro rfl
    exact ⟨_, hmem, rfl, he⟩
  refine traced_of_frame ht rfl ?_ ?_ ?_ (fun h => .inl (hfinished h)) ?_
    (fun item h => (hqueue item h).imp_right .inl) ?_ ?_ <;>
    simp [hp, Producer.counter, Producer.working, Producer.IsOver, Producer.inFlight] <;> tauto

/-- The steps of the producer keep the traces. -/
theorem traced_produces {s s' : State} {a : Label} (ht : s.Traced S) (hend : EmitsNoEnd s a)
    (h : Produces S s a s') : s'.Traced S := by
  have hworking := ht.working
  have hcounter := ht.counter
  cases h with
  | start hp | putRaises hp | putSkips hp | storeRaises hp | storeSkips hp | fail hp
  | finish interrupted hp | cleanFails ok hp | cleanup hp hb | cleanupFlushes hp
  | commitFails ok hp =>
    refine traced_of_frame ht rfl ?_ ?_ ?_ ?_ ?_ ?_ ?_ ?_ <;>
      simp [hp, Producer.counter, Producer.working, Producer.IsOver, Producer.inFlight] <;> tauto
  | recordFailure cancelled hp =>
    refine traced_of_frame ht rfl ?_ ?_ ?_ ?_ ?_ ?_ ?_ ?_ <;>
      cases cancelled <;>
      simp [hp, Producer.counter, Producer.working, Producer.IsOver, Producer.inFlight] <;> tauto
  | commit hp hstore | clean hp hstore =>
    have hrow (row : Row) := @rowOf_of_insert S s ht _ _ (by rw [hp]; rfl) hstore row
    refine traced_of_frame ht rfl ?_ ?_ ?_ ?_ ?_ ?_ ?_ hrow <;>
      simp [hp, Producer.counter, Producer.working, Producer.IsOver, Producer.inFlight] <;> tauto
  | @store n rawEvent event force hp he | @storeFlushes n rawEvent event force hp he =>
    have hmem := hworking (n, rawEvent) (by rw [hp]; rfl)
    have hbatch : ∀ ev ∈ s.batch ++ [event], ev ∈ s.producer.inFlight ++ s.batch ∨
        ∃ e ∈ s.emitted, ∃ force,
          storageEvent (S.eventId e.1) e.2 S.onlyInterruptUpdates = some (some (ev, force)) := by
      intro ev hev
      rcases List.mem_append.mp hev with hev | hev
      · exact .inl (List.mem_append_right _ hev)
      · exact .inr ⟨_, hmem, force, List.mem_singleton.mp hev ▸ he⟩
    refine traced_of_frame ht rfl ?_ ?_ ?_ ?_ ?_ ?_ (fun ev hev => hbatch ev ?_) ?_ <;>
      simp [hp, Producer.counter, Producer.working, Producer.IsOver] <;>
      simp_all [Producer.inFlight]
  | put hp he hb => exact traced_put ht hp he hb
  | @signal n cancelled broker hp hb =>
    rw [hp] at hcounter
    have hqueue : ∀ item ∈ broker.queue, item ∈ s.broker.queue ∨
        ∀ e ∈ s.emitted, (e.1 : ℤ) < S.seq item.1 := by
      intro item hitem
      refine (RunBroker.mem_queue_of_put hb hitem).imp_right ?_
      rintro rfl e he
      rw [Setup.seq_eventId]
      exact_mod_cast Nat.lt_succ_of_le (hcounter e he)
    refine traced_of_frame ht rfl ?_ ?_ ?_ ?_ ?_
      (fun item h => (hqueue item h).imp_right fun h => .inr ⟨trivial, h⟩) ?_ ?_ <;>
      simp [hp, Producer.counter, Producer.working, Producer.IsOver, Producer.inFlight] <;> tauto
  | emit rawEvent hp => exact traced_emit ht hend hp

/-- A step that leaves the producer and its tables alone keeps the traces. -/
theorem traced_of_consumer {s s' : State} (ht : s.Traced S) (hp : s'.producer = s.producer)
    (hb : s'.batch = s.batch) (hrows : ∀ row ∈ s'.table, row ∈ s.table)
    (he : s'.emitted = s.emitted) (hs : s'.status = s.status)
    (hf : s'.broker.finished = s.broker.finished)
    (hq : ∀ item ∈ s'.broker.queue, item ∈ s.broker.queue) : s'.Traced S :=
  traced_of_frame ht he (hp ▸ le_refl _) (hp ▸ fun _ => id) (hp ▸ id) (hf ▸ Or.inl) (hs ▸ Or.inl)
    (fun item h => .inl (hq item h)) (fun event h => .inl (by rwa [hp, hb] at h))
    (fun row h => .inl (hrows row h))

/-- **Traces are kept.** Every step of the system preserves `Traced`. -/
theorem traced_step {s s' : State} {a : Label} (ht : s.Traced S) (hend : EmitsNoEnd s a)
    (h : step S s a = some s') : s'.Traced S := by
  rcases step_cases h with hprod | ⟨rows, -, rfl⟩ | ⟨lastEventId, -, rfl⟩ | ⟨_, _, -, rfl⟩ |
    ⟨-, rfl⟩ | ⟨-, hcons⟩
  · exact traced_produces ht hend hprod
  · exact traced_of_consumer ht rfl rfl (fun _ => List.mem_of_mem_drop) rfl rfl rfl fun _ => id
  · obtain ⟨hp, hb, htab, he, hs, hbr⟩ := streamRun_frame S s lastEventId
    exact traced_of_consumer ht hp hb (fun _ => htab ▸ id) he hs (by rw [hbr])
      fun _ => hbr ▸ id
  · exact traced_of_consumer ht rfl rfl (fun _ => id) rfl rfl rfl fun _ => id
  · exact traced_of_consumer ht rfl rfl (fun _ => id) rfl rfl rfl fun _ => id
  · obtain ⟨hp, hb, htab, he, hs, hf, hq⟩ := consumes_frame hcons
    exact traced_of_consumer ht hp hb (fun _ => htab ▸ id) he hs hf fun _ => (hq.subset ·)

/-! ### On the way to the consumer -/

/-- The connection was sent the event with this number. -/
def State.WasSent (S : Setup) (s : State) (n : ℕ) : Prop :=
  ∃ m ∈ s.sent, m.id = some (S.eventId n)

instance (S : Setup) (s : State) (n : ℕ) : Decidable (s.WasSent S n) :=
  inferInstanceAs (Decidable (∃ m ∈ s.sent, _))

/-- The event with this number is in the queue, or on its way into it. -/
def State.Awaiting (S : Setup) (s : State) (n : ℕ) : Prop :=
  (n : ℤ) ∈ s.queueSeqs S ∨ s.producer.beingPut = some n

instance (S : Setup) (s : State) (n : ℕ) : Decidable (s.Awaiting S n) :=
  inferInstanceAs (Decidable (_ ∨ _))

/-- The event with this number will be replayed, or taken from the queue. -/
def State.InReach (S : Setup) (s : State) (n : ℕ) : Prop :=
  match s.consumer with
  | .replaying status _ rows =>
    (n : ℤ) ∈ rows.map Row.seq ∨ (status.isOver = false ∧ s.Awaiting S n)
  | .live lastSent => lastSent < n ∧ s.Awaiting S n
  | _ => False

/-- The consumer is somewhere on the way of a connection behind `k`. -/
def State.Follows (S : Setup) (k : ℤ) (s : State) : Prop :=
  match s.consumer with
  | .absent => False
  | .connected status lastEventId =>
    lastEventId.bind (parseEventSequence S.unicode) = some k ∧
      (status.isOver = true → s.producer.IsOver)
  | .replaying status lastSent rows =>
    lastSent = k ∧ (status.isOver = true → s.producer.IsOver) ∧
      ∀ row ∈ rows, ∃ e ∈ s.emitted, S.RowOf e row
  | .live lastSent => lastSent ≤ max k s.producer.putBound
  | .ended error => error = false → s.producer.IsOver

/-- The replay query has been made, and no exception has ended the stream. -/
def Consumer.hasQueried : Consumer → Bool
  | .replaying _ _ _ | .live _ | .ended false => true
  | _ => false

/-- Every storable event behind `k` was sent or is still on its way to the consumer. -/
structure State.Covers (S : Setup) (k : ℤ) (s : State) : Prop where
  follows : s.Follows S k
  reach : s.consumer.hasQueried = true → ∀ e ∈ s.emitted, S.storable e = true → k < e.1 →
    s.WasSent S e.1 ∨ s.InReach S e.1

/-- At a replay query: every storable event behind `k` is in the table, or the run is still active
and the event is in the queue or on its way into it. -/
def Recoverable (S : Setup) (k : ℤ) (s : State) : Prop :=
  match s.consumer with
  | .connected status _ => ∀ e ∈ s.emitted, S.storable e = true → k < e.1 →
    (e.1 : ℤ) ∈ s.table.map Row.seq ∨ (status.isOver = false ∧ s.Awaiting S e.1)
  | _ => True

/-- A put now does not drop an event that the consumer still needs from the queue. -/
def DropsNothing (S : Setup) (s : State) : Prop :=
  s.consumer.hasQueried = false ∨ S.broker.backpressurePolicy = .block ∨
    s.broker.full S.broker = false

/-- The conditions on the steps after a reconnection behind `k`. -/
def Reconnected (S : Setup) (k : ℤ) (s : State) : Label → Prop
  | .consume => Recoverable S k s
  | .put | .signal => DropsNothing S s
  | .streamRun _ | .attach _ _ | .disconnect => False
  | _ => True

/-! ### The producer keeps the events in reach -/

theorem isOver_produces {s s' : State} {a : Label} (h : Produces S s a s')
    (ho : s.producer.IsOver) : s'.producer.IsOver := by
  cases h <;> simp_all [Producer.IsOver]

/-- An event emitted by a step is on its way into the queue, ahead of everything put so far. -/
theorem emitted_produces {s s' : State} {a : Label} (h : Produces S s a s') {e : ℕ × PyVal}
    (he : e ∈ s'.emitted) :
    e ∈ s.emitted ∨ (¬ s.producer.IsOver ∧ s'.producer.beingPut = some e.1 ∧
      s.producer.putBound < e.1) := by
  cases h with
  | @emit n rawEvent hp =>
    refine (List.mem_append.mp he).imp_right fun hnew => ?_
    rw [List.mem_singleton.mp hnew, hp]
    refine ⟨id, rfl, ?_⟩
    simp only [Producer.putBound]
    exact_mod_cast Nat.lt_succ_self n
  | _ => exact .inl he

theorem queueSeqs_put {s : State} {b : RunBroker} {n : ℕ} {payload : PyVal}
    (hfin : s.broker.finished = false)
    (hroom : S.broker.backpressurePolicy = .block ∨ s.broker.full S.broker = false)
    (hb : s.broker.put S.broker (S.eventId n) payload = some b) :
    b.queue.map (fun e => S.seq e.1) = s.queueSeqs S ++ [(n : ℤ)] := by
  rcases RunBroker.put_eq_some hb with ⟨hf, -⟩ | ⟨-, queue, -, hq, rfl⟩
  · rw [hfin] at hf
    cases hf
  · simp [hq hroom, State.queueSeqs]

/-- A storable event stays on its way. -/
theorem awaiting_produces {s s' : State} {a : Label} (ht : s.Traced S) (h : Produces S s a s')
    (hroom : a = .put ∨ a = .signal →
      S.broker.backpressurePolicy = .block ∨ s.broker.full S.broker = false)
    {e : ℕ × PyVal} (he : e ∈ s.emitted) (hs : S.storable e = true) (hw : s.Awaiting S e.1) :
    s'.Awaiting S e.1 := by
  obtain ⟨processedEvent, hproc, -⟩ := process_of_storable hs
  have hactive (hp : ¬ s.producer.IsOver) : s.broker.finished = false := by
    by_contra hf
    exact hp (ht.finished (by simpa using hf))
  -- the event being put is the one in question
  have hput {n : ℕ} {rawEvent : PyVal} (hp : s.producer = .putting n rawEvent)
      (hn : s.producer.beingPut = some e.1) : n = e.1 ∧ rawEvent = e.2 := by
    rw [hp] at hn
    have hmem := ht.working (n, rawEvent) (by rw [hp]; rfl)
    obtain rfl := emitted_unique ht hmem he (Option.some.inj hn)
    exact ⟨rfl, rfl⟩
  cases h with
  | putRaises hp hraise =>
    refine hw.imp_right fun hn => ?_
    rw [Setup.process, ← (hput hp hn).2, hraise] at hproc
    cases hproc
  | putSkips hp hskip =>
    refine hw.imp_right fun hn => ?_
    rw [Setup.process, ← (hput hp hn).2, hskip] at hproc
    cases hproc
  | put hp _ hb =>
    have hqueue := queueSeqs_put (hactive (by simp [hp, Producer.IsOver])) (hroom (.inl rfl)) hb
    refine .inl (?_ : (e.1 : ℤ) ∈ _ )
    rw [State.queueSeqs, hqueue, List.mem_append, List.mem_singleton]
    exact hw.imp_right fun hn => by rw [(hput hp hn).1]
  | signal hp hb =>
    have hqueue := queueSeqs_put (hactive (by simp [hp, Producer.IsOver])) (hroom (.inr rfl)) hb
    refine .inl (?_ : (e.1 : ℤ) ∈ _ )
    rw [State.queueSeqs]
    refine hw.elim (fun hq => ?_) fun hn => ?_
    · exact hqueue ▸ List.mem_append_left _ hq
    · rw [hp] at hn
      cases hn
  | start hp | emit rawEvent hp | storeRaises hp | storeSkips hp | store hp | storeFlushes hp
  | commit hp | commitFails ok hp | clean hp | cleanFails ok hp | finish interrupted hp | fail hp
  | recordFailure cancelled hp | cleanup hp | cleanupFlushes hp =>
    refine hw.imp id fun hn => ?_
    rw [hp] at hn
    cases hn

theorem follows_produces {s s' : State} {a : Label} {k : ℤ} (h : Produces S s a s')
    (hf : s.Follows S k) : s'.Follows S k := by
  obtain ⟨hcons, -, hle, -⟩ := produces_queue h
  have hemitted : ∀ e ∈ s.emitted, e ∈ s'.emitted := by
    cases h with
    | emit => exact fun e he => List.mem_append_left _ he
    | _ => exact fun e he => he
  rw [State.Follows] at hf ⊢
  rw [hcons]
  cases hc : s.consumer with
  | absent => simp [hc] at hf
  | connected status lastEventId =>
    rw [hc] at hf
    exact ⟨hf.1, fun ho => isOver_produces h (hf.2 ho)⟩
  | replaying status lastSent rows =>
    rw [hc] at hf
    exact ⟨hf.1, fun ho => isOver_produces h (hf.2.1 ho), fun row hrow =>
      (hf.2.2 row hrow).imp fun e he => ⟨hemitted e he.1, he.2⟩⟩
  | live lastSent =>
    rw [hc] at hf
    exact hf.trans (max_le_max_left k hle)
  | ended error =>
    rw [hc] at hf
    exact fun he => isOver_produces h (hf he)

/-- The steps of the producer keep the events in reach. -/
theorem covers_produces {s s' : State} {a : Label} {k : ℤ} (ht : s.Traced S) (hc : s.Covers S k)
    (h : Produces S s a s') (hok : Reconnected S k s a) : s'.Covers S k := by
  obtain ⟨hcons, hsent, -, -⟩ := produces_queue h
  refine ⟨follows_produces h hc.follows, fun hq e he hs hk => ?_⟩
  rw [hcons] at hq
  have hroom : a = .put ∨ a = .signal →
      S.broker.backpressurePolicy = .block ∨ s.broker.full S.broker = false := by
    rintro (rfl | rfl) <;> exact (Or.resolve_left hok (by simp [hq]))
  have hsame : s.WasSent S e.1 → s'.WasSent S e.1 := by
    rw [State.WasSent, State.WasSent, hsent]
    exact id
  rcases emitted_produces h he with he | ⟨hactive, hput, hbound⟩
  · refine (hc.reach hq e he hs hk).imp hsame fun hreach => ?_
    have hkeep := awaiting_produces ht h hroom he hs
    rw [State.InReach] at hreach ⊢
    rw [hcons]
    cases hcc : s.consumer with
    | replaying status lastSent rows =>
      rw [hcc] at hreach
      exact hreach.imp_right (And.imp_right hkeep)
    | live lastSent =>
      rw [hcc] at hreach
      exact hreach.imp_right hkeep
    | absent | connected | ended => simp [hcc] at hreach
  · -- a new event: the consumer cannot have come to the end, and its cursor is behind
    refine .inr ?_
    have hf := hc.follows
    rw [State.Follows] at hf
    rw [State.InReach]
    rw [hcons]
    cases hcc : s.consumer with
    | absent => simp [hcc, Consumer.hasQueried] at hq
    | connected status lastEventId => simp [hcc, Consumer.hasQueried] at hq
    | replaying status lastSent rows =>
      rw [hcc] at hf
      refine .inr ⟨?_, .inr hput⟩
      by_contra ho
      exact hactive (hf.2.1 (by simpa using ho))
    | live lastSent =>
      rw [hcc] at hf
      exact ⟨lt_of_le_of_lt hf (max_lt hk hbound), .inr hput⟩
    | ended error =>
      rw [hcc] at hf
      cases error with
      | false => exact absurd (hf rfl) hactive
      | true => simp [hcc, Consumer.hasQueried] at hq

/-! ### The consumer keeps the events in reach -/

/-- The replay query finds every row behind `k`. -/
theorem mem_replayRows {s : State} {k : ℤ} {lastEventId : Option Str} {row : Row}
    (hk : lastEventId.bind (parseEventSequence S.unicode) = some k) (hrow : row ∈ s.table)
    (hlt : k < row.seq) : row ∈ replayRows S s.table lastEventId := by
  obtain ⟨eventId, rfl, hparse⟩ := Option.bind_eq_some_iff.mp hk
  rw [replayRows, streamEventsSince, orderBySeq, (List.perm_insertionSort _ _).mem_iff,
    List.mem_filter, hparse]
  exact ⟨hrow, by simpa using hlt⟩

theorem lastSentSequence_eq {k : ℤ} {lastEventId : Option Str}
    (hk : lastEventId.bind (parseEventSequence S.unicode) = some k) :
    lastSentSequence S lastEventId = k := by
  obtain ⟨eventId, rfl, hparse⟩ := Option.bind_eq_some_iff.mp hk
  rw [lastSentSequence, Setup.seq, extractEventSequence, hparse, Option.getD_some]

theorem covers_query {s : State} {k : ℤ} {status : RunStatus} {lastEventId : Option Str}
    (ho : s.Ordered S) (ht : s.Traced S) (hc : s.Covers S k) (hok : Recoverable S k s)
    (hcc : s.consumer = .connected status lastEventId) :
    State.Covers S k { s with consumer := .replaying status (lastSentSequence S lastEventId)
                                            (replayRows S s.table lastEventId) } := by
  have hf := hc.follows
  rw [State.Follows, hcc] at hf
  rw [Recoverable, hcc] at hok
  have hrows : ∀ row ∈ replayRows S s.table lastEventId, ∃ e ∈ s.emitted, S.RowOf e row :=
    fun row hrow => ht.table row ((replayRows_sublist ho lastEventId).subset hrow)
  refine ⟨⟨lastSentSequence_eq hf.1, hf.2, hrows⟩, fun _ e he hs hk => .inr ?_⟩
  refine (hok e he hs hk).imp_left fun hmem => ?_
  obtain ⟨row, hrow, hseq⟩ := List.mem_map.mp hmem
  exact List.mem_map.mpr ⟨row, mem_replayRows hf.1 hrow (hseq ▸ hk), hseq⟩

/-- An exception has ended the stream; nothing is promised any more. -/
theorem covers_error {s : State} {k : ℤ} (hc : s.consumer = .ended true) : s.Covers S k :=
  ⟨by simp [State.Follows, hc], by simp [Consumer.hasQueried, hc]⟩

theorem covers_row {s : State} {k : ℤ} {status : RunStatus} {lastSent : ℤ} {row : Row}
    {rows : List Row} (ht : s.Traced S) (hc : s.Covers S k)
    (hcc : s.consumer = .replaying status lastSent (row :: rows)) :
    (replayRow S s status lastSent row rows).Covers S k := by
  obtain ⟨hf, hreach⟩ := hc
  rw [State.Follows, hcc] at hf
  rw [replayRow]
  split
  · exact covers_error rfl
  · rename_i message hmsg
    refine ⟨⟨hf.1, hf.2.1, fun r hr => hf.2.2 r (List.mem_cons_of_mem _ hr)⟩,
      fun _ e he hs hk => ?_⟩
    rcases hreach (by simp [hcc, Consumer.hasQueried]) e he hs hk with ⟨m, hm, hid⟩ | h
    · exact .inl ⟨m, List.mem_append_left _ hm, hid⟩
    · rw [State.InReach, hcc] at h
      rcases h with hmem | hwait
      · rcases List.mem_cons.mp hmem with hhead | htail
        · have hof := rowOf_of_seq ht hf.2.2 he List.mem_cons_self hhead.symm
          obtain ⟨m, hm, hid⟩ := replayed_of_storable hs hof
          rw [hm] at hmsg
          obtain rfl := Option.some.inj hmsg
          exact .inl ⟨m, List.mem_append_right _ (by simp), hid⟩
        · exact .inr (.inl htail)
      · exact .inr (.inr hwait)

/-- The sequence numbers behind the head of the queue are larger, and the head is not ahead of
what was put. -/
theorem head_lt {s : State} (ho : s.Ordered S) {eventId : Str} {rawEvent : PyVal}
    {queue : List (Str × PyVal)} (hq : s.broker.queue = (eventId, rawEvent) :: queue) :
    (∀ x ∈ queue.map (fun e => S.seq e.1), S.seq eventId < x) ∧
      S.seq eventId ≤ s.producer.putBound := by
  obtain ⟨hsorted, hbound⟩ := ho.queue
  rw [State.queueSeqs, hq, List.map_cons] at hsorted hbound
  exact ⟨fun x hx => List.rel_of_pairwise_cons hsorted hx, (hbound _ List.mem_cons_self).2⟩

/-- What is awaited behind the head of the queue is ahead of it. -/
theorem awaiting_tail {s : State} (ho : s.Ordered S) {eventId : Str} {rawEvent : PyVal}
    {queue : List (Str × PyVal)} (hq : s.broker.queue = (eventId, rawEvent) :: queue) {n : ℕ}
    (h : s.Awaiting S n) :
    (n : ℤ) = S.seq eventId ∨ (S.seq eventId < n ∧
      State.Awaiting S { s with broker := { s.broker with queue } } n) := by
  obtain ⟨htail, hhead⟩ := head_lt ho hq
  rcases h with h | h
  · rw [State.queueSeqs, hq, List.map_cons] at h
    exact (List.mem_cons.mp h).imp_right fun h => ⟨htail _ h, .inl h⟩
  · refine .inr ⟨lt_of_le_of_lt hhead ?_, .inr h⟩
    cases hp : s.producer with
    | putting m rawEvent =>
      rw [hp] at h
      rw [← Option.some.inj h]
      exact Int.sub_one_lt_of_le (le_refl _)
    | _ => simp [hp, Producer.beingPut] at h

/-- An `end` event at the head of the queue is the signal: nothing is awaited behind it. -/
theorem end_is_last {s : State} (ho : s.Ordered S) (ht : s.Traced S) {eventId : Str}
    {rawEvent : PyVal} {queue : List (Str × PyVal)}
    (hq : s.broker.queue = (eventId, rawEvent) :: queue) (hend : RunBroker.isEnd rawEvent = true) :
    s.producer.IsOver ∧ ∀ e ∈ s.emitted, ¬ s.Awaiting S e.1 := by
  rcases ht.queue (eventId, rawEvent) (hq ▸ List.mem_cons_self) with
    ⟨e, he, -, hproc⟩ | ⟨hover, hlast⟩
  · rw [isEnd_process (ht.noEnd e he) hproc] at hend
    cases hend
  · refine ⟨hover, fun e he hwait => ?_⟩
    have hlt := hlast e he
    rcases awaiting_tail ho hq hwait with h | ⟨h, -⟩
    · exact absurd hlt (by rw [h]; exact lt_irrefl _)
    · exact lt_asymm h hlt

/-- Where the live phase goes on after an event, if what it still has to send is ahead of its new
cursor. -/
theorem covers_next {s : State} {k cursor : ℤ} {eventId : Str} {rawEvent : PyVal}
    {queue : List (Str × PyVal)} {sent : List SseMessage} (ho : s.Ordered S) (ht : s.Traced S)
    (hq : s.broker.queue = (eventId, rawEvent) :: queue)
    (hcursor : cursor ≤ max k s.producer.putBound)
    (hreach : ∀ e ∈ s.emitted, S.storable e = true → k < e.1 →
      State.WasSent S { s with sent } e.1 ∨ (cursor < e.1 ∧ s.Awaiting S e.1 ∧
        State.Awaiting S { s with broker := { s.broker with queue } } e.1)) :
    State.Covers S k
      { s with
        broker := { s.broker with queue }, sent
        consumer := if RunBroker.isEnd rawEvent then .ended false else .live cursor } := by
  cases hend : RunBroker.isEnd rawEvent with
  | false => exact ⟨hcursor, fun _ e he hs hk => (hreach e he hs hk).imp id fun h => ⟨h.1, h.2.2⟩⟩
  | true =>
    obtain ⟨hover, hnone⟩ := end_is_last ho ht hq hend
    exact ⟨fun _ => hover, fun _ e he hs hk =>
      (hreach e he hs hk).imp id fun h => absurd h.2.1 (hnone e he)⟩

/-- The live phase sends the event at the head of the queue, and the others stay ahead of the
cursor. -/
theorem covers_event {s : State} {k lastSent : ℤ} {eventId : Str} {rawEvent : PyVal}
    {queue : List (Str × PyVal)} (ho : s.Ordered S) (ht : s.Traced S) (hc : s.Covers S k)
    (hcc : s.consumer = .live lastSent) (hq : s.broker.queue = (eventId, rawEvent) :: queue) :
    (liveEvent S { s with broker := { s.broker with queue } } lastSent eventId rawEvent).Covers
      S k := by
  have hf := hc.follows
  rw [State.Follows, hcc] at hf
  have hreach : ∀ e ∈ s.emitted, S.storable e = true → k < e.1 →
      s.WasSent S e.1 ∨ (lastSent < e.1 ∧ s.Awaiting S e.1) := by
    intro e he hs hk
    refine (hc.reach (by simp [hcc, Consumer.hasQueried]) e he hs hk).imp id fun h => ?_
    rwa [State.InReach, hcc] at h
  -- a storable event at the head of the queue is what the item is made of
  have hhead : ∀ e ∈ s.emitted, (e.1 : ℤ) = S.seq eventId → S.storable e = true →
      eventId = S.eventId e.1 ∧ convertRawToSse eventId rawEvent ≠ some none := by
    intro e he hseq hs
    have hmem : (eventId, rawEvent) ∈ s.broker.queue := hq ▸ List.mem_cons_self
    obtain ⟨hid, hproc⟩ := queued_event ht he hmem hseq.symm
    obtain ⟨processedEvent, hproc', hconv⟩ := process_of_storable hs
    obtain rfl : rawEvent = processedEvent := by
      rw [hproc] at hproc'
      exact (Prod.mk.inj (Option.some.inj hproc')).1
    exact ⟨hid, by rw [show eventId = S.eventId e.1 from hid]; exact hconv⟩
  rw [liveEvent]
  dsimp only
  split
  · rename_i hle
    refine covers_next ho ht hq hf fun e he hs hk => (hreach e he hs hk).imp id fun h => ?_
    refine ⟨h.1, h.2, (awaiting_tail ho hq h.2).elim (fun heq => ?_) And.right⟩
    exact absurd (h.1.trans_le (heq ▸ hle)) (lt_irrefl _)
  · rename_i hlt
    split
    · exact covers_error rfl
    · rename_i hconv
      refine covers_next ho ht hq hf fun e he hs hk => (hreach e he hs hk).imp id fun h => ?_
      refine ⟨h.1, h.2, (awaiting_tail ho hq h.2).elim (fun heq => ?_) And.right⟩
      exact absurd hconv (hhead e he heq hs).2
    · rename_i m hconv
      refine covers_next ho ht hq ((head_lt ho hq).2.trans (le_max_right _ _)) fun e he hs hk => ?_
      rcases hreach e he hs hk with ⟨m', hm', hid⟩ | ⟨-, hwait⟩
      · exact .inl ⟨m', List.mem_append_left _ hm', hid⟩
      · refine (awaiting_tail ho hq hwait).imp (fun heq => ?_) fun h => ⟨h.1, hwait, h.2⟩
        obtain ⟨hid, -⟩ := hhead e he heq hs
        have hm : HasId (S.eventId e.1) (convertRawToSse eventId rawEvent) :=
          hid ▸ hasId_convertRawToSse eventId rawEvent
        exact ⟨m, List.mem_append_right _ (by simp), id_of_hasId hm hconv⟩

/-- The steps of the consumer keep the events in reach. -/
theorem covers_consumes {s s' : State} {k : ℤ} (ho : s.Ordered S) (ht : s.Traced S)
    (hc : s.Covers S k) (hok : Recoverable S k s) (h : Consumes S s s') : s'.Covers S k := by
  cases h with
  | query hcc => exact covers_query ho ht hc hok hcc
  | row hcc => exact covers_row ht hc hcc
  | event hcc hq => exact covers_event ho ht hc hcc hq
  | @stop status lastSent hcc hover hfin =>
    refine ⟨fun _ => ht.finished hfin, fun _ e he hs hk => .inl ?_⟩
    rcases hc.reach (by simp [hcc, Consumer.hasQueried]) e he hs hk with h | h
    · exact h
    · simp [State.InReach, hcc, hover] at h
  | @goLive status lastSent hcc =>
    obtain ⟨hf, hreach⟩ := hc
    rw [State.Follows, hcc] at hf
    refine ⟨hf.1 ▸ le_max_left _ _, fun _ e he hs hk => ?_⟩
    refine (hreach (by simp [hcc, Consumer.hasQueried]) e he hs hk).imp id fun h => ?_
    rw [State.InReach, hcc] at h
    have hwait : s.Awaiting S e.1 := by
      rcases h with h | h
      · cases h
      · exact h.2
    exact ⟨hf.1 ▸ hk, hwait⟩
  | @drained lastSent hcc hq hfin =>
    have hover := ht.finished hfin
    refine ⟨fun _ => hover, fun _ e he hs hk => .inl ?_⟩
    rcases hc.reach (by simp [hcc, Consumer.hasQueried]) e he hs hk with h | h
    · exact h
    · rw [State.InReach, hcc] at h
      rcases h.2 with h | h
      · simp [State.queueSeqs, hq] at h
      · cases hp : s.producer <;> simp_all [Producer.beingPut, Producer.IsOver]

/-- **Events stay in reach.** Every step after a reconnection preserves `Covers`. -/
theorem covers_step {s s' : State} {a : Label} {k : ℤ} (ho : s.Ordered S) (ht : s.Traced S)
    (hc : s.Covers S k) (hok : Reconnected S k s a) (h : step S s a = some s') :
    s'.Covers S k := by
  rcases step_cases h with hprod | ⟨rows, -, rfl⟩ | ⟨lastEventId, rfl, -⟩ | ⟨_, _, rfl, -⟩ |
    ⟨rfl, -⟩ | ⟨rfl, hcons⟩
  · exact covers_produces ht hc hprod hok
  · exact ⟨hc.follows, hc.reach⟩
  · cases hok
  · cases hok
  · cases hok
  · exact covers_consumes ho ht hc hok hcons

/-- A connection to a run that has ended is over, and stays so. -/
theorem ended_step {s s' : State} {a : Label} {k : ℤ} {error : Bool}
    (hc : s.consumer = .ended error) (hok : Reconnected S k s a) (h : step S s a = some s') :
    s'.consumer = .ended error ∧ s'.sent = s.sent := by
  rcases step_cases h with hprod | ⟨rows, -, rfl⟩ | ⟨lastEventId, rfl, -⟩ | ⟨_, _, rfl, -⟩ |
    ⟨rfl, -⟩ | ⟨rfl, hcons⟩
  · exact ⟨(produces_queue hprod).1.trans hc, (produces_queue hprod).2.1⟩
  · exact ⟨hc, rfl⟩
  · cases hok
  · cases hok
  · cases hok
  · cases hcons <;> simp_all

/-! ### A reconnection -/

theorem ne_nil_of_parse {U : UnicodeDb} {eventId : Str} {k : ℤ}
    (h : parseEventSequence U eventId = some k) : eventId ≠ [] := by
  rintro rfl
  cases h

/-- A reconnection to a run that is not over starts with nothing lost. -/
theorem covers_streamRun {s : State} {k : ℤ} {lastEventId : Str} (ht : s.Traced S)
    (hk : parseEventSequence S.unicode lastEventId = some k) (hs : s.status.isTerminal = false) :
    (streamRun S s (some lastEventId)).Covers S k := by
  have hfilter : (some lastEventId).filter (· ≠ []) = some lastEventId := by
    rw [Option.filter_eq_some_iff]
    exact ⟨rfl, decide_eq_true (ne_nil_of_parse hk)⟩
  rw [streamRun, hs, if_neg Bool.false_ne_true, streamRunExecution, hfilter]
  refine ⟨⟨hk, fun hover => ht.status ?_⟩, fun h => by cases h⟩
  cases hstatus : s.status <;> simp_all [RunStatus.isTerminal, RunStatus.isOver]

/-- How many steps the consumer can take on its own. -/
def State.remaining (S : Setup) (s : State) : ℕ :=
  match s.consumer with
  | .connected _ lastEventId =>
    (replayRows S s.table lastEventId).length + s.broker.queue.length + 3
  | .replaying _ _ rows => rows.length + s.broker.queue.length + 2
  | .live _ => s.broker.queue.length + 1
  | .absent | .ended _ => 0

theorem remaining_consumes {s s' : State} (h : Consumes S s s') :
    s'.remaining S < s.remaining S := by
  cases h with
  | query hc => simp [State.remaining, hc]
  | row hc =>
    rw [replayRow]
    split <;> simp [State.remaining, hc]
  | stop hc | goLive hc => simp [State.remaining, hc]
  | drained hc => simp [State.remaining, hc]
  | event hc hq =>
    rw [liveEvent]
    dsimp only
    repeat' split
    all_goals simp [State.remaining, hc, hq]

/-- A consumer left alone comes to the end of its stream, or waits for more. -/
theorem consume_settles (S : Setup) (s : State) :
    ∃ j u, exec (step S) s (List.replicate j .consume) = some u ∧ step S u .consume = none := by
  generalize hr : s.remaining S = r
  induction r using Nat.strongRecOn generalizing s with
  | ind r ih =>
    cases hstep : step S s .consume with
    | none => exact ⟨0, s, rfl, hstep⟩
    | some s' =>
      have hlt := remaining_consumes (consumes_of_consume hstep)
      obtain ⟨j, u, hu, hsettled⟩ := ih _ (hr ▸ hlt) s' rfl
      exact ⟨j + 1, u, exec_cons_eq_some.mpr ⟨s', hstep, hu⟩, hsettled⟩

/-- `execute_run_async` has returned. -/
def Producer.isDone : Producer → Bool
  | .done _ => true
  | _ => false

/-- The stream was ended by an exception. -/
def Consumer.raised : Consumer → Bool
  | .ended error => error
  | _ => false

/-- A consumer with nothing left to do was sent whatever it could be sent. -/
theorem sent_of_settled {s : State} {k : ℤ} (hc : s.Covers S k) (hdone : s.producer.isDone = true)
    (hsettled : step S s .consume = none) (hraised : s.consumer.raised = false) :
    ∀ e ∈ s.emitted, S.storable e = true → k < e.1 → s.WasSent S e.1 := by
  intro e he hs hk
  obtain ⟨hf, hreach⟩ := hc
  have hput : s.producer.beingPut = none := by
    cases hp : s.producer <;> simp_all [Producer.isDone, Producer.beingPut]
  cases hcons : s.consumer with
  | absent => simp [State.Follows, hcons] at hf
  | connected status lastEventId => simp [step, consume, hcons] at hsettled
  | replaying status lastSent rows =>
    cases rows with
    | nil =>
      simp only [step, consume, hcons] at hsettled
      split at hsettled <;> cases hsettled
    | cons row rows => simp [step, consume, hcons] at hsettled
  | live lastSent =>
    refine (hreach (by simp [hcons, Consumer.hasQueried]) e he hs hk).resolve_right fun h => ?_
    rw [State.InReach, hcons] at h
    cases hq : s.broker.queue with
    | nil => simpa [State.Awaiting, State.queueSeqs, hq, hput] using h.2
    | cons item queue => simp [step, consume, hcons, RunBroker.takeNext, hq] at hsettled
  | ended error =>
    rw [hcons] at hraised
    obtain rfl : error = false := hraised
    refine (hreach (by simp [hcons, Consumer.hasQueried]) e he hs hk).resolve_right fun h => ?_
    simp [State.InReach, hcons] at h

/-- **What a reconnection is sent.** A run that is completed, failed or cancelled when the client
reconnects gives the `end` event only. Otherwise the consumer, left to go on, comes to an end or
waits, and when the run is done and no exception has ended the stream it was sent every storable
event behind the `Last-Event-ID`. -/
theorem reconnect_complete (S : Setup) (as bs : List Label) (s t : State) (lastEventId : Str)
    (k : ℤ) (hconn : exec (step S) init as = some s)
    (hk : parseEventSequence S.unicode lastEventId = some k)
    (hrun : exec (step S) (streamRun S s (some lastEventId)) bs = some t)
    (hend : Along (step S) EmitsNoEnd init (as ++ .streamRun (some lastEventId) :: bs))
    (hok : Along (step S) (Reconnected S k) (streamRun S s (some lastEventId)) bs) :
    if s.status.isTerminal then
      t.consumer = .ended false ∧ t.sent = (Sse.createEndEvent none).toList
    else
      (∃ j u, exec (step S) t (List.replicate j .consume) = some u ∧
        step S u .consume = none) ∧
      (t.producer.isDone = true → step S t .consume = none → t.consumer.raised = false →
        ∀ e ∈ t.emitted, S.storable e = true → k < e.1 → t.WasSent S e.1) := by
  obtain ⟨hbefore, hafter⟩ := along_append.mp hend
  obtain ⟨ho, ht⟩ : s.Ordered S ∧ s.Traced S :=
    exec_invariant (P := EmitsNoEnd) (I := fun s => s.Ordered S ∧ s.Traced S)
      (fun _ _ _ hs ha hstep => ⟨ordered_step hs.1 hstep, traced_step hs.2 ha hstep⟩)
      ⟨ordered_init, traced_init⟩ hbefore hconn
  have hstream : step S s (.streamRun (some lastEventId)) =
      some (streamRun S s (some lastEventId)) := rfl
  have hends : Along (step S) EmitsNoEnd (streamRun S s (some lastEventId)) bs :=
    (hafter s hconn).2 _ hstream
  split
  · rename_i hterm
    refine exec_invariant (P := Reconnected S k)
      (I := fun u => u.consumer = .ended false ∧ u.sent = (Sse.createEndEvent none).toList)
      (fun u a u' hu ha hstep => ?_) ?_ hok hrun
    · obtain ⟨hcons, hsent⟩ := ended_step hu.1 ha hstep
      exact ⟨hcons, hsent.trans hu.2⟩
    · rw [streamRun, if_pos hterm]
      exact ⟨rfl, rfl⟩
  · rename_i hactive
    refine ⟨consume_settles S t, fun hdone hsettled hraised => ?_⟩
    have hinv : t.Ordered S ∧ t.Traced S ∧ t.Covers S k := by
      refine exec_invariant (P := fun u a => EmitsNoEnd u a ∧ Reconnected S k u a)
        (I := fun u => u.Ordered S ∧ u.Traced S ∧ u.Covers S k)
        (fun u a u' hu ha hstep => ⟨ordered_step hu.1 hstep, traced_step hu.2.1 ha.1 hstep,
          covers_step hu.1 hu.2.1 hu.2.2 ha.2 hstep⟩) ?_ (hends.and hok) hrun
      exact ⟨ordered_step ho hstream,
        traced_step (a := .streamRun (some lastEventId)) ht trivial hstream,
        covers_streamRun ht hk (by simpa using hactive)⟩
    exact sent_of_settled hinv.2.2 hdone hsettled hraised

instance (S : Setup) (k : ℤ) (s : State) : Decidable (Recoverable S k s) :=
  match h : s.consumer with
  | .connected status _ =>
    decidable_of_iff (∀ e ∈ s.emitted, S.storable e = true → k < e.1 →
      (e.1 : ℤ) ∈ s.table.map Row.seq ∨ (status.isOver = false ∧ s.Awaiting S e.1))
      (by simp [Recoverable, h])
  | .absent | .replaying _ _ _ | .live _ | .ended _ => isTrue (by simp [Recoverable, h])

instance (S : Setup) (k : ℤ) (s : State) : (a : Label) → Decidable (Reconnected S k s a)
  | .consume => inferInstanceAs (Decidable (Recoverable S k s))
  | .put | .signal => inferInstanceAs (Decidable (_ ∨ _))
  | .streamRun _ | .attach _ _ | .disconnect => isFalse id
  | .start | .emit _ | .store | .commit _ | .finish _ | .fail | .recordFailure _ | .cleanup
  | .expire _ => isTrue trivial

instance (s : State) : (a : Label) → Decidable (EmitsNoEnd s a)
  | .emit rawEvent => inferInstanceAs (Decidable (RunBroker.isEnd rawEvent = false))
  | .put | .signal | .streamRun _ | .attach _ _ | .disconnect | .start | .store | .commit _
  | .finish _ | .fail | .recordFailure _ | .cleanup | .expire _ | .consume => isTrue trivial

/-- A client reads the first event and disconnects. -/
def exampleDisconnect : List Label :=
  [.start, .attach .streaming none, .consume, .consume] ++ exampleEvent ++
    [.consume, .disconnect] ++ exampleEvent

/-- It has reconnected; the run ends while the second event is being replayed. -/
def exampleResume : List Label :=
  [.consume, .consume, .finish false, .cleanup, .consume, .consume, .consume]

theorem reconnect_complete_resume :
    ∃ s t, exec (step exampleSetup) init exampleDisconnect = some s ∧
      exec (step exampleSetup) (streamRun exampleSetup s (some "r_event_1".toList)) exampleResume =
        some t ∧
      (∃ e ∈ t.emitted, exampleSetup.storable e = true ∧ 1 < e.1) ∧
      ∀ e ∈ t.emitted, exampleSetup.storable e = true → 1 < (e.1 : ℤ) →
        t.WasSent exampleSetup e.1 := by
  have hrun : (exec (step exampleSetup) init exampleDisconnect).any (fun s =>
      decide (Along (step exampleSetup) (Reconnected exampleSetup 1)
        (streamRun exampleSetup s (some "r_event_1".toList)) exampleResume) &&
      !s.status.isTerminal &&
      (exec (step exampleSetup) (streamRun exampleSetup s (some "r_event_1".toList))
        exampleResume).any fun t => t.producer.isDone && (step exampleSetup t .consume).isNone &&
          !t.consumer.raised && t.emitted.any fun e => exampleSetup.storable e && decide (1 < e.1))
      = true := by decide
  obtain ⟨s, hs, hrun⟩ := (Option.any_eq_true _ _).mp hrun
  simp only [Bool.and_eq_true, decide_eq_true_eq, Bool.not_eq_true', Option.any_eq_true,
    Option.isNone_iff_eq_none, List.any_eq_true] at hrun
  obtain ⟨⟨hok, hactive⟩, t, ht, ⟨⟨hdone, hsettled⟩, hraised⟩, hwanted⟩ := hrun
  have hsent := reconnect_complete exampleSetup exampleDisconnect exampleResume s t
    "r_event_1".toList 1 hs (by decide) ht (by decide) hok
  rw [if_neg (by simp [hactive])] at hsent
  exact ⟨s, t, hs, ht, hwanted, hsent.2 hdone hsettled hraised⟩

/-- A client that reconnects once the run has completed is not sent the events it missed. -/
theorem completed_not_replayed :
    ¬ ∀ (S : Setup) (as bs : List Label) (s t : State) (lastEventId : Str) (k : ℤ),
      exec (step S) init as = some s → parseEventSequence S.unicode lastEventId = some k →
      exec (step S) (streamRun S s (some lastEventId)) bs = some t →
      t.producer.isDone = true → step S t .consume = none → t.consumer.raised = false →
      ∀ e ∈ t.emitted, S.storable e = true → k < e.1 → t.WasSent S e.1 := by
  intro h
  have hrun : (exec (step exampleSetup) init
      ([.start] ++ exampleEvent ++ [.finish false, .cleanup])).any (fun s =>
        let t := streamRun exampleSetup s (some "r_event_0".toList)
        t.producer.isDone && (step exampleSetup t .consume).isNone && !t.consumer.raised &&
          t.emitted.any fun e => exampleSetup.storable e && decide (0 < e.1) &&
            !decide (t.WasSent exampleSetup e.1)) = true := by decide
  obtain ⟨s, hs, hrun⟩ := (Option.any_eq_true _ _).mp hrun
  simp only [Bool.and_eq_true, decide_eq_true_eq, Bool.not_eq_true', decide_eq_false_iff_not,
    Option.isNone_iff_eq_none, List.any_eq_true] at hrun
  obtain ⟨⟨⟨hdone, hsettled⟩, hraised⟩, e, he, ⟨hs', hk⟩, hnot⟩ := hrun
  exact hnot (h exampleSetup _ [] s _ "r_event_0".toList 0 hs (by decide) rfl hdone hsettled
    hraised e he hs' (by exact_mod_cast hk))

end RunStream

end OpenLangGraph

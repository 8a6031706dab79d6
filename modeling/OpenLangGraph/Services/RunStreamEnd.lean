import OpenLangGraph.Services.RunStreamReplay

/-!
# How a stream ends

The message that ends the stream of a run, and whether it tells the status that is recorded for
the run.

## Where end messages come from

`create_end_event` writes the status `completed` whatever the run's is. It is sent by `stream_run`
for a run that is already over, and by the converter for an event of the mode `end`. The executor
puts such an event only after a failure or a cancellation; when a run completes or is interrupted,
the broker is finished without one and the iteration of the consumer stops.

## The stream modes

No stream mode of LangGraph is called `end`. `EmitsNoEndMode` says so of a run.

## Main definitions

* `State.EndsTruthfully`
* `State.Closing` — end messages can only come from a run that was unsuccessful

## Main results

* `closing_step`
* `endsTruthfully_iff` — when a stream ends once and truthfully
-/

open PyString

namespace OpenLangGraph

namespace RunStream

open EventStore EventConverter StreamingService Transition

variable {S : Setup} {s s' : State} {a : Label}

/-! ### The end of a stream -/

/-- The stream ends with its only end message, and this tells the recorded status. -/
def State.EndsTruthfully (s : State) : Prop :=
  ∃ before m, s.sent = before ++ [m] ∧ m.event = "end" ∧
    m.data = some (Sse.endData s.status.value) ∧ ∀ m' ∈ before, m'.event ≠ "end"

/-- The converter does not make an end message of the event. -/
def NotEndMode (rawEvent : PyVal) : Prop := (parseRawEvent rawEvent).1.eqStr "end" = false

/-- The graph emits no event of the mode `end`. -/
def EmitsNoEndMode (_ : State) : Label → Prop
  | .emit rawEvent => NotEndMode rawEvent
  | _ => True

instance (s : State) : (a : Label) → Decidable (EmitsNoEndMode s a)
  | .emit rawEvent =>
    inferInstanceAs (Decidable ((parseRawEvent rawEvent).1.eqStr "end" = false))
  | .put | .signal | .streamRun _ | .attach _ _ | .disconnect | .start | .store | .commit _
  | .finish _ | .fail | .recordFailure _ | .cleanup | .expire _ | .consume => isTrue trivial

/-- The label starts a connection. -/
def Label.connects : Label → Bool
  | .streamRun _ | .attach _ _ => true
  | _ => false

/-- The connection is made through `stream_run`. -/
def Label.isStreamRun : Label → Bool
  | .streamRun _ => true
  | _ => false

/-! ### Where end messages come from -/

/-- The final status has been written. -/
def Producer.isSettled : Producer → Bool
  | .signalling _ _ | .finishing _ | .cleaning _ _ | .done _ => true
  | .starting | .running _ | .putting _ _ | .storing _ _ | .flushing _ _ | .failing _ => false

/-- The run has failed or was cancelled, and this is recorded. -/
def State.Unsuccessful (s : State) : Prop :=
  s.producer.isSettled = true ∧ (s.status = .failed ∨ s.status = .cancelled)

/-- An event that becomes an end message is only found in the queue, and only if the run was
unsuccessful. -/
structure State.Closing (s : State) : Prop where
  status : s.producer.isSettled = true ∨ s.status = .pending ∨ s.status = .running
  signalling : ∀ n cancelled, s.producer = .signalling n cancelled → s.Unsuccessful
  working : ∀ e, s.producer.working = some e → NotEndMode e.2
  queue : ∀ item ∈ s.broker.queue, NotEndMode item.2 ∨ s.Unsuccessful
  batch : ∀ event ∈ s.producer.inFlight ++ s.batch, event.event ≠ "end"
  table : ∀ row ∈ s.table, row.event ≠ "end"
  rows : ∀ row ∈ s.consumer.rows, row.event ≠ "end"

/-- The filter makes no event of the mode `end`. -/
theorem notEndMode_process {rawEvent processedEvent : PyVal} {only skip : Bool}
    (h : NotEndMode rawEvent)
    (hp : processInterruptUpdates rawEvent only = some (processedEvent, skip)) :
    NotEndMode processedEvent := by
  rw [processInterruptUpdates] at hp
  split at hp
  · split at hp
    · split at hp
      · cases hp
        exact h
      · obtain ⟨length, -, hp⟩ := Option.bind_eq_some_iff.mp hp
        split at hp
        · cases hp
          rfl
        · cases hp
          exact h
    · cases hp
      exact h
  · cases hp
    exact h

/-- The store and the converter read the same mode, if the store reads one at all. -/
theorem parseProcessedEvent_mode (processedEvent : PyVal) :
    (parseProcessedEvent processedEvent).2.1 = (parseRawEvent processedEvent).1 ∨
      (parseProcessedEvent processedEvent).2.1 = .none := by
  rw [parseProcessedEvent, parseRawEvent]
  cases processedEvent.asTuple with
  | none => exact .inl rfl
  | some items =>
    rcases items with _ | ⟨mode, _ | ⟨chunk, _ | ⟨payload, _ | ⟨item, rest⟩⟩⟩⟩
    · exact .inr rfl
    · exact .inr rfl
    · exact .inl rfl
    · exact .inl rfl
    · exact .inr rfl

theorem event_of_storageEvent {eventId : Str} {rawEvent : PyVal} {only force : Bool}
    {event : SSEEvent} (hmode : NotEndMode rawEvent)
    (h : storageEvent eventId rawEvent only = some (some (event, force))) :
    event.event ≠ "end" := by
  obtain ⟨⟨processedEvent, skip⟩, hp, h⟩ := Option.map_eq_some_iff.mp h
  have hnot : (parseProcessedEvent processedEvent).2.1.eqStr "end" = false := by
    rcases parseProcessedEvent_mode processedEvent with hparse | hparse
    · rw [hparse]
      exact notEndMode_process hmode hp
    · rw [hparse]
      rfl
  cases skip with
  | true => cases h
  | false =>
    have h : recordOf eventId processedEvent = some (event, force) := h
    rw [recordOf] at h
    dsimp only at h
    rw [hnot] at h
    split at h
    · cases h
      exact (by decide : ("messages" : String) ≠ "end")
    · split at h
      · cases h
        exact (by decide : ("values" : String) ≠ "end")
      · cases h

/-- A step keeps `Closing` if what it adds cannot become an end message, or the run was
unsuccessful. -/
theorem closing_of_frame (hs : s.Closing) (hstays : s.Unsuccessful → s'.Unsuccessful)
    (hstatus : s'.producer.isSettled = true ∨ s'.status = .pending ∨ s'.status = .running)
    (hsignalling : ∀ n cancelled, s'.producer = .signalling n cancelled → s'.Unsuccessful)
    (hworking : ∀ e, s'.producer.working = some e →
      s.producer.working = some e ∨ NotEndMode e.2)
    (hqueue : ∀ item ∈ s'.broker.queue,
      item ∈ s.broker.queue ∨ NotEndMode item.2 ∨ s'.Unsuccessful)
    (hbatch : ∀ event ∈ s'.producer.inFlight ++ s'.batch,
      event ∈ s.producer.inFlight ++ s.batch ∨ event.event ≠ "end")
    (htable : ∀ row ∈ s'.table, row ∈ s.table ∨ row.event ≠ "end")
    (hrows : ∀ row ∈ s'.consumer.rows, row ∈ s.consumer.rows ∨ row ∈ s.table) : s'.Closing where
  status := hstatus
  signalling := hsignalling
  working e h := (hworking e h).elim (hs.working e) id
  queue item h := (hqueue item h).elim (fun h => (hs.queue item h).imp_right hstays) id
  batch event h := (hbatch event h).elim (hs.batch event) id
  table row h := (htable row h).elim (hs.table row) id
  rows row h := (hrows row h).elim (hs.rows row) (hs.table row)

/-- A settled run stays settled, and its status stays. -/
theorem settled_produces (hs : s.producer.isSettled = true) (h : Produces S s a s') :
    s'.producer.isSettled = true ∧ s'.status = s.status := by
  cases h with
  | signal hp | cleanup hp | cleanupFlushes hp | clean hp | cleanFails ok hp => exact ⟨rfl, rfl⟩
  | start hp | emit rawEvent hp | putRaises hp | putSkips hp | put hp | storeRaises hp
  | storeSkips hp | store hp | storeFlushes hp | commit hp | commitFails ok hp
  | finish interrupted hp | fail hp | recordFailure cancelled hp =>
    rw [hp] at hs
    cases hs

theorem unsuccessful_produces (h : Produces S s a s') (hs : s.Unsuccessful) : s'.Unsuccessful := by
  obtain ⟨hsettled, hstatus⟩ := settled_produces hs.1 h
  exact ⟨hsettled, hstatus ▸ hs.2⟩

/-- The rows of a batch in flight are not end rows. -/
theorem event_of_insert (hs : s.Closing) {batch : List SSEEvent} {table : List Row}
    (hp : s.producer.inFlight = batch)
    (hstore : storeEvents S.unicode S.jsonb s.table batch = some table) {row : Row}
    (hrow : row ∈ table) : row ∈ s.table ∨ row.event ≠ "end" := by
  refine (mem_storeEvents hstore hrow).imp_right fun ⟨event, hevent, hbuilt⟩ => ?_
  rw [(buildInsertRow_eq_some hbuilt).2.2.1]
  exact hs.batch event (List.mem_append_left _ (hp ▸ hevent))

theorem closing_produces (hs : s.Closing) (hmode : EmitsNoEndMode s a) (h : Produces S s a s') :
    s'.Closing := by
  have hstays := unsuccessful_produces h
  have hpending := hs.status
  cases h with
  | start hp | putRaises hp | putSkips hp | storeRaises hp | storeSkips hp | fail hp
  | finish interrupted hp | cleanFails ok hp | cleanup hp hb | cleanupFlushes hp
  | commitFails ok hp =>
    refine closing_of_frame hs hstays ?_ ?_ ?_ (fun _ h => .inl h) ?_ ?_ ?_ <;>
      simp_all [Producer.isSettled, Producer.working, Producer.inFlight]
  | recordFailure cancelled hp =>
    refine closing_of_frame hs hstays ?_ ?_ ?_ (fun _ h => .inl h) ?_ ?_ ?_ <;>
      cases cancelled <;>
      simp_all [Producer.isSettled, Producer.working, Producer.inFlight, State.Unsuccessful]
  | emit rawEvent hp =>
    have hmode : NotEndMode rawEvent := hmode
    refine closing_of_frame hs hstays ?_ ?_ ?_ (fun _ h => .inl h) ?_ ?_ ?_ <;>
      simp_all [Producer.isSettled, Producer.working, Producer.inFlight]
  | @put n rawEvent processedEvent broker hp he hb =>
    have hworking := hs.working (n, rawEvent) (by rw [hp]; rfl)
    have hqueue : ∀ item ∈ broker.queue, item ∈ s.broker.queue ∨ NotEndMode item.2 := by
      intro item hitem
      refine (RunBroker.mem_queue_of_put hb hitem).imp_right ?_
      rintro rfl
      exact notEndMode_process hworking he
    refine closing_of_frame hs hstays ?_ ?_ ?_
      (fun item h => (hqueue item h).imp_right .inl) ?_ ?_ ?_ <;>
      simp_all [Producer.isSettled, Producer.working, Producer.inFlight]
  | @store n rawEvent event force hp he | @storeFlushes n rawEvent event force hp he =>
    have hworking := hs.working (n, rawEvent) (by rw [hp]; rfl)
    have hevent := event_of_storageEvent hworking he
    refine closing_of_frame hs hstays ?_ ?_ ?_ (fun _ h => .inl h) ?_ ?_ ?_ <;>
      simp_all [Producer.isSettled, Producer.working, Producer.inFlight, or_imp]
  | commit hp hstore | clean hp hstore =>
    have hrow (row : Row) := @event_of_insert S s hs _ _ (by rw [hp]; rfl) hstore row
    refine closing_of_frame hs hstays ?_ ?_ ?_ (fun _ h => .inl h) ?_ (fun row => hrow row) ?_ <;>
      simp_all [Producer.isSettled, Producer.working, Producer.inFlight]
  | @signal n cancelled broker hp hb =>
    have hfailed := hstays (hs.signalling n cancelled hp)
    refine closing_of_frame hs hstays ?_ ?_ ?_ (fun _ _ => .inr (.inr hfailed)) ?_ ?_ ?_ <;>
      simp_all [Producer.isSettled, Producer.working, Producer.inFlight]

/-- A step that leaves the producer and its tables alone. -/
theorem closing_of_consumer (hs : s.Closing) (hproducer : s'.producer = s.producer)
    (hbatch : s'.batch = s.batch) (htable : ∀ row ∈ s'.table, row ∈ s.table)
    (hstatus : s'.status = s.status) (hqueue : ∀ item ∈ s'.broker.queue, item ∈ s.broker.queue)
    (hrows : ∀ row ∈ s'.consumer.rows, row ∈ s.consumer.rows ∨ row ∈ s.table) : s'.Closing := by
  have hstays : s.Unsuccessful → s'.Unsuccessful := by
    rw [State.Unsuccessful, State.Unsuccessful, hproducer, hstatus]
    exact id
  refine closing_of_frame hs hstays ?_ (fun n cancelled h => ?_) (fun e h => .inl ?_)
    (fun item h => .inl (hqueue item h)) (fun event h => .inl ?_) (fun row h => .inl (htable row h))
    hrows
  · rw [hproducer, hstatus]
    exact hs.status
  · exact hstays (hs.signalling n cancelled (hproducer ▸ h))
  · exact hproducer ▸ h
  · rwa [hproducer, hbatch] at h

/-- The rows still to be replayed were so before, or were just queried. -/
theorem rows_consumes (h : Consumes S s s') :
    ∀ row ∈ s'.consumer.rows, row ∈ s.consumer.rows ∨ row ∈ s.table := by
  cases h with
  | @query status lastEventId hc =>
    intro row hrow
    have hrow : row ∈ replayRows S s.table lastEventId := hrow
    refine .inr ?_
    cases lastEventId with
    | none => exact (List.perm_insertionSort _ _).subset hrow
    | some id => exact List.mem_of_mem_filter ((List.perm_insertionSort _ _).subset hrow)
  | @row status lastSent row rows hc =>
    rw [replayRow, hc]
    split
    · exact List.forall_mem_nil _
    · exact fun row' h => .inl (List.mem_cons_of_mem _ h)
  | stop | goLive | drained => exact List.forall_mem_nil _
  | @event lastSent eventId rawEvent queue hc hq =>
    rw [liveEvent]
    dsimp only
    split
    · split <;> exact List.forall_mem_nil _
    · split
      · exact List.forall_mem_nil _
      · split <;> exact List.forall_mem_nil _
      · split <;> exact List.forall_mem_nil _

/-- **End messages come from unsuccessful runs.** Every step of the system preserves `Closing`. -/
theorem closing_step (hs : s.Closing) (hmode : EmitsNoEndMode s a) (h : step S s a = some s') :
    s'.Closing := by
  rcases step_cases h with hprod | ⟨rows, -, rfl⟩ | ⟨lastEventId, -, rfl⟩ | ⟨_, _, -, rfl⟩ |
    ⟨-, rfl⟩ | ⟨-, hcons⟩
  · exact closing_produces hs hmode hprod
  · exact closing_of_consumer hs rfl rfl (fun _ => List.mem_of_mem_drop) rfl (fun _ => id)
      fun _ => .inl
  · obtain ⟨hp, hb, htab, -, hst, hbr⟩ := streamRun_frame S s lastEventId
    refine closing_of_consumer hs hp hb (fun _ => htab ▸ id) hst (fun _ => hbr ▸ id) ?_
    rw [streamRun]
    split <;> exact List.forall_mem_nil _
  · exact closing_of_consumer hs rfl rfl (fun _ => id) rfl (fun _ => id)
      (List.forall_mem_nil _)
  · exact closing_of_consumer hs rfl rfl (fun _ => id) rfl (fun _ => id)
      (List.forall_mem_nil _)
  · obtain ⟨hp, hb, htab, -, hst, -, hq⟩ := consumes_frame hcons
    exact closing_of_consumer hs hp hb (fun _ => htab ▸ id) hst (fun _ => (hq.subset ·))
      (rows_consumes hcons)

theorem closing_init : State.Closing init :=
  ⟨.inr (.inl rfl), nofun, nofun, nofun, nofun, nofun, nofun⟩

/-! ### What a connection is sent -/

/-- An end message that the connection was sent tells `completed`, for a run that was
unsuccessful. -/
def State.SentClosing (s : State) : Prop :=
  ∀ m ∈ s.sent, m.event = "end" → s.Unsuccessful ∧ m.data = some (Sse.endData "completed")

theorem errorMessages_not_end {m : SseMessage} (hm : m ∈ errorMessages S) : m.event ≠ "end" := by
  rw [errorMessages, Option.mem_toList] at hm
  rw [Sse.event_of_formatSseMessage hm]
  decide

/-- What a step of the consumer sends: end messages only for an unsuccessful run. -/
theorem sent_consumes (hs : s.Closing) (h : Consumes S s s') :
    ∃ messages, s'.sent = s.sent ++ messages ∧ ∀ m ∈ messages, m.event = "end" →
      s.Unsuccessful ∧ m.data = some (Sse.endData "completed") := by
  have herror : ∀ m ∈ errorMessages S, m.event = "end" →
      s.Unsuccessful ∧ m.data = some (Sse.endData "completed") :=
    fun m hm hend => absurd hend (errorMessages_not_end hm)
  cases h with
  | query | stop | goLive | drained => exact ⟨[], (List.append_nil _).symm, nofun⟩
  | @row status lastSent row rows hc =>
    have hrow : row.stored.event ≠ "end" := hs.rows row (by rw [hc]; exact List.mem_cons_self)
    have hnot := notEnd_convertStoredToSse S.runtime (some S.runId.text) hrow
    rw [replayRow]
    split
    · exact ⟨_, rfl, herror⟩
    · rename_i message hmessage
      refine ⟨message.toList, rfl, fun m hm hend => absurd hend (hnot m ?_)⟩
      rw [hmessage, Option.mem_toList.mp hm]
  | @event lastSent eventId rawEvent queue hc hq =>
    rw [liveEvent]
    dsimp only
    split
    · exact ⟨[], (List.append_nil _).symm, nofun⟩
    · split
      · exact ⟨_, rfl, herror⟩
      · exact ⟨[], (List.append_nil _).symm, nofun⟩
      · rename_i message hmessage
        refine ⟨[message], rfl, fun m hm hend => ?_⟩
        obtain rfl := List.mem_singleton.mp hm
        have hitem : (eventId, rawEvent) ∈ s.broker.queue := hq ▸ List.mem_cons_self
        rcases hs.queue _ hitem with hnot | hfailed
        · exact absurd hend (notEnd_convertRawToSse hnot m hmessage)
        · refine ⟨hfailed, ?_⟩
          cases hmode : (parseRawEvent rawEvent).1.eqStr "end" with
          | false => exact absurd hend (notEnd_convertRawToSse hmode m hmessage)
          | true =>
            rw [convertRawToSse_of_end hmode, Sse.createEndEvent_eq] at hmessage
            obtain rfl := Option.some.inj (Option.some.inj hmessage)
            rfl

/-- Of the steps after a connection was made. -/
theorem sentClosing_step (hs : s.Closing) (hsent : s.SentClosing) (hconnect : a.connects = false)
    (h : step S s a = some s') : s'.SentClosing := by
  rcases step_cases h with hprod | ⟨rows, -, rfl⟩ | ⟨lastEventId, rfl, -⟩ | ⟨_, _, rfl, -⟩ |
    ⟨-, rfl⟩ | ⟨-, hcons⟩
  · intro m hm hend
    rw [(produces_queue hprod).2.1] at hm
    exact (hsent m hm hend).imp_left (unsuccessful_produces hprod)
  · exact hsent
  · cases hconnect
  · cases hconnect
  · exact hsent
  · obtain ⟨messages, hmessages, hnew⟩ := sent_consumes hs hcons
    obtain ⟨hproducer, -, -, -, hstatus, -, -⟩ := consumes_frame hcons
    intro m hm hend
    rw [State.Unsuccessful, hproducer, hstatus]
    rw [hmessages] at hm
    exact (List.mem_append.mp hm).elim (fun hm => hsent m hm hend) fun hm => hnew m hm hend

/-- A stream begins without an end message. -/
theorem sentClosing_streamRunExecution (S : Setup) (s : State) (status : RunStatus)
    (lastEventId : Option Str) : (streamRunExecution S s status lastEventId).SentClosing := by
  intro m hm hend
  rw [streamRunExecution] at hm
  dsimp only at hm
  split at hm
  · rw [Option.mem_toList] at hm
    rw [Sse.event_of_formatSseMessage hm] at hend
    exact absurd hend (by decide)
  · cases hm

theorem not_endsTruthfully (hsent : s.SentClosing) : ¬ s.EndsTruthfully := by
  rintro ⟨before, m, hsplit, hend, hdata, -⟩
  obtain ⟨⟨-, hstatus⟩, hcompleted⟩ := hsent m (by simp [hsplit]) hend
  have hvalue : s.status.value = "completed" := by
    rw [hdata] at hcompleted
    simpa [Sse.endData] using hcompleted
  rw [RunStatus.value_eq_completed_iff] at hvalue
  rcases hstatus with hstatus | hstatus <;> rw [hvalue] at hstatus <;> cases hstatus

/-- A connection that was not made for a run that is over never ends truthfully. -/
theorem not_endsTruthfully_of_exec {t : State} {post : List Label} (ht : t.Closing)
    (hsent : t.SentClosing) (hmode : Along (step S) EmitsNoEndMode t post)
    (hpost : ∀ a ∈ post, a.connects = false) (h : exec (step S) t post = some s) :
    ¬ s.EndsTruthfully := by
  induction post generalizing t with
  | nil =>
    obtain rfl := Option.some.inj h
    exact not_endsTruthfully hsent
  | cons a post ih =>
    obtain ⟨t', ht', h⟩ := exec_cons_eq_some.mp h
    exact ih (closing_step ht hmode.1 ht')
      (sentClosing_step ht hsent (hpost a List.mem_cons_self) ht') (hmode.2 t' ht')
      (fun a ha => hpost a (List.mem_cons_of_mem _ ha)) h

/-! ### A run that is over -/

/-- The final status is recorded, and the connection is over. -/
def State.Over (s : State) : Prop :=
  s.producer.isSettled = true ∧ ((∃ error, s.consumer = .ended error) ∨ s.consumer = .absent)

/-- Nothing that is recorded or was sent changes any more. -/
theorem over_step (hs : s.Over) (hconnect : a.connects = false) (h : step S s a = some s') :
    s'.Over ∧ s'.status = s.status ∧ s'.sent = s.sent := by
  obtain ⟨hsettled, hconsumer⟩ := hs
  rcases step_cases h with hprod | ⟨rows, -, rfl⟩ | ⟨lastEventId, rfl, -⟩ | ⟨_, _, rfl, -⟩ |
    ⟨-, rfl⟩ | ⟨-, hcons⟩
  · obtain ⟨hsettled', hstatus⟩ := settled_produces hsettled hprod
    obtain ⟨hcons, hsent, -, -⟩ := produces_queue hprod
    exact ⟨⟨hsettled', hcons ▸ hconsumer⟩, hstatus, hsent⟩
  · exact ⟨⟨hsettled, hconsumer⟩, rfl, rfl⟩
  · cases hconnect
  · cases hconnect
  · exact ⟨⟨hsettled, .inr rfl⟩, rfl, rfl⟩
  · cases hcons <;> simp_all

theorem over_of_exec {t : State} {post : List Label} (ht : t.Over)
    (hpost : ∀ a ∈ post, a.connects = false) (h : exec (step S) t post = some s) :
    s.status = t.status ∧ s.sent = t.sent := by
  induction post generalizing t with
  | nil =>
    obtain rfl := Option.some.inj h
    exact ⟨rfl, rfl⟩
  | cons a post ih =>
    obtain ⟨t', ht', h⟩ := exec_cons_eq_some.mp h
    obtain ⟨hover, hstatus, hsent⟩ := over_step ht (hpost a List.mem_cons_self) ht'
    obtain ⟨hstatus', hsent'⟩ := ih hover (fun a ha => hpost a (List.mem_cons_of_mem _ ha)) h
    exact ⟨hstatus'.trans hstatus, hsent'.trans hsent⟩

/-- The one end message of a run that was over when the client connected. -/
theorem endsTruthfully_of_over {before : State} (hsent : s.sent = (Sse.createEndEvent none).toList)
    (hstatus : s.status = before.status) :
    s.EndsTruthfully ↔ before.status = .completed := by
  rw [← RunStatus.value_eq_completed_iff, ← hstatus]
  constructor
  · rintro ⟨init, m, hsplit, -, hdata, -⟩
    have hlast : some m = Sse.createEndEvent none := by
      have hlast := congrArg List.getLast? (hsent.symm.trans hsplit)
      rw [List.getLast?_concat] at hlast
      exact hlast.symm
    rw [Sse.createEndEvent_eq] at hlast
    obtain rfl := Option.some.inj hlast
    simpa [Sse.endData] using hdata.symm
  · intro hvalue
    refine ⟨[], _, hsent, rfl, ?_, nofun⟩
    rw [hvalue]
    rfl

/-- The client reads the one event of a run, and is still there when the run completes. -/
def completesLive : List Label :=
  [.consume, .consume] ++ exampleEvent ++ [.consume, .finish false, .cleanup, .consume]

end RunStream

end OpenLangGraph

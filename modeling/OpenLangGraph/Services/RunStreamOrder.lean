import OpenLangGraph.Services.RunStream

/-!
# The order of the messages of a connection

The sequence numbers a consumer is sent are strictly increasing as long as no event waits in the
broker that the replay of its connection has sent already. The replay does not move the cursor
`last_sent_sequence`, so the live phase sends such an event a second time.

## Main definitions

* `State.Ordered` — the queue, and the table with the batches, are sorted by sequence number
* `State.sentSequences` — the sequence numbers a consumer was sent
* `ReplayAhead` — no event still to be sent live is behind a row to be replayed

## Main results

* `ordered_step` — every step preserves `Ordered`
* `sentSequences_sorted` — the order, for runs whose replay queries meet `ReplayAhead`
-/

open PyString

namespace OpenLangGraph

namespace RunStream

open EventStore EventConverter StreamingService Transition

variable {S : Setup}

/-! ### Sorted sequence numbers -/

/-- Strictly increasing, from 1 up to `bound`. -/
def Within (bound : ℤ) (l : List ℤ) : Prop := l.Pairwise (· < ·) ∧ ∀ x ∈ l, 1 ≤ x ∧ x ≤ bound

theorem within_nil (bound : ℤ) : Within bound [] := ⟨.nil, by simp⟩

theorem Within.mono {bound bound' : ℤ} {l : List ℤ} (h : Within bound l) (hle : bound ≤ bound') :
    Within bound' l :=
  ⟨h.1, fun x hx => ⟨(h.2 x hx).1, (h.2 x hx).2.trans hle⟩⟩

theorem Within.sublist {bound : ℤ} {l l' : List ℤ} (h : Within bound l) (hs : l'.Sublist l) :
    Within bound l' :=
  ⟨h.1.sublist hs, fun x hx => h.2 x (hs.subset hx)⟩

/-- A new event comes last. -/
theorem Within.concat {bound n : ℤ} {l : List ℤ} (h : Within bound l) (hn : bound < n)
    (h1 : 1 ≤ n) : Within n (l ++ [n]) := by
  refine ⟨List.pairwise_append.mpr ⟨h.1, List.pairwise_singleton _ _, ?_⟩, ?_⟩
  · intro x hx y hy
    rw [List.mem_singleton.mp hy]
    exact lt_of_le_of_lt (h.2 x hx).2 hn
  · intro x hx
    rcases List.mem_append.mp hx with hx | hx
    · exact ⟨(h.2 x hx).1, ((h.2 x hx).2.trans_lt hn).le⟩
    · rw [List.mem_singleton.mp hx]
      exact ⟨h1, le_refl n⟩

/-! ### The producer keeps the order -/

/-- The largest sequence number that may have been put. -/
def Producer.putBound : Producer → ℤ
  | .starting => 0
  | .putting n _ => n - 1
  | .running n | .storing n _ | .flushing n _ | .failing n | .signalling n _ | .finishing n
  | .cleaning n _ | .done n => n

/-- The largest sequence number that may have been stored. -/
def Producer.storeBound : Producer → ℤ
  | .starting => 0
  | .putting n _ | .storing n _ => n - 1
  | .running n | .flushing n _ | .failing n | .signalling n _ | .finishing n | .cleaning n _
  | .done n => n

/-- The batch whose insert is awaited. -/
def Producer.inFlight : Producer → List SSEEvent
  | .flushing _ batch | .cleaning _ batch => batch
  | _ => []

/-- The producer only works on events with a positive number. -/
def Producer.Positive : Producer → Prop
  | .putting n _ | .storing n _ => 1 ≤ n
  | _ => True

/-- The sequence numbers of the queue. -/
def State.queueSeqs (S : Setup) (s : State) : List ℤ := s.broker.queue.map fun e => S.seq e.1

/-- The sequence numbers of what is stored or about to be, in the order of storing. -/
def State.storeSeqs (S : Setup) (s : State) : List ℤ :=
  s.table.map Row.seq ++ (s.producer.inFlight ++ s.batch).map fun e => S.seq e.id

/-- The queue, and the table with the batches, are sorted by sequence number. -/
structure State.Ordered (S : Setup) (s : State) : Prop where
  positive : s.producer.Positive
  queue : Within s.producer.putBound (s.queueSeqs S)
  store : Within s.producer.storeBound (s.storeSeqs S)
  row_seq : ∀ r ∈ s.table, r.seq = S.seq r.id

theorem storageEvent_id {eventId : Str} {rawEvent : PyVal} {only : Bool} {event : SSEEvent}
    {force : Bool} (h : storageEvent eventId rawEvent only = some (some (event, force))) :
    event.id = eventId := by
  obtain ⟨⟨processedEvent, shouldSkip⟩, -, h⟩ := Option.map_eq_some_iff.mp h
  unfold recordOf at h
  cases shouldSkip with
  | true => cases h
  | false =>
    simp only [Bool.false_eq_true, if_false] at h
    split at h
    · cases h; rfl
    · split at h
      · cases h; rfl
      · split at h
        · cases h; rfl
        · cases h

/-- A put leaves the queue sorted. -/
theorem within_put {bound : ℤ} {n : ℕ} {b b' : RunBroker} {payload : PyVal}
    (hq : Within bound (b.queue.map fun e => S.seq e.1)) (hn : bound < n) (h1 : 1 ≤ n)
    (h : b.put S.broker (S.eventId n) payload = some b') :
    Within n (b'.queue.map fun e => S.seq e.1) := by
  rcases RunBroker.put_eq_some h with ⟨-, rfl⟩ | ⟨-, queue, hsub, -, rfl⟩
  · exact hq.mono hn.le
  · simp only [List.map_append, List.map_cons, List.map_nil, Setup.seq_eventId]
    exact (hq.sublist (hsub.map _)).concat hn (by exact_mod_cast h1)

/-- A successful insert moves the batch in flight to the table. -/
theorem storeSeqs_insert {s : State} (ho : s.Ordered S) {table : List Row}
    (ht : storeEvents S.unicode S.jsonb s.table s.producer.inFlight = some table) :
    table.map Row.seq = s.table.map Row.seq ++ s.producer.inFlight.map (fun e => S.seq e.id) ∧
      ∀ r ∈ table, r.seq = S.seq r.id := by
  have hsorted : (s.table.map Row.seq ++ s.producer.inFlight.map fun e => S.seq e.id).Pairwise
      (· < ·) := by
    refine ho.store.1.sublist ?_
    rw [State.storeSeqs, List.map_append, ← List.append_assoc]
    exact List.sublist_append_left _ _
  obtain ⟨rows, hrows, rfl⟩ := storeEvents_eq_some ho.row_seq hsorted ht
  refine ⟨by rw [List.map_append, map_seq_of_built hrows]; rfl, fun r hr => ?_⟩
  rcases List.mem_append.mp hr with hr | hr
  · exact ho.row_seq r hr
  · obtain ⟨e, -, he⟩ := exists_of_mem_forall₂ hrows hr
    rw [(buildInsertRow_eq_some he).1, (buildInsertRow_eq_some he).2.1]
    rfl

theorem ordered_init : State.Ordered S init :=
  ⟨trivial, within_nil _, within_nil _, by simp [init]⟩

/-- The steps of the producer keep the order. -/
theorem ordered_produces {s s' : State} {a : Label} (ho : s.Ordered S) (h : Produces S s a s') :
    s'.Ordered S := by
  obtain ⟨hpos, hqueue, hstore, hrow⟩ := id ho
  cases h with
  | start hp | finish interrupted hp | fail hp | recordFailure cancelled hp =>
    simp only [State.storeSeqs, hp] at hqueue hstore
    exact ⟨trivial, hqueue, hstore, hrow⟩
  | @emit n rawEvent hp =>
    simp only [State.storeSeqs, hp] at hqueue hstore
    have hle : (n : ℤ) ≤ ((n + 1 : ℕ) : ℤ) - 1 := by push_cast; omega
    exact ⟨Nat.succ_pos n, hqueue.mono hle, hstore.mono hle, hrow⟩
  | @putRaises n rawEvent hp he =>
    simp only [State.storeSeqs, hp] at hqueue hstore
    exact ⟨trivial, hqueue.mono (Int.sub_le_self _ Int.one_nonneg),
      hstore.mono (Int.sub_le_self _ Int.one_nonneg), hrow⟩
  | @putSkips n rawEvent processedEvent hp he =>
    simp only [State.storeSeqs, hp] at hpos hqueue hstore
    exact ⟨hpos, hqueue.mono (Int.sub_le_self _ Int.one_nonneg), hstore, hrow⟩
  | @put n rawEvent processedEvent broker hp he hb =>
    simp only [State.storeSeqs, hp] at hpos hqueue hstore
    exact ⟨hpos, within_put hqueue (Int.sub_one_lt_of_le (le_refl _)) hpos hb, hstore, hrow⟩
  | storeRaises hp he | storeSkips hp he =>
    simp only [State.storeSeqs, hp] at hqueue hstore
    exact ⟨trivial, hqueue, hstore.mono (Int.sub_le_self _ Int.one_nonneg), hrow⟩
  | @store n rawEvent event force hp he | @storeFlushes n rawEvent event force hp he =>
    simp only [State.storeSeqs, hp] at hpos hqueue hstore
    have hnew := hstore.concat (n := n) (Int.sub_one_lt_of_le (le_refl _)) (by exact_mod_cast hpos)
    refine ⟨trivial, hqueue, ?_, hrow⟩
    simpa [State.storeSeqs, Producer.inFlight, Producer.storeBound, storageEvent_id he] using hnew
  | @commit n batch table hp ht | @clean n batch table hp ht =>
    have ht' : storeEvents S.unicode S.jsonb s.table s.producer.inFlight = some table := by
      rw [hp]
      exact ht
    obtain ⟨hseqs, hrow'⟩ := storeSeqs_insert ho ht'
    simp only [State.storeSeqs, hp] at hqueue hstore hseqs
    refine ⟨trivial, hqueue, ?_, hrow'⟩
    rw [State.storeSeqs]
    simpa [hseqs, Producer.inFlight, Producer.storeBound] using hstore
  | @commitFails n batch ok hp | @cleanFails n batch ok hp =>
    -- the batch in flight is lost
    simp only [State.storeSeqs, hp] at hqueue hstore
    refine ⟨trivial, hqueue, hstore.sublist ?_, hrow⟩
    exact ((List.sublist_append_right batch s.batch).map _).append_left _
  | @signal n cancelled broker hp hb =>
    simp only [State.storeSeqs, hp] at hqueue hstore
    have hlt : (n : ℤ) < ((n + 1 : ℕ) : ℤ) := by exact_mod_cast Nat.lt_succ_self n
    have hput := within_put hqueue hlt (Nat.succ_pos n) hb
    exact ⟨trivial, hput, hstore.mono hlt.le, hrow⟩
  | cleanup hp hb =>
    simp only [State.storeSeqs, hp] at hqueue hstore
    exact ⟨trivial, hqueue, hstore, hrow⟩
  | cleanupFlushes hp =>
    simp only [State.storeSeqs, hp] at hqueue hstore
    refine ⟨trivial, hqueue, ?_, hrow⟩
    simpa [State.storeSeqs, Producer.inFlight, Producer.storeBound] using hstore

/-- A step of the consumer touches neither the producer nor the table, and takes at most the
oldest event of the queue. -/
theorem consumes_frame {s s' : State} (h : Consumes S s s') :
    s'.producer = s.producer ∧ s'.batch = s.batch ∧ s'.table = s.table ∧
      s'.emitted = s.emitted ∧ s'.status = s.status ∧
        s'.broker.finished = s.broker.finished ∧ s'.broker.queue <:+ s.broker.queue := by
  cases h with
  | query | stop | goLive | drained => exact ⟨rfl, rfl, rfl, rfl, rfl, rfl, List.suffix_refl _⟩
  | row hc =>
    rw [replayRow]
    split <;> exact ⟨rfl, rfl, rfl, rfl, rfl, rfl, List.suffix_refl _⟩
  | event hc hq =>
    have hsuffix := hq ▸ List.suffix_cons _ _
    rw [liveEvent]
    dsimp only
    split
    · exact ⟨rfl, rfl, rfl, rfl, rfl, rfl, hsuffix⟩
    · split <;> exact ⟨rfl, rfl, rfl, rfl, rfl, rfl, hsuffix⟩

theorem streamRun_frame (S : Setup) (s : State) (lastEventId : Option Str) :
    (streamRun S s lastEventId).producer = s.producer ∧
      (streamRun S s lastEventId).batch = s.batch ∧
        (streamRun S s lastEventId).table = s.table ∧
          (streamRun S s lastEventId).emitted = s.emitted ∧
            (streamRun S s lastEventId).status = s.status ∧
              (streamRun S s lastEventId).broker = s.broker := by
  rw [streamRun, streamRunExecution]
  split <;> exact ⟨rfl, rfl, rfl, rfl, rfl, rfl⟩

theorem ordered_of_frame {s s' : State} (ho : s.Ordered S) (hp : s'.producer = s.producer)
    (hb : s'.batch = s.batch) (ht : s'.table = s.table) (hq : s'.broker.queue <:+ s.broker.queue) :
    s'.Ordered S := by
  refine ⟨hp ▸ ho.positive, ?_, ?_, ht ▸ ho.row_seq⟩
  · rw [hp]
    exact ho.queue.sublist (hq.sublist.map _)
  · rw [State.storeSeqs, hp, hb, ht]
    exact ho.store

/-- **Order is kept.** Every step of the system preserves `Ordered`. -/
theorem ordered_step {s s' : State} {a : Label} (ho : s.Ordered S) (h : step S s a = some s') :
    s'.Ordered S := by
  rcases step_cases h with hprod | ⟨rows, -, rfl⟩ | ⟨lastEventId, -, rfl⟩ | ⟨_, _, -, rfl⟩ |
    ⟨-, rfl⟩ | ⟨-, hcons⟩
  · exact ordered_produces ho hprod
  · refine ⟨ho.positive, ho.queue, ho.store.sublist ?_, fun r hr => ?_⟩
    · exact ((List.drop_sublist rows s.table).map _).append_right _
    · exact ho.row_seq r (List.mem_of_mem_drop hr)
  · obtain ⟨hp, hb, ht, -, -, hbr⟩ := streamRun_frame S s lastEventId
    exact ordered_of_frame ho hp hb ht (hbr ▸ List.suffix_refl _)
  · exact ordered_of_frame ho rfl rfl rfl (List.suffix_refl _)
  · exact ordered_of_frame ho rfl rfl rfl (List.suffix_refl _)
  · obtain ⟨hp, hb, ht, -, -, -, hq⟩ := consumes_frame hcons
    exact ordered_of_frame ho hp hb ht hq

/-! ### What is sent, and what is still to be sent -/

/-- The sequence numbers of the messages of the connection that have an id. -/
def State.sentSequences (S : Setup) (s : State) : List ℤ :=
  (s.sent.filterMap SseMessage.id).map S.seq

/-- A conversion that gives a message. -/
def hasMessage (conversion : Option (Option SseMessage)) : Bool := conversion.join.isSome

/-- The sequence numbers of the rows that will be replayed. -/
def rowSeqs (S : Setup) (rows : List Row) : List ℤ :=
  (rows.filter fun r => hasMessage (convertStoredToSse S.runtime r.stored (some S.runId.text))).map
    fun r => S.seq r.id

/-- The sequence numbers of the queued events that the live phase will send. -/
def liveSeqs (S : Setup) (lastSent : ℤ) (queue : List (Str × PyVal)) : List ℤ :=
  (queue.filter fun e => hasMessage (convertRawToSse e.1 e.2) && decide (lastSent < S.seq e.1)).map
    fun e => S.seq e.1

/-- The rows that the consumer has still to replay. -/
def Consumer.rows : Consumer → List Row
  | .replaying _ _ rows => rows
  | _ => []

/-- The cursor of a consumer that has made its replay query. -/
def Consumer.cursor : Consumer → Option ℤ
  | .replaying _ lastSent _ | .live lastSent => some lastSent
  | _ => none

/-- The sequence numbers that the connection will be sent if nothing more is put. -/
def State.pending (S : Setup) (s : State) : List ℤ :=
  rowSeqs S s.consumer.rows ++
    match s.consumer.cursor with
    | some lastSent => liveSeqs S lastSent s.broker.queue
    | none => []

/-- At a replay query: every event that waits in the queue for the live phase is ahead of every
row that the replay will send. -/
def ReplayAhead (S : Setup) (s : State) : Prop :=
  match s.consumer with
  | .connected _ lastEventId =>
    ∀ x ∈ rowSeqs S (replayRows S s.table lastEventId),
      ∀ y ∈ liveSeqs S (lastSentSequence S lastEventId) s.broker.queue, x < y
  | _ => True

instance (S : Setup) (s : State) : Decidable (ReplayAhead S s) :=
  match h : s.consumer with
  | .connected _ lastEventId =>
    decidable_of_iff (∀ x ∈ rowSeqs S (replayRows S s.table lastEventId),
      ∀ y ∈ liveSeqs S (lastSentSequence S lastEventId) s.broker.queue, x < y)
      (by simp [ReplayAhead, h])
  | .absent | .replaying _ _ _ | .live _ | .ended _ => isTrue (by simp [ReplayAhead, h])

/-- What the connection was sent and will be sent is in order. -/
structure State.InOrder (S : Setup) (s : State) : Prop where
  sorted : (s.sentSequences S ++ s.pending S).Pairwise (· < ·)
  bound : ∀ x ∈ s.sentSequences S ++ s.pending S, x ≤ s.producer.putBound
  connected : ∀ status lastEventId, s.consumer = .connected status lastEventId →
    ∀ x ∈ s.sentSequences S, x ≤ 0

theorem sequences_of_hasId {eventId : Str} {m : SseMessage}
    (h : HasId eventId (some (some m))) :
    (([m].filterMap SseMessage.id).map S.seq).Sublist [S.seq eventId] := by
  cases hm : m.id with
  | none => simp [List.filterMap, hm]
  | some id =>
    have hid := (h m rfl).symm.trans hm
    rw [Option.filter_eq_some_iff] at hid
    simp [List.filterMap, hm, Option.some.inj hid.1]

theorem sequences_errorMessages : (errorMessages S).filterMap SseMessage.id = [] := by
  rw [List.filterMap_eq_nil_iff]
  intro m hm
  rw [errorMessages, Option.mem_toList] at hm
  simpa using Sse.id_of_formatSseMessage hm

theorem putBound_nonneg {p : Producer} (h : p.Positive) : 0 ≤ p.putBound := by
  cases p with
  | putting n rawEvent =>
    have h : 1 ≤ n := h
    simp only [Producer.putBound]
    omega
  | _ => simp [Producer.putBound]

/-- From the queue `q` to `q'` at most one event is appended, numbered above `bound` and up to
`bound'`, and some may be dropped. -/
def PutsAfter (S : Setup) (bound bound' : ℤ) (q q' : List (Str × PyVal)) : Prop :=
  ∃ new : List (Str × PyVal), q'.Sublist (q ++ new) ∧
    (new.map fun e => S.seq e.1).Pairwise (· < ·) ∧
      ∀ e ∈ new, bound < S.seq e.1 ∧ S.seq e.1 ≤ bound'

theorem putsAfter_refl (bound bound' : ℤ) (q : List (Str × PyVal)) :
    PutsAfter S bound bound' q q :=
  ⟨[], by simp, by simp, by simp⟩

theorem putsAfter_put {b b' : RunBroker} {n : ℕ} {payload : PyVal} {bound : ℤ} (hn : bound < n)
    (hb : b.put S.broker (S.eventId n) payload = some b') :
    PutsAfter S bound n b.queue b'.queue := by
  rcases RunBroker.put_eq_some hb with ⟨-, rfl⟩ | ⟨-, queue, hsub, -, rfl⟩
  · exact putsAfter_refl _ _ _
  · exact ⟨[(S.eventId n, payload)], hsub.append_right _, by simp, by simpa using hn⟩

/-- What a step of the producer does to the queue, and that it leaves the consumer alone. -/
theorem produces_queue {s s' : State} {a : Label} (h : Produces S s a s') :
    s'.consumer = s.consumer ∧ s'.sent = s.sent ∧ s.producer.putBound ≤ s'.producer.putBound ∧
      PutsAfter S s.producer.putBound s'.producer.putBound s.broker.queue s'.broker.queue := by
  cases h with
  | put hp he hb =>
    simp only [hp, Producer.putBound]
    exact ⟨trivial, trivial, by omega, putsAfter_put (by omega) hb⟩
  | @signal n cancelled broker hp hb =>
    have hlt : (n : ℤ) < ((n + 1 : ℕ) : ℤ) := by exact_mod_cast Nat.lt_succ_self n
    have hput := putsAfter_put hlt hb
    simp only [hp, Producer.putBound]
    exact ⟨trivial, trivial, hlt.le, hput⟩
  | start hp | emit rawEvent hp | putRaises hp | putSkips hp | storeRaises hp | storeSkips hp
  | store hp | storeFlushes hp | commit hp | commitFails ok hp | clean hp | cleanFails ok hp
  | finish interrupted hp | fail hp | recordFailure cancelled hp | cleanup hp | cleanupFlushes hp =>
    refine ⟨rfl, rfl, ?_, putsAfter_refl _ _ _⟩
    simp only [hp, Producer.putBound]
    omega

/-! ### The order is kept -/

theorem liveSeqs_sublist (lastSent : ℤ) (queue : List (Str × PyVal)) :
    (liveSeqs S lastSent queue).Sublist (queue.map fun e => S.seq e.1) :=
  List.filter_sublist.map _

theorem liveSeqs_append (lastSent : ℤ) (q q' : List (Str × PyVal)) :
    liveSeqs S lastSent (q ++ q') = liveSeqs S lastSent q ++ liveSeqs S lastSent q' := by
  rw [liveSeqs, List.filter_append, List.map_append]
  rfl

theorem liveSeqs_mono_sublist (lastSent : ℤ) {q q' : List (Str × PyVal)} (h : q'.Sublist q) :
    (liveSeqs S lastSent q').Sublist (liveSeqs S lastSent q) :=
  (h.filter _).map _

/-- A larger cursor leaves less to send. -/
theorem liveSeqs_antitone {lastSent lastSent' : ℤ} (h : lastSent ≤ lastSent')
    (queue : List (Str × PyVal)) :
    (liveSeqs S lastSent' queue).Sublist (liveSeqs S lastSent queue) := by
  refine (List.monotone_filter_right queue fun e he => ?_).map _
  rw [Bool.and_eq_true, decide_eq_true_eq] at he ⊢
  exact ⟨he.1, h.trans_lt he.2⟩

/-- New events come after everything that was sent or is pending. -/
theorem sorted_of_putsAfter {A : List ℤ} {bound bound' lastSent : ℤ} {q q' : List (Str × PyVal)}
    (hs : (A ++ liveSeqs S lastSent q).Pairwise (· < ·))
    (hb : ∀ x ∈ A ++ liveSeqs S lastSent q, x ≤ bound) (hle : bound ≤ bound')
    (hq : PutsAfter S bound bound' q q') :
    (A ++ liveSeqs S lastSent q').Pairwise (· < ·) ∧
      ∀ x ∈ A ++ liveSeqs S lastSent q', x ≤ bound' := by
  obtain ⟨new, hsub, hnew, hrange⟩ := hq
  have hlive : (A ++ liveSeqs S lastSent q').Sublist
      ((A ++ liveSeqs S lastSent q) ++ new.map fun e => S.seq e.1) := by
    rw [List.append_assoc]
    refine List.Sublist.append_left ?_ A
    refine (liveSeqs_mono_sublist lastSent hsub).trans ?_
    rw [liveSeqs_append]
    exact (liveSeqs_sublist lastSent new).append_left _
  have hrange' : ∀ y ∈ new.map fun e => S.seq e.1, bound < y ∧ y ≤ bound' := by
    intro y hy
    obtain ⟨e, he, rfl⟩ := List.mem_map.mp hy
    exact hrange e he
  refine ⟨List.Pairwise.sublist hlive (List.pairwise_append.mpr ⟨hs, hnew, fun x hx y hy => ?_⟩),
    fun x hx => ?_⟩
  · exact (hb x hx).trans_lt (hrange' y hy).1
  · rcases List.mem_append.mp (hlive.subset hx) with hx | hx
    · exact (hb x hx).trans hle
    · exact (hrange' x hx).2

theorem inOrder_produces {s s' : State} {a : Label} (hi : s.InOrder S) (h : Produces S s a s') :
    s'.InOrder S := by
  obtain ⟨hcons, hsent, hle, hqueue⟩ := produces_queue h
  obtain ⟨hsorted, hbound, hconn⟩ := hi
  have hseqs : s'.sentSequences S = s.sentSequences S := by
    rw [State.sentSequences, hsent, State.sentSequences]
  cases hcur : s.consumer.cursor with
  | none =>
    have hpend : s'.pending S = s.pending S := by simp only [State.pending, hcons, hcur]
    rw [← hseqs, ← hpend] at hsorted hbound
    exact ⟨hsorted, fun x hx => (hbound x hx).trans hle, by rwa [hcons, hseqs]⟩
  | some lastSent =>
    simp only [State.pending, hcur, ← List.append_assoc] at hsorted hbound
    obtain ⟨hsorted', hbound'⟩ := sorted_of_putsAfter hsorted hbound hle hqueue
    refine ⟨?_, ?_, by rwa [hcons, hseqs]⟩
    · simpa only [State.pending, hcons, hcur, hseqs, ← List.append_assoc] using hsorted'
    · simpa only [State.pending, hcons, hcur, hseqs, ← List.append_assoc] using hbound'

/-- The rows of a replay query are those of the table behind `last_event_id`, in the same order. -/
theorem replayRows_sublist {s : State} (ho : s.Ordered S) (lastEventId : Option Str) :
    (replayRows S s.table lastEventId).Sublist s.table := by
  have hsorted : s.table.Pairwise fun a b => a.seq ≤ b.seq := by
    have h := ho.store.1.sublist (List.sublist_append_left _ _)
    rw [List.pairwise_map] at h
    exact h.imp le_of_lt
  cases lastEventId with
  | none => rw [replayRows, streamAllEvents, orderBySeq, hsorted.insertionSort_eq]
  | some lastEventId =>
    have hfilter := hsorted.sublist
      (List.filter_sublist (p := fun row : Row =>
        decide ((parseEventSequence S.unicode lastEventId).getD (-1) < row.seq)))
    rw [replayRows, streamEventsSince, orderBySeq, hfilter.insertionSort_eq]
    exact List.filter_sublist

theorem rowSeqs_within {s : State} (ho : s.Ordered S) (lastEventId : Option Str) :
    Within s.producer.putBound (rowSeqs S (replayRows S s.table lastEventId)) := by
  have hle : s.producer.storeBound ≤ s.producer.putBound := by
    cases hp : s.producer <;> simp only [Producer.storeBound, Producer.putBound] <;> omega
  have hmap : s.table.map (fun r => S.seq r.id) = s.table.map Row.seq :=
    List.map_congr_left fun r hr => (ho.row_seq r hr).symm
  refine (ho.store.sublist ?_).mono hle
  rw [State.storeSeqs, ← hmap]
  exact ((List.filter_sublist.trans (replayRows_sublist ho lastEventId)).map _).trans
    (List.sublist_append_left _ _)

theorem inOrder_of_sublist {s s' : State} (hi : s.InOrder S) (hp : s'.producer = s.producer)
    (hsub : (s'.sentSequences S ++ s'.pending S).Sublist (s.sentSequences S ++ s.pending S))
    (hc : ∀ status lastEventId, s'.consumer ≠ .connected status lastEventId) : s'.InOrder S :=
  ⟨hi.sorted.sublist hsub, fun x hx => hp ▸ hi.bound x (hsub.subset hx),
    fun status lastEventId h => absurd h (hc status lastEventId)⟩

/-- The replay query: this is where the events in the queue have to be ahead of the rows. -/
theorem inOrder_query {s : State} (ho : s.Ordered S) (hi : s.InOrder S) {status : RunStatus}
    {lastEventId : Option Str} (hc : s.consumer = .connected status lastEventId)
    (hahead : ReplayAhead S s) :
    State.InOrder S { s with consumer := .replaying status (lastSentSequence S lastEventId)
                                           (replayRows S s.table lastEventId) } := by
  have hpend : s.pending S = [] := by
    simp [State.pending, hc, Consumer.rows, Consumer.cursor, rowSeqs]
  have hsent : (s.sentSequences S).Pairwise (· < ·) := by
    have := hi.sorted
    rwa [hpend, List.append_nil] at this
  have hrows := rowSeqs_within ho lastEventId
  have hlive := ho.queue.sublist (liveSeqs_sublist (lastSentSequence S lastEventId) s.broker.queue)
  simp only [ReplayAhead, hc] at hahead
  have hnew : Within s.producer.putBound (rowSeqs S (replayRows S s.table lastEventId) ++
      liveSeqs S (lastSentSequence S lastEventId) s.broker.queue) := by
    refine ⟨List.pairwise_append.mpr ⟨hrows.1, hlive.1, hahead⟩, fun x hx => ?_⟩
    exact (List.mem_append.mp hx).elim (hrows.2 x) (hlive.2 x)
  refine ⟨List.pairwise_append.mpr ⟨hsent, hnew.1, fun x hx y hy => ?_⟩, fun x hx => ?_,
    fun _ _ h => by cases h⟩
  · have hx0 := hi.connected status lastEventId hc x hx
    have hy1 := (hnew.2 y hy).1
    omega
  · rcases List.mem_append.mp hx with hx | hx
    · exact hi.bound x (List.mem_append_left _ hx)
    · exact (hnew.2 x hx).2

theorem sentSequences_append (s : State) (messages : List SseMessage) (consumer : Consumer) :
    State.sentSequences S { s with consumer, sent := s.sent ++ messages } =
      s.sentSequences S ++ (messages.filterMap SseMessage.id).map S.seq := by
  simp [State.sentSequences]

/-- One turn of the replay sends what was pending. -/
theorem replayRow_sublist {s : State} {status : RunStatus} {lastSent : ℤ} {row : Row}
    {rows : List Row} (hc : s.consumer = .replaying status lastSent (row :: rows)) :
    ((replayRow S s status lastSent row rows).sentSequences S ++
      (replayRow S s status lastSent row rows).pending S).Sublist
        (s.sentSequences S ++ s.pending S) := by
  have hpend : s.pending S = rowSeqs S (row :: rows) ++ liveSeqs S lastSent s.broker.queue := by
    simp [State.pending, hc, Consumer.rows, Consumer.cursor]
  rw [replayRow]
  split
  · simp [sentSequences_append, sequences_errorMessages, State.pending, Consumer.rows,
      Consumer.cursor, rowSeqs]
  · rename_i message hmsg
    rw [sentSequences_append, hpend]
    cases message with
    | none =>
      have hskip : rowSeqs S (row :: rows) = rowSeqs S rows := by
        simp [rowSeqs, hmsg, hasMessage]
      simp [hskip, State.pending, Consumer.rows, Consumer.cursor]
    | some m =>
      have hrow : rowSeqs S (row :: rows) = S.seq row.id :: rowSeqs S rows := by
        simp [rowSeqs, hmsg, hasMessage]
      have hid : HasId row.id (some (some m)) :=
        hmsg ▸ hasId_convertStoredToSse S.runtime row.stored (some S.runId.text)
      rw [hrow, List.append_assoc]
      refine List.Sublist.append_left ?_ _
      exact (sequences_of_hasId hid).append_right _

/-- One turn of the live phase sends what was pending. -/
theorem liveEvent_sublist {s : State} {lastSent : ℤ} {eventId : Str} {rawEvent : PyVal}
    {queue : List (Str × PyVal)} (hc : s.consumer = .live lastSent)
    (hq : s.broker.queue = (eventId, rawEvent) :: queue) :
    let s' := liveEvent S { s with broker := { s.broker with queue } } lastSent eventId rawEvent
    (s'.sentSequences S ++ s'.pending S).Sublist (s.sentSequences S ++ s.pending S) := by
  have hpend : s.pending S = liveSeqs S lastSent ((eventId, rawEvent) :: queue) := by
    simp [State.pending, hc, hq, Consumer.rows, Consumer.cursor, rowSeqs]
  have hnext (cursor : ℤ) (sent : List SseMessage) :
      (State.pending S { s with
        broker := { s.broker with queue }, sent
        consumer := if RunBroker.isEnd rawEvent then .ended false else .live cursor }).Sublist
          (liveSeqs S cursor queue) := by
    cases RunBroker.isEnd rawEvent <;> simp [State.pending, Consumer.rows, Consumer.cursor, rowSeqs]
  have htail : (liveSeqs S lastSent queue).Sublist (liveSeqs S lastSent ((eventId, rawEvent) ::
      queue)) := liveSeqs_mono_sublist lastSent (List.sublist_cons_self _ _)
  rw [hpend]
  rw [liveEvent]
  dsimp only
  split
  · exact ((hnext _ _).trans htail).append_left _
  · rename_i hlt
    split
    · simp [State.sentSequences, sequences_errorMessages, State.pending, Consumer.rows,
        Consumer.cursor, rowSeqs]
    · exact ((hnext _ _).trans htail).append_left _
    · rename_i m hmsg
      have hid : HasId eventId (some (some m)) := hmsg ▸ hasId_convertRawToSse eventId rawEvent
      have hhead : liveSeqs S lastSent ((eventId, rawEvent) :: queue) =
          S.seq eventId :: liveSeqs S lastSent queue := by
        simp [liveSeqs, hmsg, hasMessage, not_le.mp hlt]
      have hrest := (hnext (S.seq eventId) (s.sent ++ [m])).trans
        (liveSeqs_antitone (not_le.mp hlt).le queue)
      rw [hhead]
      simp only [State.sentSequences, List.filterMap_append, List.map_append, List.append_assoc]
      exact ((sequences_of_hasId hid).append hrest).append_left _

theorem inOrder_consumes {s s' : State} (ho : s.Ordered S) (hi : s.InOrder S)
    (hahead : ReplayAhead S s) (h : Consumes S s s') : s'.InOrder S := by
  have hframe := (consumes_frame h).1
  cases h with
  | query hc => exact inOrder_query ho hi hc hahead
  | @row status lastSent row rows hc =>
    refine inOrder_of_sublist hi hframe (replayRow_sublist hc) fun _ _ h => ?_
    rw [replayRow] at h
    split at h <;> cases h
  | stop hc | drained hc =>
    refine inOrder_of_sublist hi rfl ?_ fun _ _ h => by cases h
    exact List.Sublist.append_left
      (by simp [State.pending, Consumer.rows, Consumer.cursor, rowSeqs]) _
  | goLive hc =>
    refine inOrder_of_sublist hi rfl ?_ fun _ _ h => by cases h
    simp [State.pending, State.sentSequences, hc, Consumer.rows, Consumer.cursor]
  | @event lastSent eventId rawEvent queue hc hq =>
    refine inOrder_of_sublist hi hframe (liveEvent_sublist hc hq) fun _ _ h => ?_
    rw [liveEvent] at h
    dsimp only at h
    repeat' split at h
    all_goals cases h

/-- A new connection starts with the metadata event, numbered 0, or with nothing. -/
theorem inOrder_streamRunExecution {s : State} (ho : s.Ordered S) (status : RunStatus)
    (lastEventId : Option Str) : (streamRunExecution S s status lastEventId).InOrder S := by
  have hpend : (streamRunExecution S s status lastEventId).pending S = [] := by
    simp [streamRunExecution, State.pending, Consumer.rows, Consumer.cursor, rowSeqs]
  have hsent : ((streamRunExecution S s status lastEventId).sentSequences S).Sublist [0] := by
    simp only [streamRunExecution, State.sentSequences]
    split
    · cases hm : Sse.createMetadataEvent S.runId.text (some (S.eventId 0)) with
      | none => simp
      | some m =>
        have hid : HasId (S.eventId 0) (some (some m)) := fun m' h => by
          obtain rfl := Option.some.inj (Option.some.inj h)
          exact Sse.id_of_formatSseMessage hm
        simpa using sequences_of_hasId (S := S) hid
    · simp
  refine ⟨?_, fun x hx => ?_, fun _ _ _ x hx => ?_⟩
  · rw [hpend, List.append_nil]
    exact (List.pairwise_singleton _ _).sublist hsent
  · rw [hpend, List.append_nil] at hx
    rw [List.mem_singleton.mp (hsent.subset hx)]
    exact putBound_nonneg ho.positive
  · exact (List.mem_singleton.mp (hsent.subset hx)).le

theorem inOrder_streamRun {s : State} (ho : s.Ordered S) (lastEventId : Option Str) :
    (streamRun S s lastEventId).InOrder S := by
  rw [streamRun]
  split
  · refine ⟨?_, ?_, fun _ _ h => by cases h⟩ <;>
      simp [State.sentSequences, State.pending, Consumer.rows, Consumer.cursor, rowSeqs,
        Sse.createEndEvent, Sse.formatSseMessage, GeneralSerializer.dumps,
        GeneralSerializer.encode, GeneralSerializer.encodeEntries, PyVal.jsonKey]
  · exact inOrder_streamRunExecution ho s.status lastEventId

/-- The condition on the steps of a run: at every replay query the queue is ahead of the rows. -/
def AheadAtQueries (S : Setup) (s : State) : Label → Prop
  | .consume => ReplayAhead S s
  | _ => True

instance (S : Setup) (s : State) : (a : Label) → Decidable (AheadAtQueries S s a)
  | .consume => inferInstanceAs (Decidable (ReplayAhead S s))
  | .start | .emit _ | .put | .store | .commit _ | .finish _ | .fail | .recordFailure _ | .signal
  | .cleanup | .expire _ | .streamRun _ | .attach _ _ | .disconnect => isTrue trivial

theorem inOrder_step {s s' : State} {a : Label} (ho : s.Ordered S) (hi : s.InOrder S)
    (hahead : AheadAtQueries S s a) (h : step S s a = some s') : s'.InOrder S := by
  rcases step_cases h with hprod | ⟨rows, -, rfl⟩ | ⟨lastEventId, -, rfl⟩ |
    ⟨status, lastEventId, -, rfl⟩ | ⟨-, rfl⟩ | ⟨rfl, hcons⟩
  · exact inOrder_produces hi hprod
  · exact ⟨hi.sorted, hi.bound, hi.connected⟩
  · exact inOrder_streamRun ho lastEventId
  · exact inOrder_streamRunExecution ho status lastEventId
  · refine inOrder_of_sublist hi rfl ?_ fun _ _ h => by cases h
    exact List.Sublist.append_left
      (by simp [State.pending, Consumer.rows, Consumer.cursor, rowSeqs]) _
  · exact inOrder_consumes ho hi hahead hcons

theorem inOrder_init : State.InOrder S init :=
  ⟨.nil,
    by simp [State.sentSequences, State.pending, init, Consumer.rows, Consumer.cursor, rowSeqs],
    fun _ _ h => by cases h⟩

/-- **No event is sent twice or out of order** in a run whose replay queries find the queue ahead
of the rows they return: the sequence numbers of the messages of every connection are strictly
increasing. -/
theorem sentSequences_sorted (S : Setup) (as : List Label) (t : State)
    (h : exec (step S) init as = some t) (hahead : Along (step S) (AheadAtQueries S) init as) :
    (t.sentSequences S).Pairwise (· < ·) := by
  have hinv : t.Ordered S ∧ t.InOrder S :=
    exec_invariant (P := AheadAtQueries S) (I := fun s => s.Ordered S ∧ s.InOrder S)
      (fun _ _ _ hs ha hstep => ⟨ordered_step hs.1 hstep, inOrder_step hs.1 hs.2 ha hstep⟩)
      ⟨ordered_init, inOrder_init⟩ hahead h
  exact (List.pairwise_append.mp hinv.2.sorted).1

/-- A setup with ASCII tables, a queue of two and batches of one. -/
def exampleSetup : Setup where
  unicode := .ascii
  jsonb := ⟨fun _ => true⟩
  runtime := ⟨"", fun _ => "", ""⟩
  runId := ⟨"r".toList, by decide⟩
  broker := ⟨2, .block, by decide⟩
  batchSize := 1
  batchSize_pos := by decide
  onlyInterruptUpdates := false

/-- The steps of the producer for one values event. -/
def exampleEvent : List Label :=
  [.emit (.tuple [.str "values", .int 1]), .put, .store, .commit true]

/-- A client reads the first event, reconnects behind it and reads the second. -/
def exampleReconnect : List Label :=
  [.start, .attach .streaming none, .consume, .consume] ++ exampleEvent ++
    [.consume, .disconnect, .streamRun (some "r_event_1".toList), .consume, .consume] ++
      exampleEvent ++ [.consume]

theorem sentSequences_sorted_reconnect :
    ∃ t, exec (step exampleSetup) init exampleReconnect = some t ∧
      (t.sentSequences exampleSetup).Pairwise (· < ·) := by
  obtain ⟨t, ht⟩ : ∃ t, exec (step exampleSetup) init exampleReconnect = some t :=
    Option.isSome_iff_exists.mp (by decide)
  exact ⟨t, ht, sentSequences_sorted exampleSetup _ t ht (by decide)⟩

/-- A client that connects once an event is stored is sent it twice: by the replay, and from the
queue. -/
theorem sent_twice :
    ¬ ∀ (S : Setup) (as : List Label) (t : State), exec (step S) init as = some t →
      (t.sentSequences S).Pairwise (· < ·) := by
  intro h
  have hrun : (exec (step exampleSetup) init
      ([.start] ++ exampleEvent ++
        [.attach .streaming none, .consume, .consume, .consume, .consume])).map
        (State.sentSequences exampleSetup) = some [0, 1, 1] := by decide
  obtain ⟨t, ht, hsent⟩ := Option.map_eq_some_iff.mp hrun
  have hsorted := h exampleSetup _ t ht
  rw [hsent] at hsorted
  exact absurd hsorted (by decide)

end RunStream

end OpenLangGraph

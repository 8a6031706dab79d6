import OpenLangGraph.Services.StreamingService

/-!
# Live and replayed encodings

A client is sent an event either live or, after a reconnection, from the store. This file compares
the two messages. They agree on far less than one would expect: of the events with a message at
all, only `end` events and well-behaved `messages` events are replayed as they were sent.

* A stored `values` record is replayed with its wrapper `{"type": …, "chunk": …}` around the data,
  and a stored `updates` record as a `values` event besides.
* The other stream modes are not stored.
* `messages` events lose a null chunk or metadata, and a payload that is a tuple of another length
  than two loses its shape.

## Main definitions

* `Agrees` — the raw events on which the two paths agree

## Main results

* `liveMessage_eq_storedMessage_iff` — they are exactly those
-/

open PyString

namespace OpenLangGraph

namespace StreamingService

open GeneralSerializer Sse EventStore EventConverter

/-! ### The condition -/

/-- The record can be written: it encodes after a pass of the serializer, and JSONB takes it. -/
def Storable (jsonb : Jsonb) (record : PyVal) : Prop :=
  ∃ doc, dumps false (serialize record) = some doc ∧ jsonb.accepts doc = true

/-- The encoder with the serializer as its default and the encoder after a pass of the serializer
give the same data, which is not null. -/
def EncodesAlike (v : PyVal) : Prop :=
  ∃ j, j ≠ .null ∧ dumps true v = some j ∧ dumps false (serialize v) = some j

/-- The payloads of messages events on which the two paths agree. The graph emits pairs of a chunk
and its metadata; an event that neither path can send agrees too. -/
def MessagesAgree (jsonb : Jsonb) (nodePath payload : PyVal) : Prop :=
  let Stored := Storable jsonb (messagesRecord nodePath payload)
  match payload.asTuple with
  | none | some [] => dumps true payload = none ∨ Stored ∧ EncodesAlike payload
  | some [_] => dumps true payload = none
  | some [messageChunk, metadata] =>
    dumps true payload = none ∨ Stored ∧ EncodesAlike messageChunk ∧ EncodesAlike metadata
  | some (messageChunk :: _) =>
    dumps true payload = none ∧ (Stored → dumps false (serialize messageChunk) = some .null)

/-- The stream modes that are sent as they are and never stored; `debug` is one more. -/
def liveOnlyModes : List String :=
  ["state", "logs", "tasks", "subgraphs", "events", "checkpoints", "custom"]

/-- A processed event whose two messages agree. -/
def ProcessedAgrees (jsonb : Jsonb) (processedEvent : PyVal) : Prop :=
  let (streamMode, payload) := parseRawEvent processedEvent
  if streamMode.eqStr "messages" then
    MessagesAgree jsonb (parseProcessedEvent processedEvent).1 payload
  else if streamMode.eqStr "values" || streamMode.eqStr "updates" then dumps true payload = none
  else if streamMode.eqStr "end" then Storable jsonb (endRecord payload)
  else if streamMode.eqStr "debug" then (withCheckpoints payload).bind (dumps true) = none
  else if liveOnlyModes.any streamMode.eqStr then dumps true payload = none
  else True

/-- A raw event whose two messages agree. -/
def Agrees (jsonb : Jsonb) (rawEvent : PyVal) (onlyInterruptUpdates : Bool) : Prop :=
  match processInterruptUpdates rawEvent onlyInterruptUpdates with
  | none => True
  | some (_, true) => True
  | some (processedEvent, false) => ProcessedAgrees jsonb processedEvent

/-! ### Messages -/

theorem formatSseMessage_eq_none_iff {event : String} {data : PyVal} {id : Option Str} :
    formatSseMessage event data id = none ↔ dumps true data = none := by
  unfold formatSseMessage
  cases data <;> simp [dumps, encode]

theorem formatSseMessage_eq_some {event : String} {data : PyVal} {id : Option Str} {j : Json}
    (hdata : data ≠ .none) (h : dumps true data = some j) :
    formatSseMessage event data id = some ⟨event, some j, id.filter (· ≠ [])⟩ := by
  unfold formatSseMessage
  split
  · exact absurd rfl hdata
  · rw [h, Option.map_some]

/-- The message of a record: its row, read back and converted. -/
def recordMessage (U : UnicodeDb) (jsonb : Jsonb) (rt : Runtime) (runId : RunId)
    (event : SSEEvent) : Option SseMessage := do
  let row ← buildInsertRow U jsonb event
  (convertStoredToSse rt row.stored (some runId.text)).join

variable {U : UnicodeDb} {jsonb : Jsonb} {rt : Runtime} {runId : RunId} {eventId : Str}

theorem recordMessage_of_not_storable {eventType : String} {record : PyVal}
    (h : ¬ Storable jsonb record) :
    recordMessage U jsonb rt runId (buildSseEvent eventId eventType record) = none := by
  rw [recordMessage, buildInsertRow, buildSseEvent]
  cases hdoc : dumps false (serialize record) with
  | none => rfl
  | some doc =>
    have hrej : jsonb.accepts doc = false := by
      by_contra hacc
      exact h ⟨doc, hdoc, by simpa using hacc⟩
    simp [hrej]

theorem recordMessage_of_storable {eventType : String} {record : PyVal} {doc : Json}
    (hdoc : dumps false (serialize record) = some doc) (hacc : jsonb.accepts doc = true) :
    recordMessage U jsonb rt runId (buildSseEvent eventId eventType record) =
      (convertStoredToSse rt ⟨eventId, eventType, PyVal.ofJson doc⟩ (some runId.text)).join := by
  rw [recordMessage, buildInsertRow, buildSseEvent]
  simp [hdoc, hacc, Row.stored]

/-! ### Values -/

theorem dumps_valuesRecord (payload : PyVal) :
    dumps false (serialize (valuesRecord payload)) =
      (encode false true payload).map fun b =>
        .ofEntries [("type", .str "execution_values"), ("chunk", b)] := by
  rw [dumps_serialize, valuesRecord]
  cases h : encode false true payload <;>
    simp [encode, encodeEntries, PyVal.jsonKey, h]

/-- No value is its own record: a record leads one step further along the member `chunk`. -/
theorem record_ne_live {payload : PyVal} {a b : Json} (ha : encode true false payload = some a)
    (hb : encode false true payload = some b) :
    a ≠ .ofEntries [("type", .str "execution_values"), ("chunk", b)] := by
  rintro rfl
  obtain ⟨a', ha', hreads, -⟩ := encode_live_of_stored "chunk" hb
  obtain rfl := Option.some.inj (ha'.symm.trans ha)
  rw [Json.depthAt_ofEntries] at hreads
  simp [Json.depthAtEntries_insertEntry] at hreads

/-- The message of a values record carries the record, wrapper included. -/
theorem recordMessage_values {payload : PyVal} {m : SseMessage}
    (h : recordMessage U jsonb rt runId (buildSseEvent eventId "values" (valuesRecord payload)) =
      some m) :
    ∃ b, encode false true payload = some b ∧ m.event = "values" ∧
      m.data = some (.ofEntries [("type", .str "execution_values"), ("chunk", b)]) := by
  by_cases hst : Storable jsonb (valuesRecord payload)
  · obtain ⟨doc, hdoc, hacc⟩ := hst
    rw [recordMessage_of_storable hdoc hacc] at h
    have hcan : doc.Canonical := canonical_encode hdoc
    rw [dumps_valuesRecord] at hdoc
    obtain ⟨b, hb, rfl⟩ := Option.map_eq_some_iff.mp hdoc
    refine ⟨b, hb, ?_⟩
    have hdump := dumps_ofJson (d := true) hcan
    have hmsg : formatSseMessage "values" (PyVal.ofJson
        (.ofEntries [("type", .str "execution_values"), ("chunk", b)])) (some eventId) = some _ :=
      formatSseMessage_eq_some (by simp [Json.ofEntries, PyVal.ofJson]) hdump
    have hvalues : convertStoredToSse rt ⟨eventId, "values", PyVal.ofJson
        (.ofEntries [("type", .str "execution_values"), ("chunk", b)])⟩ (some runId.text) =
        (formatSseMessage "values" (PyVal.ofJson
          (.ofEntries [("type", .str "execution_values"), ("chunk", b)]))
          (some eventId)).map some :=
      rfl
    rw [hvalues, hmsg] at h
    obtain rfl := Option.some.inj h
    exact ⟨rfl, rfl⟩
  · rw [recordMessage_of_not_storable hst] at h
    cases h

/-! ### Messages events -/

theorem createMessagesEvent_eq_none_iff {payload : PyVal} {id : Option Str} :
    createMessagesEvent payload id = none ↔ dumps true payload = none := by
  rw [createMessagesEvent]
  split
  · rename_i hpair
    rw [formatSseMessage_eq_none_iff, dumps_of_asTuple hpair]
  · exact formatSseMessage_eq_none_iff

/-- The live message of a messages event has the data of its payload. -/
theorem createMessagesEvent_eq_some {payload : PyVal} {id : Option Str} {a : Json}
    (hne : payload ≠ .none) (ha : dumps true payload = some a) :
    createMessagesEvent payload id = some ⟨"messages", some a, id.filter (· ≠ [])⟩ := by
  rw [createMessagesEvent]
  split
  · rename_i hpair
    exact formatSseMessage_eq_some (by simp) (dumps_of_asTuple hpair ▸ ha)
  · exact formatSseMessage_eq_some hne ha

theorem dumps_messagesRecord {nodePath payload : PyVal} {doc : Json}
    (h : dumps false (serialize (messagesRecord nodePath payload)) = some doc) :
    ∃ c m n, dumps false (serialize (messageChunk payload)) = some c ∧
      dumps false (serialize (messageMetadata payload)) = some m ∧
      doc = .ofEntries [("type", .str "messages_stream"), ("message_chunk", c), ("metadata", m),
        ("node_path", n)] := by
  rw [dumps_serialize, messagesRecord] at h
  cases hc : encode false true (messageChunk payload) <;>
    cases hm : encode false true (messageMetadata payload) <;>
      cases hn : encode false true nodePath <;>
        simp [encode, encodeEntries, PyVal.jsonKey, hc, hm, hn] at h
  rw [dumps_serialize, dumps_serialize]
  exact ⟨_, _, _, hc, hm, h.symm⟩

/-- The data of a replayed messages event. -/
def replayedData : Json → Json → Option Json
  | .null, _ => none
  | chunk, .null => some chunk
  | chunk, metadata => some (.arr [chunk, metadata])

theorem replayedData_null (c : Json) (hc : c ≠ .null) : replayedData c .null = some c := by
  cases c <;> first | exact absurd rfl hc | rfl

theorem replayedData_pair {c m : Json} (hc : c ≠ .null) (hm : m ≠ .null) :
    replayedData c m = some (.arr [c, m]) := by
  cases c <;> first | exact absurd rfl hc | (cases m <;> first | exact absurd rfl hm | rfl)

/-- A stored messages event is replayed with the data of its chunk and metadata. -/
theorem recordMessage_messages {nodePath payload : PyVal} {doc c m n : Json}
    (hdoc : dumps false (serialize (messagesRecord nodePath payload)) = some doc)
    (hacc : jsonb.accepts doc = true)
    (hc : dumps false (serialize (messageChunk payload)) = some c)
    (hm : dumps false (serialize (messageMetadata payload)) = some m)
    (heq : doc = .ofEntries [("type", .str "messages_stream"), ("message_chunk", c),
      ("metadata", m), ("node_path", n)]) :
    recordMessage U jsonb rt runId (buildSseEvent eventId "messages" (messagesRecord nodePath
        payload)) =
      (replayedData c m).map fun data =>
        ⟨"messages", some data, (some eventId).filter (· ≠ [])⟩ := by
  rw [recordMessage_of_storable hdoc hacc]
  have hchunk : getOrNone (coerceDict (PyVal.ofJson doc)) "message_chunk" = PyVal.ofJson c := by
    simp [heq, Json.ofEntries, PyVal.ofJson, coerceDict, PyVal.asDict, getOrNone,
      PyVal.get_ofJsonEntries, Json.lookup_insertEntry]
  have hmeta : getOrNone (coerceDict (PyVal.ofJson doc)) "metadata" = PyVal.ofJson m := by
    simp [heq, Json.ofEntries, PyVal.ofJson, coerceDict, PyVal.asDict, getOrNone,
      PyVal.get_ofJsonEntries, Json.lookup_insertEntry]
  have hcd := dumps_ofJson (d := true) (canonical_encode hc)
  have hmd := dumps_ofJson (d := true) (canonical_encode hm)
  simp only [convertStoredToSse, if_true, hchunk, hmeta, storedMessagesEvent]
  split
  · -- no chunk
    rename_i hnull
    rw [PyVal.ofJson_eq_none_iff.mp hnull]
    rfl
  · -- a chunk without metadata
    rename_i hnull hne
    rw [PyVal.ofJson_eq_none_iff.mp hnull, createMessagesEvent, PyVal.asTuple_ofJson,
      formatSseMessage_eq_some hne hcd]
    rw [replayedData_null c fun h => hne (PyVal.ofJson_eq_none_iff.mpr h)]
    rfl
  · -- both
    rename_i hne hne'
    have hlist : dumps true (.list [PyVal.ofJson c, PyVal.ofJson m]) = some (.arr [c, m]) := by
      rw [dumps, encode, encodeItems, encodeItems, encodeItems,
        show encode true false _ = _ from hcd, show encode true false _ = _ from hmd]
      rfl
    rw [createMessagesEvent_eq_some (by simp) ((dumps_of_asTuple rfl).trans hlist),
      replayedData_pair (fun h => hne (PyVal.ofJson_eq_none_iff.mpr h)) fun h =>
        hne' (PyVal.ofJson_eq_none_iff.mpr h)]
    rfl

/-- What is stored for a messages event is replayed as data no deeper than the data of its chunk,
or as a list of two. -/
theorem headDepth_replayedData {chunk : PyVal} {a c m x : Json} (ha : dumps true chunk = some a)
    (hc : dumps false (serialize chunk) = some c) (h : replayedData c m = some x) :
    x.headDepth ≤ a.headDepth ∧ m = .null ∨ m ≠ .null ∧ x = .arr [c, m] := by
  rw [dumps_serialize] at hc
  obtain ⟨a', ha', -, hle⟩ := encode_live_of_stored "" hc
  obtain rfl := Option.some.inj (ha'.symm.trans ha)
  unfold replayedData at h
  split at h
  · cases h
  · exact .inl ⟨Option.some.inj h ▸ hle, rfl⟩
  · rename_i hm
    exact .inr ⟨hm, (Option.some.inj h).symm⟩

/-- A messages event is replayed exactly when its record can be written, and then as
`replayedData` says. -/
theorem recordMessage_messages_cases (U : UnicodeDb) (jsonb : Jsonb) (rt : Runtime) (runId : RunId)
    (eventId : Str) (nodePath payload : PyVal) :
    let replayed := recordMessage U jsonb rt runId
      (buildSseEvent eventId "messages" (messagesRecord nodePath payload))
    ¬ Storable jsonb (messagesRecord nodePath payload) ∧ replayed = none ∨
      Storable jsonb (messagesRecord nodePath payload) ∧
        ∃ c m, dumps false (serialize (messageChunk payload)) = some c ∧
          dumps false (serialize (messageMetadata payload)) = some m ∧
          replayed = (replayedData c m).map fun data =>
            ⟨"messages", some data, (some eventId).filter (· ≠ [])⟩ := by
  by_cases hst : Storable jsonb (messagesRecord nodePath payload)
  · obtain ⟨doc, hdoc, hacc⟩ := id hst
    obtain ⟨c, m, n, hc, hm, heq⟩ := dumps_messagesRecord hdoc
    exact .inr ⟨hst, c, m, hc, hm, recordMessage_messages hdoc hacc hc hm heq⟩
  · exact .inl ⟨hst, recordMessage_of_not_storable hst⟩

theorem dumps_of_storable_messages {nodePath payload : PyVal}
    (h : Storable jsonb (messagesRecord nodePath payload)) :
    ∃ a b, dumps true (messageChunk payload) = some a ∧
      dumps true (messageMetadata payload) = some b := by
  obtain ⟨doc, hdoc, -⟩ := h
  obtain ⟨c, m, n, hc, hm, -⟩ := dumps_messagesRecord hdoc
  obtain ⟨a, ha, -⟩ := encode_live_of_stored "" (dumps_serialize _ ▸ hc)
  obtain ⟨b, hb, -⟩ := encode_live_of_stored "" (dumps_serialize _ ▸ hm)
  exact ⟨a, b, ha, hb⟩

section Shapes

variable {nodePath payload : PyVal}

theorem dumps_serialize_none : dumps false (serialize .none) = some .null := rfl

/-- A payload that is its own chunk and has no metadata: anything but a tuple, or the empty one. -/
theorem messages_agree_whole (hchunk : messageChunk payload = payload)
    (hmeta : messageMetadata payload = .none) :
    createMessagesEvent payload (some eventId) = recordMessage U jsonb rt runId
        (buildSseEvent eventId "messages" (messagesRecord nodePath payload)) ↔
      dumps true payload = none ∨
        Storable jsonb (messagesRecord nodePath payload) ∧ EncodesAlike payload := by
  have hcases := recordMessage_messages_cases U jsonb rt runId eventId nodePath payload
  rw [hchunk, hmeta, dumps_serialize_none] at hcases
  constructor
  · intro heq
    cases ha : dumps true payload with
    | none => exact .inl rfl
    | some a =>
      have hlive : createMessagesEvent payload (some eventId) ≠ none := fun h => by
        rw [createMessagesEvent_eq_none_iff, ha] at h
        cases h
      rcases hcases with ⟨-, hrep⟩ | ⟨hst, c, m, hc, hm, hrep⟩
      · exact absurd (heq.trans hrep) hlive
      · cases hm
        have hcn : c ≠ .null := by
          rintro rfl
          exact hlive (heq.trans hrep)
        have hne : payload ≠ .none := by
          rintro rfl
          exact hcn (Option.some.inj hc).symm
        rw [hrep, createMessagesEvent_eq_some hne ha, replayedData_null c hcn] at heq
        obtain rfl : a = c := by simpa using heq
        exact .inr ⟨hst, a, hcn, ha, hc⟩
  · rintro (ha | ⟨hst, j, hjn, ha, hb⟩)
    · rw [createMessagesEvent_eq_none_iff.mpr ha]
      rcases hcases with ⟨-, hrep⟩ | ⟨hst, -⟩
      · exact hrep.symm
      · obtain ⟨a, -, ha', -⟩ := dumps_of_storable_messages hst
        rw [hchunk, ha] at ha'
        cases ha'
    · rcases hcases with ⟨hst', -⟩ | ⟨-, c, m, hc, hm, hrep⟩
      · exact absurd hst hst'
      · cases hm
        obtain rfl := Option.some.inj (hc.symm.trans hb)
        have hne : payload ≠ .none := by
          rintro rfl
          exact hjn (Option.some.inj hc).symm
        rw [hrep, createMessagesEvent_eq_some hne ha, replayedData_null c hjn]
        rfl

/-- The live data of a tuple starts with the data of its first item. -/
theorem dumps_tuple_eq_some {x : PyVal} {xs : List PyVal} {a : Json}
    (htuple : payload.asTuple = some (x :: xs)) (ha : dumps true payload = some a) :
    ∃ j js, dumps true x = some j ∧ encodeItems true false xs = some js ∧ a = .arr (j :: js) := by
  rw [dumps_of_asTuple htuple] at ha
  obtain ⟨l, hl, rfl⟩ := Option.map_eq_some_iff.mp ha
  obtain ⟨j, js, hj, hjs, rfl⟩ := encodeItems_cons_eq_some.mp hl
  exact ⟨j, js, hj, hjs, rfl⟩

theorem dumps_tuple_eq_none {x : PyVal} {xs : List PyVal}
    (htuple : payload.asTuple = some (x :: xs)) :
    dumps true payload = none ↔ dumps true x = none ∨ encodeItems true false xs = none := by
  rw [dumps_of_asTuple htuple]
  show Option.map Json.arr (encodeItems true false (x :: xs)) = none ↔
    encode true false x = none ∨ _
  cases hx : encode true false x <;> cases hxs : encodeItems true false xs <;>
    simp [encodeItems, hx, hxs]

/-- A tuple of one item is replayed without the brackets, if at all. -/
theorem messages_agree_single {chunk : PyVal} (htuple : payload.asTuple = some [chunk]) :
    createMessagesEvent payload (some eventId) = recordMessage U jsonb rt runId
        (buildSseEvent eventId "messages" (messagesRecord nodePath payload)) ↔
      dumps true payload = none := by
  have hchunk : messageChunk payload = chunk := by simp [messageChunk, htuple]
  have hmeta : messageMetadata payload = .none := by simp [messageMetadata, htuple]
  have hne : payload ≠ .none := by rintro rfl; cases htuple
  have hcases := recordMessage_messages_cases U jsonb rt runId eventId nodePath payload
  rw [hchunk, hmeta, dumps_serialize_none] at hcases
  constructor
  · intro heq
    by_contra hsome
    obtain ⟨a, ha⟩ := Option.ne_none_iff_exists'.mp hsome
    obtain ⟨j, js, hj, -, rfl⟩ := dumps_tuple_eq_some htuple ha
    rw [createMessagesEvent_eq_some hne ha] at heq
    rcases hcases with ⟨-, hrep⟩ | ⟨-, c, m, hc, hm, hrep⟩
    · rw [hrep] at heq
      cases heq
    · cases hm
      obtain ⟨x, hx, hxeq⟩ := Option.map_eq_some_iff.mp (heq.trans hrep).symm
      rcases headDepth_replayedData hj hc hx with ⟨hle, -⟩ | ⟨hm, -⟩
      · obtain rfl : x = .arr (j :: js) := by simpa using congrArg SseMessage.data hxeq
        exact absurd hle (Nat.not_succ_le_self _)
      · exact hm rfl
  · intro hnone
    rw [createMessagesEvent_eq_none_iff.mpr hnone]
    rcases hcases with ⟨-, hrep⟩ | ⟨hst, -⟩
    · exact hrep.symm
    · obtain ⟨a, -, ha, -⟩ := dumps_of_storable_messages hst
      rw [hchunk] at ha
      rcases (dumps_tuple_eq_none htuple).mp hnone with h | h
      · rw [ha] at h
        cases h
      · cases h

/-- A pair is replayed as it was sent unless one of its parts is null or encoded differently. -/
theorem messages_agree_pair {chunk metadata : PyVal}
    (htuple : payload.asTuple = some [chunk, metadata]) :
    createMessagesEvent payload (some eventId) = recordMessage U jsonb rt runId
        (buildSseEvent eventId "messages" (messagesRecord nodePath payload)) ↔
      dumps true payload = none ∨ Storable jsonb (messagesRecord nodePath payload) ∧
        EncodesAlike chunk ∧ EncodesAlike metadata := by
  have hchunk : messageChunk payload = chunk := by simp [messageChunk, htuple]
  have hmeta : messageMetadata payload = metadata := by simp [messageMetadata, htuple]
  have hne : payload ≠ .none := by rintro rfl; cases htuple
  have hcases := recordMessage_messages_cases U jsonb rt runId eventId nodePath payload
  rw [hchunk, hmeta] at hcases
  have hitems {b : Json} (hb : dumps true metadata = some b) :
      encodeItems true false [metadata] = some [b] :=
    encodeItems_cons_eq_some.mpr ⟨b, [], hb, rfl, rfl⟩
  constructor
  · intro heq
    cases ha : dumps true payload with
    | none => exact .inl rfl
    | some a =>
      obtain ⟨j, js, hj, hjs, rfl⟩ := dumps_tuple_eq_some htuple ha
      obtain ⟨b, js', hb, hnil, rfl⟩ := encodeItems_cons_eq_some.mp hjs
      cases hnil
      rw [createMessagesEvent_eq_some hne ha] at heq
      rcases hcases with ⟨-, hrep⟩ | ⟨hst, c, m, hc, hm, hrep⟩
      · rw [hrep] at heq
        cases heq
      · obtain ⟨x, hx, hxeq⟩ := Option.map_eq_some_iff.mp (heq.trans hrep).symm
        obtain rfl : x = .arr [j, b] := by simpa using congrArg SseMessage.data hxeq
        rcases headDepth_replayedData hj hc hx with ⟨hle, -⟩ | ⟨hmn, hcm⟩
        · exact absurd hle (Nat.not_succ_le_self _)
        · obtain ⟨rfl, rfl⟩ : j = c ∧ b = m := by simpa using hcm
          have hjn : j ≠ .null := by
            rintro rfl
            cases hx
          exact .inr ⟨hst, ⟨j, hjn, hj, hc⟩, ⟨b, hmn, hb, hm⟩⟩
  · rintro (hnone | ⟨hst, ⟨j, hjn, hj, hj'⟩, ⟨b, hbn, hb, hb'⟩⟩)
    · rw [createMessagesEvent_eq_none_iff.mpr hnone]
      rcases hcases with ⟨-, hrep⟩ | ⟨hst, -⟩
      · exact hrep.symm
      · obtain ⟨a, b, ha, hb⟩ := dumps_of_storable_messages hst
        rw [hchunk] at ha
        rw [hmeta] at hb
        rcases (dumps_tuple_eq_none htuple).mp hnone with h | h
        · rw [ha] at h
          cases h
        · rw [hitems hb] at h
          cases h
    · have ha : dumps true payload = some (.arr [j, b]) := by
        rw [dumps_of_asTuple htuple]
        exact Option.map_eq_some_iff.mpr
          ⟨[j, b], encodeItems_cons_eq_some.mpr ⟨j, [b], hj, hitems hb, rfl⟩, rfl⟩
      rcases hcases with ⟨hst', -⟩ | ⟨-, c, m, hc, hm, hrep⟩
      · exact absurd hst hst'
      · obtain rfl := Option.some.inj (hc.symm.trans hj')
        obtain rfl := Option.some.inj (hm.symm.trans hb')
        rw [hrep, createMessagesEvent_eq_some hne ha, replayedData_pair hjn hbn]
        rfl

/-- A longer tuple is cut down to two parts, if it is replayed. -/
theorem messages_agree_longer {chunk metadata extra : PyVal} {rest : List PyVal}
    (htuple : payload.asTuple = some (chunk :: metadata :: extra :: rest)) :
    createMessagesEvent payload (some eventId) = recordMessage U jsonb rt runId
        (buildSseEvent eventId "messages" (messagesRecord nodePath payload)) ↔
      dumps true payload = none ∧ (Storable jsonb (messagesRecord nodePath payload) →
        dumps false (serialize chunk) = some .null) := by
  have hchunk : messageChunk payload = chunk := by simp [messageChunk, htuple]
  have hne : payload ≠ .none := by rintro rfl; cases htuple
  have hcases := recordMessage_messages_cases U jsonb rt runId eventId nodePath payload
  rw [hchunk] at hcases
  constructor
  · intro heq
    cases ha : dumps true payload with
    | none =>
      refine ⟨rfl, fun hst => ?_⟩
      rw [createMessagesEvent_eq_none_iff.mpr ha] at heq
      rcases hcases with ⟨hst', -⟩ | ⟨-, c, m, hc, hm, hrep⟩
      · exact absurd hst hst'
      · by_contra hcn
        have hcn : c ≠ .null := fun h => hcn (h ▸ hc)
        by_cases hmn : m = .null
        · rw [hrep, hmn, replayedData_null c hcn] at heq
          cases heq
        · rw [hrep, replayedData_pair hcn hmn] at heq
          cases heq
    | some a =>
      exfalso
      obtain ⟨j, js, hj, hjs, rfl⟩ := dumps_tuple_eq_some htuple ha
      obtain ⟨b, js₁, -, hjs₁, rfl⟩ := encodeItems_cons_eq_some.mp hjs
      obtain ⟨e, js₂, -, -, rfl⟩ := encodeItems_cons_eq_some.mp hjs₁
      rw [createMessagesEvent_eq_some hne ha] at heq
      rcases hcases with ⟨-, hrep⟩ | ⟨-, c, m, hc, -, hrep⟩
      · rw [hrep] at heq
        cases heq
      · obtain ⟨x, hx, hxeq⟩ := Option.map_eq_some_iff.mp (heq.trans hrep).symm
        obtain rfl : x = .arr (j :: b :: e :: js₂) := by
          simpa using congrArg SseMessage.data hxeq
        rcases headDepth_replayedData hj hc hx with ⟨hle, -⟩ | ⟨-, hcm⟩
        · exact absurd hle (Nat.not_succ_le_self _)
        · simp at hcm
  · rintro ⟨hnone, hnull⟩
    rw [createMessagesEvent_eq_none_iff.mpr hnone]
    rcases hcases with ⟨-, hrep⟩ | ⟨hst, c, m, hc, hm, hrep⟩
    · exact hrep.symm
    · obtain rfl := Option.some.inj (hc.symm.trans (hnull hst))
      exact hrep.symm

end Shapes

/-- The two messages of a messages event agree exactly as `MessagesAgree` says. -/
theorem createMessagesEvent_eq_recordMessage_iff {nodePath payload : PyVal} :
    createMessagesEvent payload (some eventId) =
        recordMessage U jsonb rt runId
          (buildSseEvent eventId "messages" (messagesRecord nodePath payload)) ↔
      MessagesAgree jsonb nodePath payload := by
  rw [MessagesAgree]
  cases htuple : payload.asTuple with
  | none =>
    exact messages_agree_whole (by simp [messageChunk, htuple]) (by simp [messageMetadata, htuple])
  | some items =>
    match items with
    | [] =>
      exact messages_agree_whole (by simp [messageChunk, htuple])
        (by simp [messageMetadata, htuple])
    | [chunk] => exact messages_agree_single htuple
    | [chunk, metadata] => exact messages_agree_pair htuple
    | chunk :: metadata :: extra :: rest => exact messages_agree_longer htuple

/-! ### The other modes -/

/-- Live data under any event name is not what the values record is replayed as. -/
theorem values_agree_iff {event : String} {payload : PyVal} :
    formatSseMessage event payload (some eventId) = recordMessage U jsonb rt runId
        (buildSseEvent eventId "values" (valuesRecord payload)) ↔
      dumps true payload = none := by
  constructor
  · intro heq
    by_contra hsome
    obtain ⟨a, ha⟩ := Option.ne_none_iff_exists'.mp hsome
    have hlive : formatSseMessage event payload (some eventId) ≠ none :=
      fun h => hsome (formatSseMessage_eq_none_iff.mp h)
    obtain ⟨m, hm⟩ := Option.ne_none_iff_exists'.mp hlive
    obtain ⟨b, hb, -, hdata⟩ := recordMessage_values (heq.symm.trans hm)
    by_cases hne : payload = .none
    · subst hne
      obtain rfl := Option.some.inj hm
      cases hdata
    · rw [formatSseMessage_eq_some hne ha] at hm
      obtain rfl := Option.some.inj hm
      exact record_ne_live ha hb (Option.some.inj hdata)
  · intro hnone
    rw [formatSseMessage_eq_none_iff.mpr hnone]
    cases hrep : recordMessage U jsonb rt runId
        (buildSseEvent eventId "values" (valuesRecord payload)) with
    | none => rfl
    | some m =>
      obtain ⟨b, hb, -⟩ := recordMessage_values hrep
      obtain ⟨a, ha, -⟩ := encode_live_of_stored "" hb
      rw [dumps, ha] at hnone
      cases hnone

/-- An end event is replayed as it was sent whenever its record can be written. -/
theorem end_agree_iff {payload : PyVal} :
    createEndEvent (some eventId) = recordMessage U jsonb rt runId
        (buildSseEvent eventId "end" (endRecord payload)) ↔
      Storable jsonb (endRecord payload) := by
  have hlive : ∃ m, createEndEvent (some eventId) = some m := ⟨_, rfl⟩
  constructor
  · intro heq
    by_contra hst
    obtain ⟨m, hm⟩ := hlive
    rw [recordMessage_of_not_storable hst, hm] at heq
    cases heq
  · rintro ⟨doc, hdoc, hacc⟩
    rw [recordMessage_of_storable hdoc hacc]
    rfl

/-- The live path and the store read the same mode and payload off an event, except that a tuple
of any length but two and three is a values event to the one and nothing to the other. -/
theorem parseProcessedEvent_cases (ev : PyVal) :
    (parseProcessedEvent ev).2 = parseRawEvent ev ∨
      parseRawEvent ev = (.str "values", ev) ∧ parseProcessedEvent ev = (.none, .none, .none) := by
  rw [parseProcessedEvent, parseRawEvent]
  cases ev.asTuple with
  | none => exact .inl rfl
  | some items =>
    match items with
    | [] | [_] => exact .inr ⟨rfl, rfl⟩
    | [_, _] | [_, _, _] => exact .inl rfl
    | _ :: _ :: _ :: _ :: _ => exact .inr ⟨rfl, rfl⟩

theorem createSseEvent_liveOnly {mode : String} (hmode : mode ∈ liveOnlyModes) (payload : PyVal) :
    createSseEvent (.str mode) payload eventId =
      (formatSseMessage mode payload (some eventId)).map some := by
  simp only [liveOnlyModes, List.mem_cons, List.not_mem_nil, or_false] at hmode
  rcases hmode with rfl | rfl | rfl | rfl | rfl | rfl | rfl <;> rfl

theorem join_map_some (x : Option SseMessage) : (x.map some).join = x := by
  cases x <;> rfl

/-- What is not stored agrees exactly when it cannot be sent either. -/
theorem unstored_agree_iff {mode payload : PyVal} (hm : mode.eqStr "messages" = false)
    (hv : (mode.eqStr "values" || mode.eqStr "updates") = false) (he : mode.eqStr "end" = false) :
    (createSseEvent mode payload eventId).join = none ↔
      if mode.eqStr "debug" then (withCheckpoints payload).bind (dumps true) = none
      else if liveOnlyModes.any mode.eqStr then dumps true payload = none
      else True := by
  split
  · rename_i hd
    obtain rfl := PyVal.eqStr_iff.mp hd
    have hlive : createSseEvent (.str "debug") payload eventId =
        (createDebugEvent payload (some eventId)).map some := rfl
    rw [hlive, join_map_some, createDebugEvent]
    cases withCheckpoints payload with
    | none => simp
    | some data => simpa using formatSseMessage_eq_none_iff
  · rename_i hd
    split
    · rename_i hlive
      obtain ⟨name, hname, hmode⟩ := List.any_eq_true.mp hlive
      obtain rfl := PyVal.eqStr_iff.mp hmode
      rw [createSseEvent_liveOnly hname, join_map_some]
      exact formatSseMessage_eq_none_iff
    · rename_i hlive
      simp only [liveOnlyModes, List.any_cons, List.any_nil, Bool.or_false, Bool.or_eq_true,
        not_or, Bool.not_eq_true] at hlive hd
      simp only [Bool.or_eq_false_iff] at hv
      simp [createSseEvent, hm, hv, he, hd, hlive]

/-- What is stored has a live message, unless it cannot be encoded. -/
theorem convertRawToSse_ne_of_recordOf {processedEvent : PyVal} {e : SSEEvent × Bool}
    (h : recordOf eventId processedEvent = some e) :
    convertRawToSse eventId processedEvent ≠ some none := by
  have hmap (x : Option SseMessage) : x.map some ≠ some none := by cases x <;> simp
  rw [recordOf] at h
  rw [convertRawToSse]
  rcases parseProcessedEvent_cases processedEvent with hparse | ⟨-, hparse⟩
  · rcases hproc : parseProcessedEvent processedEvent with ⟨nodePath, mode, payload⟩
    rw [hproc] at hparse h
    rw [← hparse]
    dsimp only at h ⊢
    split at h
    · rename_i hm
      obtain rfl := PyVal.eqStr_iff.mp hm
      exact hmap _
    · split at h
      · rename_i hv
        rcases Bool.or_eq_true_iff.mp hv with hv | hv
        · obtain rfl := PyVal.eqStr_iff.mp hv
          exact hmap _
        · obtain rfl := PyVal.eqStr_iff.mp hv
          cases hint : payload.asDict.bind (PyVal.get · "__interrupt__") <;>
            simp [createSseEvent, PyVal.eqStr, hint]
      · split at h
        · rename_i he
          obtain rfl := PyVal.eqStr_iff.mp he
          exact hmap (createEndEvent (some eventId))
        · cases h
  · rw [hparse] at h
    cases h

/-- The two messages of a processed event agree exactly as `ProcessedAgrees` says. -/
theorem processed_agree_iff (processedEvent : PyVal) :
    (convertRawToSse eventId processedEvent).join =
        ((recordOf eventId processedEvent).bind fun e => recordMessage U jsonb rt runId e.1) ↔
      ProcessedAgrees jsonb processedEvent := by
  rw [convertRawToSse, ProcessedAgrees, recordOf]
  rcases parseProcessedEvent_cases processedEvent with hparse | ⟨hraw, hparse⟩
  · rcases hraw : parseRawEvent processedEvent with ⟨mode, payload⟩
    rcases hproc : parseProcessedEvent processedEvent with ⟨nodePath, parsed⟩
    obtain rfl : parsed = (mode, payload) := by rw [hproc, hraw] at hparse; exact hparse
    simp only
    by_cases hm : mode.eqStr "messages" = true
    · obtain rfl := PyVal.eqStr_iff.mp hm
      simp only [hm, if_true, Option.bind_some]
      refine Iff.trans (Iff.of_eq (congrArg (· = _) (join_map_some _)))
        createMessagesEvent_eq_recordMessage_iff
    rw [Bool.not_eq_true] at hm
    by_cases hv : (mode.eqStr "values" || mode.eqStr "updates") = true
    · simp only [hm, hv, if_true, Bool.false_eq_true, if_false, Option.bind_some]
      have hlive : ∃ event, (createSseEvent mode payload eventId).join =
          formatSseMessage event payload (some eventId) := by
        rcases Bool.or_eq_true_iff.mp hv with hv | hv
        · obtain rfl := PyVal.eqStr_iff.mp hv
          exact ⟨"values", join_map_some _⟩
        · obtain rfl := PyVal.eqStr_iff.mp hv
          cases hint : payload.asDict.bind (PyVal.get · "__interrupt__") with
          | none =>
            refine ⟨"updates", ?_⟩
            simp [createSseEvent, PyVal.eqStr, hint, join_map_some, createUpdatesEvent]
          | some _ =>
            refine ⟨"values", ?_⟩
            simp [createSseEvent, PyVal.eqStr, hint, join_map_some, createValuesEvent]
      obtain ⟨event, hevent⟩ := hlive
      rw [hevent]
      exact values_agree_iff
    rw [Bool.not_eq_true] at hv
    by_cases he : mode.eqStr "end" = true
    · obtain rfl := PyVal.eqStr_iff.mp he
      simp only [hm, hv, he, if_true, Bool.false_eq_true, if_false, Option.bind_some]
      exact end_agree_iff
    rw [Bool.not_eq_true] at he
    simp only [hm, hv, he, Bool.false_eq_true, if_false, Option.bind_none]
    exact unstored_agree_iff hm hv he
  · simp only [hraw, hparse]
    have hlive : (createSseEvent (.str "values") processedEvent eventId).join =
        formatSseMessage "values" processedEvent (some eventId) := join_map_some _
    rw [hlive]
    exact formatSseMessage_eq_none_iff

/-- **Where the encodings agree.** A raw event is replayed as it was sent live exactly when it is
one of those `Agrees` describes. -/
theorem liveMessage_eq_storedMessage_iff (U : UnicodeDb) (jsonb : Jsonb) (rt : Runtime)
    (runId : RunId) (eventId : Str) (rawEvent : PyVal) (onlyInterruptUpdates : Bool) :
    liveMessage eventId rawEvent onlyInterruptUpdates =
        storedMessage U jsonb rt runId eventId rawEvent onlyInterruptUpdates ↔
      Agrees jsonb rawEvent onlyInterruptUpdates := by
  rw [liveMessage, storedMessage, storageEvent, Agrees]
  rcases hproc : processInterruptUpdates rawEvent onlyInterruptUpdates with
    _ | ⟨processedEvent, shouldSkip⟩
  · simp
  · cases shouldSkip with
    | true => simp
    | false => exact processed_agree_iff processedEvent

/-- The values `{"x": 1}` are replayed as `{"type": "execution_values", "chunk": {"x": 1}}`. -/
theorem values_replayed_with_wrapper :
    ¬ ∀ (U : UnicodeDb) (jsonb : Jsonb) (rt : Runtime) (runId : RunId) (eventId : Str)
      (rawEvent : PyVal) (onlyInterruptUpdates : Bool),
      liveMessage eventId rawEvent onlyInterruptUpdates =
        storedMessage U jsonb rt runId eventId rawEvent onlyInterruptUpdates := by
  intro h
  have heq := h .ascii ⟨fun _ => true⟩ ⟨"", fun _ => "", ""⟩ ⟨"r".toList, by decide⟩
    "r_event_1".toList (.tuple [.str "values", .dict [(.str "x", .int 1)]]) false
  have hdepth := congrArg (Option.map fun m => m.data.map (Json.depthAt "chunk")) heq
  exact absurd hdepth (by decide)

end StreamingService

end OpenLangGraph

import OpenLangGraph.Core.Sse

/-!
# The event converter

The model of `services/event_converter.py`: from a raw event of the graph, and from a stored
event, to the SSE message that is sent for it.

A conversion can raise, can decide to send nothing, or gives a message. These are `none`,
`some none` and `some (some m)`.

## Main definitions

* `convertRawToSse` — the live path
* `convertStoredToSse` — the replay
-/

open PyString

namespace OpenLangGraph

/-- What the interpreter supplies to an error message: the time, and the text of a value or of
the exception at hand. -/
structure Runtime where
  now : String
  str : PyVal → String
  exceptionText : String

/-- An event read back from the store. -/
structure StoredEvent where
  id : Str
  event : String
  data : PyVal

namespace EventConverter

open Sse

/-- `_parse_raw_event`: the stream mode and the payload. -/
def parseRawEvent (rawEvent : PyVal) : PyVal × PyVal :=
  match rawEvent.asTuple with
  | some [mode, payload] => (mode, payload)
  | some [_, mode, payload] => (mode, payload)
  | _ => (.str "values", rawEvent)

/-- `_create_sse_event` -/
def createSseEvent (streamMode payload : PyVal) (eventId : Str) : Option (Option SseMessage) :=
  if streamMode.eqStr "messages" then (createMessagesEvent payload (some eventId)).map some
  else if streamMode.eqStr "values" then (createValuesEvent payload (some eventId)).map some
  else if streamMode.eqStr "updates" then
    -- an interrupt is shown to the client as values
    match payload.asDict.bind (PyVal.get · "__interrupt__") with
    | some _ => (createValuesEvent payload (some eventId)).map some
    | none => (createUpdatesEvent payload (some eventId)).map some
  else if streamMode.eqStr "state" then (createStateEvent payload (some eventId)).map some
  else if streamMode.eqStr "logs" then (createLogsEvent payload (some eventId)).map some
  else if streamMode.eqStr "tasks" then (createTasksEvent payload (some eventId)).map some
  else if streamMode.eqStr "subgraphs" then (createSubgraphsEvent payload (some eventId)).map some
  else if streamMode.eqStr "debug" then (createDebugEvent payload (some eventId)).map some
  else if streamMode.eqStr "events" then (createEventsEvent payload (some eventId)).map some
  else if streamMode.eqStr "checkpoints" then
    (createCheckpointsEvent payload (some eventId)).map some
  else if streamMode.eqStr "custom" then (createCustomEvent payload (some eventId)).map some
  else if streamMode.eqStr "end" then (createEndEvent (some eventId)).map some
  else some none

/-- `convert_raw_to_sse` -/
def convertRawToSse (eventId : Str) (rawEvent : PyVal) : Option (Option SseMessage) :=
  let (streamMode, payload) := parseRawEvent rawEvent
  createSseEvent streamMode payload eventId

/-- `_coerce_dict` -/
def coerceDict (value : PyVal) : List (PyKey × PyVal) := value.asDict.getD []

/-- `data_dict.get(k)`, with `None` for a missing key. -/
def getOrNone (dataDict : List (PyKey × PyVal)) (k : String) : PyVal :=
  (PyVal.get dataDict k).getD .none

/-- The data of the stored event types whose data is wrapped in a member. -/
def unwrap (dataDict : List (PyKey × PyVal)) (k : String) : PyVal :=
  .dict (coerceDict (getOrNone dataDict k))

/-- A stored messages event: chunk and metadata as a pair, or the chunk alone. -/
def storedMessagesEvent (messageChunk metadata : PyVal) (eventId : Option Str) :
    Option (Option SseMessage) :=
  match messageChunk, metadata with
  | .none, _ => some none
  | messageChunk, .none => (createMessagesEvent messageChunk eventId).map some
  | messageChunk, metadata =>
    (createMessagesEvent (.tuple [messageChunk, metadata]) eventId).map some

/-- The text of the error in a stored error event. -/
def storedErrorMessage (rt : Runtime) : PyVal → String
  | .str s => s
  | errorPayload => rt.str errorPayload

/-- `convert_stored_to_sse` -/
def convertStoredToSse (rt : Runtime) (storedEvent : StoredEvent) (runId : Option Str) :
    Option (Option SseMessage) :=
  let eventType := storedEvent.event
  let eventId := some storedEvent.id
  let dataDict := coerceDict storedEvent.data
  if eventType = "messages" then
    storedMessagesEvent (getOrNone dataDict "message_chunk") (getOrNone dataDict "metadata") eventId
  else if eventType = "values" then (createValuesEvent (.dict dataDict) eventId).map some
  else if eventType = "metadata" then
    match runId with
    | none => some none
    | some runId => (createMetadataEvent runId eventId).map some
  else if eventType = "state" then (createStateEvent (unwrap dataDict "state") eventId).map some
  else if eventType = "logs" then (createLogsEvent (unwrap dataDict "logs") eventId).map some
  else if eventType = "tasks" then (createTasksEvent (unwrap dataDict "tasks") eventId).map some
  else if eventType = "subgraphs" then
    (createSubgraphsEvent (unwrap dataDict "subgraphs") eventId).map some
  else if eventType = "debug" then (createDebugEvent (unwrap dataDict "debug") eventId).map some
  else if eventType = "events" then (createEventsEvent (unwrap dataDict "event") eventId).map some
  else if eventType = "end" then (createEndEvent eventId).map some
  else if eventType = "error" then
    let errorMessage := storedErrorMessage rt (getOrNone dataDict "error")
    (createErrorEvent rt.now errorMessage eventId).map some
  else some none

/-! ### Ids -/

/-- The message of a conversion, if there is one, has the id of the event. -/
def HasId (eventId : Str) (conversion : Option (Option SseMessage)) : Prop :=
  ∀ m, conversion = some (some m) → m.id = (some eventId).filter (· ≠ [])

variable {eventId : Str} {a b : Option (Option SseMessage)}

theorem hasId_ite {c : Prop} [Decidable c] (ha : HasId eventId a) (hb : HasId eventId b) :
    HasId eventId (if c then a else b) := by
  split
  · exact ha
  · exact hb

theorem hasId_none : HasId eventId (some none) := fun _ h => by cases h

theorem hasId_map_some {x : Option SseMessage}
    (hx : ∀ m, x = some m → m.id = (some eventId).filter (· ≠ [])) :
    HasId eventId (x.map some) := by
  intro m h
  obtain ⟨m', hm', heq⟩ := Option.map_eq_some_iff.mp h
  exact Option.some.inj heq ▸ hx m' hm'

theorem hasId_format {event : String} {data : PyVal} :
    HasId eventId ((formatSseMessage event data (some eventId)).map some) :=
  hasId_map_some fun _ => id_of_formatSseMessage

theorem hasId_messages {data : PyVal} :
    HasId eventId ((createMessagesEvent data (some eventId)).map some) :=
  hasId_map_some fun _ => id_of_createMessagesEvent

theorem hasId_debug {data : PyVal} :
    HasId eventId ((createDebugEvent data (some eventId)).map some) :=
  hasId_map_some fun _ => id_of_createDebugEvent

/-- A live message has the id of its event. -/
theorem hasId_convertRawToSse (eventId : Str) (rawEvent : PyVal) :
    HasId eventId (convertRawToSse eventId rawEvent) := by
  unfold convertRawToSse createSseEvent
  refine hasId_ite hasId_messages <| hasId_ite hasId_format <| hasId_ite ?_ <|
    hasId_ite hasId_format <| hasId_ite hasId_format <| hasId_ite hasId_format <|
    hasId_ite hasId_format <| hasId_ite hasId_debug <| hasId_ite hasId_format <|
    hasId_ite hasId_format <| hasId_ite hasId_format <| hasId_ite hasId_format hasId_none
  split <;> exact hasId_format

/-- A replayed message has the id of its row. -/
theorem hasId_convertStoredToSse (rt : Runtime) (storedEvent : StoredEvent) (runId : Option Str) :
    HasId storedEvent.id (convertStoredToSse rt storedEvent runId) := by
  unfold convertStoredToSse
  refine hasId_ite ?_ <| hasId_ite hasId_format <| hasId_ite ?_ <|
    hasId_ite hasId_format <| hasId_ite hasId_format <| hasId_ite hasId_format <|
    hasId_ite hasId_format <| hasId_ite hasId_debug <| hasId_ite hasId_format <|
    hasId_ite hasId_format <| hasId_ite hasId_format hasId_none
  · unfold storedMessagesEvent
    split
    · exact hasId_none
    · exact hasId_messages
    · exact hasId_messages
  · split
    · exact hasId_none
    · exact hasId_format

/-! ### End messages -/

/-- The message of a conversion, if there is one, does not end a stream. -/
def NotEnd (conversion : Option (Option SseMessage)) : Prop :=
  ∀ m, conversion = some (some m) → m.event ≠ "end"

theorem notEnd_ite {c : Prop} [Decidable c] (ha : NotEnd a) (hb : NotEnd b) :
    NotEnd (if c then a else b) := by
  split
  · exact ha
  · exact hb

theorem notEnd_ite_of_not {c : Prop} [Decidable c] (hc : ¬ c) (hb : NotEnd b) :
    NotEnd (if c then a else b) := by
  rwa [if_neg hc]

theorem notEnd_none : NotEnd (some none) := fun _ h => by cases h

theorem notEnd_map_some {event : String} {x : Option SseMessage}
    (hx : ∀ m, x = some m → m.event = event) (hevent : event ≠ "end") : NotEnd (x.map some) := by
  intro m h
  obtain ⟨m', hm', heq⟩ := Option.map_eq_some_iff.mp h
  obtain rfl := Option.some.inj heq
  rw [hx m' hm']
  exact hevent

theorem notEnd_format {event : String} {data : PyVal} {eventId : Option Str}
    (hevent : event ≠ "end") : NotEnd ((formatSseMessage event data eventId).map some) :=
  notEnd_map_some (fun _ => event_of_formatSseMessage) hevent

theorem notEnd_messages {data : PyVal} {eventId : Option Str} :
    NotEnd ((createMessagesEvent data eventId).map some) :=
  notEnd_map_some (fun _ => event_of_createMessagesEvent) (by decide)

theorem notEnd_debug {data : PyVal} {eventId : Option Str} :
    NotEnd ((createDebugEvent data eventId).map some) :=
  notEnd_map_some (fun _ => event_of_createDebugEvent) (by decide)

theorem notEnd_createSseEvent {streamMode : PyVal} (payload : PyVal) (eventId : Str)
    (h : streamMode.eqStr "end" = false) : NotEnd (createSseEvent streamMode payload eventId) := by
  unfold createSseEvent
  refine notEnd_ite notEnd_messages <| notEnd_ite (notEnd_format ?_) <| notEnd_ite ?_ <|
    notEnd_ite (notEnd_format ?_) <| notEnd_ite (notEnd_format ?_) <|
    notEnd_ite (notEnd_format ?_) <| notEnd_ite (notEnd_format ?_) <| notEnd_ite notEnd_debug <|
    notEnd_ite (notEnd_format ?_) <| notEnd_ite (notEnd_format ?_) <|
    notEnd_ite (notEnd_format ?_) <| notEnd_ite_of_not (by simp [h]) notEnd_none
  case refine_2 => split <;> exact notEnd_format (by decide)
  all_goals decide

/-- On the live path only an event of the mode `end` is made an end message. -/
theorem notEnd_convertRawToSse {rawEvent : PyVal}
    (h : (parseRawEvent rawEvent).1.eqStr "end" = false) :
    NotEnd (convertRawToSse eventId rawEvent) :=
  notEnd_createSseEvent _ eventId h

theorem convertRawToSse_of_end {rawEvent : PyVal}
    (h : (parseRawEvent rawEvent).1.eqStr "end" = true) :
    convertRawToSse eventId rawEvent = (createEndEvent (some eventId)).map some := by
  show createSseEvent (parseRawEvent rawEvent).1 (parseRawEvent rawEvent).2 eventId = _
  rw [PyVal.eqStr_iff.mp h]
  rfl

/-- In a replay only an end row is made an end message. -/
theorem notEnd_convertStoredToSse (rt : Runtime) {storedEvent : StoredEvent}
    (runId : Option Str) (h : storedEvent.event ≠ "end") :
    NotEnd (convertStoredToSse rt storedEvent runId) := by
  unfold convertStoredToSse
  refine notEnd_ite ?_ <| notEnd_ite (notEnd_format ?_) <| notEnd_ite ?_ <|
    notEnd_ite (notEnd_format ?_) <| notEnd_ite (notEnd_format ?_) <|
    notEnd_ite (notEnd_format ?_) <| notEnd_ite (notEnd_format ?_) <| notEnd_ite notEnd_debug <|
    notEnd_ite (notEnd_format ?_) <| notEnd_ite_of_not h <|
    notEnd_ite (notEnd_format ?_) notEnd_none
  case refine_1 =>
    unfold storedMessagesEvent
    split
    · exact notEnd_none
    · exact notEnd_messages
    · exact notEnd_messages
  case refine_3 =>
    split
    · exact notEnd_none
    · exact notEnd_format (by decide)
  all_goals decide

end EventConverter

end OpenLangGraph

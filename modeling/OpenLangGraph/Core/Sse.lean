import OpenLangGraph.Core.Serializers
import OpenLangGraph.Foundation.PyString

/-!
# Server-sent events

The model of `core/sse.py`: a message as its event name, its data and its id, and the functions
that create the messages of each stream mode.

The data of a message is JSON data, or nothing where the source writes an empty data line. A
creating function returns `none` where the source raises because the data cannot be encoded.

## Main definitions

* `SseMessage`, `formatSseMessage`
* `createValuesEvent`, `createMessagesEvent`, …
* `withCheckpoints` — what `create_debug_event` adds to its data
-/

open PyString

namespace OpenLangGraph

/-- A message of an SSE stream. -/
structure SseMessage where
  event : String
  /-- `none` is the empty data line. -/
  data : Option Json
  id : Option Str

namespace Sse

/-- `format_sse_message(event, data, event_id)` -/
def formatSseMessage (event : String) (data : PyVal) (eventId : Option Str) : Option SseMessage :=
  let id := eventId.filter (· ≠ [])
  match data with
  | .none => some { event, data := none, id }
  | data => (GeneralSerializer.dumps true data).map fun json => { event, data := some json, id }

theorem id_of_formatSseMessage {event : String} {data : PyVal} {eventId : Option Str}
    {m : SseMessage} (h : formatSseMessage event data eventId = some m) :
    m.id = eventId.filter (· ≠ []) := by
  unfold formatSseMessage at h
  split at h
  · cases h
    rfl
  · obtain ⟨_, _, rfl⟩ := Option.map_eq_some_iff.mp h
    rfl

theorem event_of_formatSseMessage {event : String} {data : PyVal} {eventId : Option Str}
    {m : SseMessage} (h : formatSseMessage event data eventId = some m) : m.event = event := by
  rw [formatSseMessage.eq_def] at h
  split at h
  · cases h
    rfl
  · obtain ⟨_, _, rfl⟩ := Option.map_eq_some_iff.mp h
    rfl

/-- `create_metadata_event` -/
def createMetadataEvent (runId : Str) (eventId : Option Str) : Option SseMessage :=
  formatSseMessage "metadata"
    (.dict [(.str "run_id", .str (String.ofList runId)), (.str "attempt", .int 1)]) eventId

/-- `create_values_event` -/
def createValuesEvent (chunkData : PyVal) (eventId : Option Str) : Option SseMessage :=
  formatSseMessage "values" chunkData eventId

/-- `create_updates_event` -/
def createUpdatesEvent (updatesData : PyVal) (eventId : Option Str) : Option SseMessage :=
  formatSseMessage "updates" updatesData eventId

/-- `create_end_event` -/
def createEndEvent (eventId : Option Str) : Option SseMessage :=
  formatSseMessage "end" (.dict [(.str "status", .str "completed")]) eventId

/-- The data of an end message with a status. -/
def endData (status : String) : Json := .obj [("status", .str status)]

theorem createEndEvent_eq (eventId : Option Str) :
    createEndEvent eventId =
      some { event := "end", data := some (endData "completed"),
             id := eventId.filter (· ≠ []) } := rfl

/-- `create_error_event`, at the time `now`. -/
def createErrorEvent (now error : String) (eventId : Option Str) : Option SseMessage :=
  formatSseMessage "error" (.dict [(.str "error", .str error), (.str "timestamp", .str now)])
    eventId

/-- `create_events_event` -/
def createEventsEvent (eventData : PyVal) (eventId : Option Str) : Option SseMessage :=
  formatSseMessage "events" eventData eventId

/-- `create_state_event` -/
def createStateEvent (stateData : PyVal) (eventId : Option Str) : Option SseMessage :=
  formatSseMessage "state" stateData eventId

/-- `create_logs_event` -/
def createLogsEvent (logsData : PyVal) (eventId : Option Str) : Option SseMessage :=
  formatSseMessage "logs" logsData eventId

/-- `create_tasks_event` -/
def createTasksEvent (tasksData : PyVal) (eventId : Option Str) : Option SseMessage :=
  formatSseMessage "tasks" tasksData eventId

/-- `create_subgraphs_event` -/
def createSubgraphsEvent (subgraphsData : PyVal) (eventId : Option Str) : Option SseMessage :=
  formatSseMessage "subgraphs" subgraphsData eventId

/-- `create_checkpoints_event` -/
def createCheckpointsEvent (checkpointsData : PyVal) (eventId : Option Str) : Option SseMessage :=
  formatSseMessage "checkpoints" checkpointsData eventId

/-- `create_custom_event` -/
def createCustomEvent (customData : PyVal) (eventId : Option Str) : Option SseMessage :=
  formatSseMessage "custom" customData eventId

/-- `create_messages_event`: a pair of chunk and metadata becomes a list. -/
def createMessagesEvent (messagesData : PyVal) (eventId : Option Str) : Option SseMessage :=
  match messagesData.asTuple with
  | some [messageChunk, metadata] =>
    formatSseMessage "messages" (.list [messageChunk, metadata]) eventId
  | _ => formatSseMessage "messages" messagesData eventId

theorem id_of_createMessagesEvent {messagesData : PyVal} {eventId : Option Str} {m : SseMessage}
    (h : createMessagesEvent messagesData eventId = some m) : m.id = eventId.filter (· ≠ []) := by
  rw [createMessagesEvent] at h
  split at h <;> exact id_of_formatSseMessage h

theorem event_of_createMessagesEvent {messagesData : PyVal} {eventId : Option Str}
    {m : SseMessage} (h : createMessagesEvent messagesData eventId = some m) :
    m.event = "messages" := by
  rw [createMessagesEvent] at h
  split at h <;> exact event_of_formatSseMessage h

/-! ### Debug events -/

/-- The checkpoint that a `configurable` dictionary names. -/
def checkpointOf (configurable : List (PyKey × PyVal)) : PyVal :=
  .dict [(.str "thread_id", (PyVal.get configurable "thread_id").getD .none),
    (.str "checkpoint_id", (PyVal.get configurable "checkpoint_id").getD .none),
    (.str "checkpoint_ns", (PyVal.get configurable "checkpoint_ns").getD (.str ""))]

/-- The `configurable` dictionary of a config, if both are dictionaries. -/
def configurableOf (config : PyVal) : Option (List (PyKey × PyVal)) := do
  let entries ← config.asDict
  let configurable ← PyVal.get entries "configurable"
  configurable.asDict

/-- The payload with its `checkpoint`, unless it has one already. -/
def withCheckpoint (payload : List (PyKey × PyVal)) : List (PyKey × PyVal) :=
  match PyVal.get payload "checkpoint", PyVal.get payload "config" with
  | none, some config =>
    match configurableOf config with
    | some configurable => payload ++ [(.str "checkpoint", checkpointOf configurable)]
    | none => payload
  | _, _ => payload

/-- The payload with its `parent_checkpoint`, unless it has one already. -/
def withParentCheckpoint (payload : List (PyKey × PyVal)) : List (PyKey × PyVal) :=
  match PyVal.get payload "parent_checkpoint", PyVal.get payload "parent_config" with
  | none, some .none => payload ++ [(.str "parent_checkpoint", .none)]
  | none, some config =>
    match configurableOf config with
    | some configurable => payload ++ [(.str "parent_checkpoint", checkpointOf configurable)]
    | none => payload
  | _, _ => payload

/-- The debug data that is sent. Data that is not a dictionary is only searched for a `"payload"`;
finding one, or searching what has no members, raises. An object with a dump method is iterated
over its fields, none of which equals a string. -/
def withCheckpoints (debugData : PyVal) : Option PyVal :=
  match debugData with
  | .dict entries =>
    match PyVal.get entries "payload" with
    | some (.dict payload) =>
      let payload := withParentCheckpoint (withCheckpoint payload)
      some (.dict (entries.map fun e =>
        if e.1 = .str "payload" then (e.1, .dict payload) else e))
    | _ => some debugData
  | .list items | .tuple items | .set items =>
    if items.any (PyVal.eqStr · "payload") then none else some debugData
  | .namedtuple fields =>
    if fields.any (PyVal.eqStr ·.2 "payload") then none else some debugData
  | .str s =>
    if (splitSub "payload".toList s.toList).length = 1 then some debugData else none
  | .model _ => some debugData
  | .none | .bool _ | .int _ | .float _ | .interrupt _ _ | .other _ => none

/-- `create_debug_event` -/
def createDebugEvent (debugData : PyVal) (eventId : Option Str) : Option SseMessage :=
  (withCheckpoints debugData).bind fun data => formatSseMessage "debug" data eventId

theorem id_of_createDebugEvent {debugData : PyVal} {eventId : Option Str} {m : SseMessage}
    (h : createDebugEvent debugData eventId = some m) : m.id = eventId.filter (· ≠ []) := by
  obtain ⟨_, _, h⟩ := Option.bind_eq_some_iff.mp h
  exact id_of_formatSseMessage h

theorem event_of_createDebugEvent {debugData : PyVal} {eventId : Option Str} {m : SseMessage}
    (h : createDebugEvent debugData eventId = some m) : m.event = "debug" := by
  obtain ⟨_, _, h⟩ := Option.bind_eq_some_iff.mp h
  exact event_of_formatSseMessage h

end Sse

end OpenLangGraph

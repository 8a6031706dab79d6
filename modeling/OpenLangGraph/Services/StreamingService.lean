import OpenLangGraph.Services.Broker
import OpenLangGraph.Services.EventStore

/-!
# The streaming service

The functions of `services/streaming_service.py` through which the producer's events pass, up to
their awaits: what is put to the broker, what is appended to the storage batch, and the messages
that the live path and the replay make of it.

## Main definitions

* `processInterruptUpdates`, `storageEvent` — the two halves of what happens to a raw event
* `liveMessage`, `storedMessage` — the message a client is sent for a raw event, live and replayed
-/

open PyString

namespace OpenLangGraph

namespace StreamingService

open EventStore EventConverter

/-- `_process_interrupt_updates`: the event to pass on and whether to skip it. `none` is the
`TypeError` of a `len` of something without one. -/
def processInterruptUpdates (rawEvent : PyVal) (onlyInterruptUpdates : Bool) :
    Option (PyVal × Bool) :=
  match rawEvent.asTuple with
  | some (label :: payload :: _) =>
    if label.eqStr "updates" && onlyInterruptUpdates then
      match payload.asDict.bind (PyVal.get · "__interrupt__") with
      | none => some (rawEvent, true)
      | some interrupts => do
        if 0 < (← interrupts.len) then return (.tuple [.str "values", payload], false)
        else return (rawEvent, true)
    else some (rawEvent, false)
  | _ => some (rawEvent, false)

/-! ### Storing -/

/-- The structure that `store_event_from_raw` reads off an event: node path, stream mode and
payload. -/
def parseProcessedEvent (processedEvent : PyVal) : PyVal × PyVal × PyVal :=
  match processedEvent.asTuple with
  | some [mode, payload] => (.none, mode, payload)
  | some [nodePath, mode, payload] => (nodePath, mode, payload)
  | some _ => (.none, .none, .none)
  | none => (.none, .str "values", processedEvent)

/-- The first part of a messages payload, or all of it. -/
def messageChunk (payload : PyVal) : PyVal :=
  match payload.asTuple with
  | some (chunk :: _) => chunk
  | _ => payload

/-- The second part of a messages payload, if it has one. -/
def messageMetadata (payload : PyVal) : PyVal :=
  match payload.asTuple with
  | some (_ :: metadata :: _) => metadata
  | _ => .none

/-- The record of a messages event. -/
def messagesRecord (nodePath payload : PyVal) : PyVal :=
  .dict [(.str "type", .str "messages_stream"), (.str "message_chunk", messageChunk payload),
    (.str "metadata", messageMetadata payload), (.str "node_path", nodePath)]

/-- The record of a values or updates event. -/
def valuesRecord (payload : PyVal) : PyVal :=
  .dict [(.str "type", .str "execution_values"), (.str "chunk", payload)]

/-- The record of an end event. -/
def endRecord (payload : PyVal) : PyVal :=
  let payloadDict := payload.asDict.getD []
  .dict [(.str "type", .str "run_complete"),
    (.str "status", (PyVal.get payloadDict "status").getD (.str "completed")),
    (.str "final_output", (PyVal.get payloadDict "final_output").getD .none)]

/-- What `store_event_from_raw` appends to the batch for a processed event, if anything, and
whether it then forces a flush. -/
def recordOf (eventId : Str) (processedEvent : PyVal) : Option (SSEEvent × Bool) :=
  let (nodePath, streamModeLabel, eventPayload) := parseProcessedEvent processedEvent
  if streamModeLabel.eqStr "messages" then
    some (buildSseEvent eventId "messages" (messagesRecord nodePath eventPayload), false)
  else if streamModeLabel.eqStr "values" || streamModeLabel.eqStr "updates" then
    some (buildSseEvent eventId "values" (valuesRecord eventPayload), false)
  else if streamModeLabel.eqStr "end" then
    some (buildSseEvent eventId "end" (endRecord eventPayload), true)
  else none

/-- The part of `store_event_from_raw` before the flush. The outer `none` is an exception. -/
def storageEvent (eventId : Str) (rawEvent : PyVal) (onlyInterruptUpdates : Bool) :
    Option (Option (SSEEvent × Bool)) :=
  (processInterruptUpdates rawEvent onlyInterruptUpdates).map fun (processedEvent, shouldSkip) =>
    if shouldSkip then none else recordOf eventId processedEvent

/-! ### The two encodings of an event -/

/-- The message a client is sent for a raw event on the live path: `put_to_broker`, then
`convert_raw_to_sse`. -/
def liveMessage (eventId : Str) (rawEvent : PyVal) (onlyInterruptUpdates : Bool) :
    Option SseMessage := do
  let (processedEvent, shouldSkip) ← processInterruptUpdates rawEvent onlyInterruptUpdates
  if shouldSkip then none else (convertRawToSse eventId processedEvent).join

/-- The message a client is sent for a raw event from the store: `store_event_from_raw`, the row,
then `convert_stored_to_sse`. -/
def storedMessage (U : UnicodeDb) (jsonb : Jsonb) (rt : Runtime) (runId : RunId) (eventId : Str)
    (rawEvent : PyVal) (onlyInterruptUpdates : Bool) : Option SseMessage := do
  let (event, _) ← (storageEvent eventId rawEvent onlyInterruptUpdates).join
  let row ← buildInsertRow U jsonb event
  (convertStoredToSse rt row.stored (some runId.text)).join

end StreamingService

end OpenLangGraph

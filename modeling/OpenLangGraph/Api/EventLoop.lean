import OpenLangGraph.Api.ExecuteRun
import OpenLangGraph.Foundation.Transition
import OpenLangGraph.Services.StreamingService

/-!
# The event loop of the executor

What `execute_run_async` of `api/runs.py` learns about a run from the events that its graph
streams: whether one of them carries an interrupt, and the final output. The broker and the store
get every event before this; `put_to_broker` and `store_event_from_raw` are in `StreamingService`,
and only an event that they raise on is of interest here.

## Shapes

The graph yields a pair of stream mode and payload, a triple that begins with the namespace of the
subgraph, or a bare payload. Five places take an event apart by hand. The converter and the store
go by the length of the tuple. The interrupt filter and the two detections of the loop take the
first two components, so for them the first component of a triple is the mode and the second is
the payload.

## After the loop

If no event carried an interrupt, the state of the thread decides: a run whose graph has a next
node was interrupted. This is `endOfStream`.

## Main definitions

* `GraphEvent` — an event of the graph, in one of the three shapes
* `handleEvent` — one turn of the loop
* `ReadAs` — what every reader of an event takes for its mode and payload
* `SeenRightly`

## Main results

* `readAs_iff` — when the readers agree
* `recorded_of_endOfStream` — what is recorded for a run whose stream has ended
* `seenRightly_iff`
-/

namespace OpenLangGraph

open Transition StreamingService EventConverter

/-- What `graph.astream` yields. -/
inductive GraphEvent
  | moded (mode : String) (payload : PyVal)
  /-- The event of a graph that streams its subgraphs too; the namespace of the root is empty. -/
  | namespaced (path : List PyVal) (mode : String) (payload : PyVal)
  | bare (payload : PyVal) (notTuple : payload.asTuple = none)

namespace GraphEvent

def raw : GraphEvent → PyVal
  | moded mode payload => .tuple [.str mode, payload]
  | namespaced path mode payload => .tuple [.tuple path, .str mode, payload]
  | bare payload _ => payload

/-- The stream mode. A bare payload has the mode `"values"`. -/
def mode : GraphEvent → String
  | moded mode _ | namespaced _ mode _ => mode
  | bare _ _ => "values"

def payload : GraphEvent → PyVal
  | moded _ payload | namespaced _ _ payload | bare payload _ => payload

def isNamespaced : GraphEvent → Bool
  | namespaced _ _ _ => true
  | moded _ _ | bare _ _ => false

/-- The event is one of the root graph. -/
def isRoot : GraphEvent → Bool
  | namespaced path _ _ => path.isEmpty
  | moded _ _ | bare _ _ => true

/-- The payload of a values event of the root graph. -/
def rootValues? (e : GraphEvent) : Option PyVal :=
  if e.isRoot && e.mode == "values" then some e.payload else none

end GraphEvent

namespace Executor

/-! ### One turn of the loop -/

/-- `_should_skip_event` -/
def shouldSkipEvent (rawEvent : PyVal) : Bool :=
  match rawEvent.asTuple with
  | some (first :: second :: rest) =>
    match ((second :: rest).getLast?.getD first).asTuple with
    | some (_ :: metadata :: _) =>
      match metadata.asDict.bind (PyVal.get · "tags") with
      | some (.list tags) => tags.any (·.eqStr "langsmith:nostream")
      | _ => false
    | _ => false
  | _ => false

/-- `event_data` -/
def eventData (rawEvent : PyVal) : PyVal :=
  match rawEvent.asTuple with
  | some (_ :: payload :: _) => payload
  | some _ => .none
  | none => rawEvent

/-- `isinstance(event_data, dict) and "__interrupt__" in event_data` -/
def carriesInterrupt (eventData : PyVal) : Bool :=
  (eventData.asDict.bind (PyVal.get · "__interrupt__")).isSome

/-- `final_output` after an event. -/
def trackOutput (finalOutput rawEvent : PyVal) : PyVal :=
  match rawEvent.asTuple with
  | some (label :: payload :: _) => if label.eqStr "values" then payload else finalOutput
  | some _ => finalOutput
  | none => rawEvent

/-- The local variables of the loop. -/
structure Tracked where
  eventCounter : ℕ
  finalOutput : PyVal
  hasInterrupt : Bool

/-- Before the first event. -/
def Tracked.init : Tracked := { eventCounter := 0, finalOutput := .none, hasInterrupt := false }

/-- One turn of the loop; `none` is the exception of `put_to_broker`. -/
def handleEvent (onlyInterruptUpdates : Bool) (t : Tracked) (rawEvent : PyVal) :
    Option Tracked :=
  if shouldSkipEvent rawEvent then some t
  else (processInterruptUpdates rawEvent onlyInterruptUpdates).map fun _ =>
    { eventCounter := t.eventCounter + 1
      finalOutput := trackOutput t.finalOutput rawEvent
      hasInterrupt := t.hasInterrupt || carriesInterrupt (eventData rawEvent) }

/-- How the stream ends for the task. `hasNext` says that the thread state has a next node; it is
asked for only if no event carried an interrupt. -/
def endOfStream (t : Tracked) (hasNext : Bool) : Outcome :=
  .ends (t.hasInterrupt || hasNext) t.finalOutput

/-! ### How the readers take an event apart -/

/-- The first two components of a tuple, or `"values"` and the event itself. -/
def frontShape (rawEvent : PyVal) : PyVal × PyVal :=
  match rawEvent.asTuple with
  | some (label :: payload :: _) => (label, payload)
  | some _ => (.none, .none)
  | none => (.str "values", rawEvent)

/-- What the filter does with an event once it has read a mode and a payload from it. -/
def filterBy (rawEvent mode payload : PyVal) (onlyInterruptUpdates : Bool) :
    Option (PyVal × Bool) :=
  if mode.eqStr "updates" && onlyInterruptUpdates then
    match payload.asDict.bind (PyVal.get · "__interrupt__") with
    | none => some (rawEvent, true)
    | some interrupts => interrupts.len.map fun length =>
      if 0 < length then (.tuple [.str "values", payload], false) else (rawEvent, true)
  else some (rawEvent, false)

/-- The filter goes by the first two components. -/
theorem processInterruptUpdates_eq (rawEvent : PyVal) (onlyInterruptUpdates : Bool) :
    processInterruptUpdates rawEvent onlyInterruptUpdates =
      filterBy rawEvent (frontShape rawEvent).1 (frontShape rawEvent).2 onlyInterruptUpdates := by
  cases htuple : rawEvent.asTuple with
  | none =>
    rw [processInterruptUpdates, frontShape, htuple]
    rfl
  | some items =>
    match items with
    | [] | [_] =>
      rw [processInterruptUpdates, frontShape, htuple]
      rfl
    | label :: payload :: rest =>
      have hfront : frontShape rawEvent = (label, payload) := by rw [frontShape, htuple]
      rw [processInterruptUpdates, htuple, hfront, filterBy]
      dsimp only
      cases label.eqStr "updates" && onlyInterruptUpdates with
      | false => rfl
      | true =>
        rw [if_pos rfl, if_pos rfl]
        cases payload.asDict.bind (PyVal.get · "__interrupt__") with
        | none => rfl
        | some interrupts =>
          dsimp only
          cases interrupts.len with
          | none => rfl
          | some length =>
            show (if 0 < length then _ else _) = some (if 0 < length then _ else _)
            split <;> rfl

/-- The detection of an interrupt goes by the second component. -/
theorem eventData_eq (rawEvent : PyVal) : eventData rawEvent = (frontShape rawEvent).2 := by
  rw [eventData, frontShape]
  split <;> rfl

/-- The detection of the output goes by the first two components. -/
theorem trackOutput_eq (finalOutput rawEvent : PyVal) :
    trackOutput finalOutput rawEvent =
      if (frontShape rawEvent).1.eqStr "values" then (frontShape rawEvent).2
      else finalOutput := by
  rw [trackOutput, frontShape]
  split <;> rfl

/-- Every reader of an event takes the same mode and payload from it. -/
structure ReadAs (rawEvent mode payload : PyVal) : Prop where
  converter : parseRawEvent rawEvent = (mode, payload)
  store : (parseProcessedEvent rawEvent).2 = (mode, payload)
  /-- The filter and the detection of the output. -/
  front : frontShape rawEvent = (mode, payload)
  interrupt : eventData rawEvent = payload

/-- **When the readers agree**: on every event that is not a triple, and on no triple. -/
theorem readAs_iff (e : GraphEvent) :
    (∃ mode payload, ReadAs e.raw mode payload) ↔ e.isNamespaced = false := by
  constructor
  · rintro ⟨mode, payload, hread⟩
    cases e with
    | moded | bare => rfl
    | namespaced path m p =>
      have hconverter : (PyVal.str m, p) = (mode, payload) := hread.converter
      have hfront : (PyVal.tuple path, PyVal.str m) = (mode, payload) := hread.front
      obtain ⟨rfl, -⟩ := Prod.mk.inj hconverter
      exact absurd (Prod.mk.inj hfront).1 (by simp)
  · intro hshape
    refine ⟨.str e.mode, e.payload, ?_⟩
    cases e with
    | moded mode payload => exact ⟨rfl, rfl, rfl, rfl⟩
    | namespaced path mode payload => cases hshape
    | bare payload hbare =>
      show ReadAs payload (.str "values") payload
      refine ⟨?_, ?_, ?_, ?_⟩
      · rw [parseRawEvent, hbare]
      · rw [parseProcessedEvent, hbare]
      · rw [frontShape, hbare]
      · rw [eventData, hbare]

/-! ### The stream of a run -/

/-- The events that the loop does not skip. -/
def heard (events : List GraphEvent) : List GraphEvent :=
  events.filter fun e => !shouldSkipEvent e.raw

/-- The payload of the last values event of the root graph, or `None`. -/
def lastRootValues (events : List GraphEvent) : PyVal :=
  ((heard events).filterMap GraphEvent.rootValues?).getLast?.getD .none

/-- The loop over the whole stream. -/
def eventLoop (onlyInterruptUpdates : Bool) (events : List GraphEvent) : Option Tracked :=
  exec (handleEvent onlyInterruptUpdates) .init (events.map GraphEvent.raw)

variable {onlyInterruptUpdates : Bool} {t t' : Tracked}

/-- One turn of the loop on an event that is not a triple. -/
theorem handleEvent_eq_some {e : GraphEvent} (hshape : e.isNamespaced = false)
    (hheard : shouldSkipEvent e.raw = false)
    (h : handleEvent onlyInterruptUpdates t e.raw = some t') :
    t'.finalOutput = e.rootValues?.getD t.finalOutput ∧
      t'.hasInterrupt = (t.hasInterrupt || carriesInterrupt e.payload) := by
  rw [handleEvent, hheard, if_neg (by simp)] at h
  obtain ⟨-, -, rfl⟩ := Option.map_eq_some_iff.mp h
  show trackOutput t.finalOutput e.raw = _ ∧
    (t.hasInterrupt || carriesInterrupt (eventData e.raw)) = _
  rw [trackOutput_eq, eventData_eq]
  cases e with
  | namespaced => cases hshape
  | moded mode payload =>
    refine ⟨?_, rfl⟩
    show (if mode == "values" then payload else t.finalOutput) =
      (if true && mode == "values" then some payload else none).getD t.finalOutput
    rw [Bool.true_and]
    split <;> rfl
  | bare payload hbare =>
    have hfront : frontShape payload = (.str "values", payload) := by rw [frontShape, hbare]
    show (if (frontShape payload).1.eqStr "values" then (frontShape payload).2 else t.finalOutput) =
      _ ∧ (t.hasInterrupt || carriesInterrupt (frontShape payload).2) = _
    rw [hfront]
    exact ⟨rfl, rfl⟩

/-- What the loop has found after a stream without triples. -/
theorem tracked_of_exec {events : List GraphEvent}
    (hshape : ∀ e ∈ events, e.isNamespaced = false)
    (h : exec (handleEvent onlyInterruptUpdates) t (events.map GraphEvent.raw) = some t') :
    t'.finalOutput =
        ((heard events).filterMap GraphEvent.rootValues?).getLast?.getD t.finalOutput ∧
      t'.hasInterrupt =
        (t.hasInterrupt || (heard events).any fun e => carriesInterrupt e.payload) := by
  induction events generalizing t with
  | nil =>
    obtain rfl := Option.some.inj h
    exact ⟨rfl, (Bool.or_false _).symm⟩
  | cons e events ih =>
    obtain ⟨t₁, ht₁, h⟩ := exec_cons_eq_some.mp h
    obtain ⟨houtput, hinterrupt⟩ := ih (fun e' he' => hshape e' (List.mem_cons_of_mem _ he')) h
    cases hskip : shouldSkipEvent e.raw with
    | true =>
      have hheard : heard (e :: events) = heard events :=
        List.filter_cons_of_neg (by simp [hskip])
      rw [handleEvent, hskip, if_pos rfl] at ht₁
      obtain rfl := Option.some.inj ht₁
      rw [hheard]
      exact ⟨houtput, hinterrupt⟩
    | false =>
      have hheard : heard (e :: events) = e :: heard events :=
        List.filter_cons_of_pos (by simp [hskip])
      obtain ⟨houtput₁, hinterrupt₁⟩ :=
        handleEvent_eq_some (hshape e List.mem_cons_self) hskip ht₁
      rw [hheard, houtput, hinterrupt, houtput₁, hinterrupt₁, List.any_cons, Bool.or_assoc]
      refine ⟨?_, rfl⟩
      cases hvalues : e.rootValues? with
      | none => rw [List.filterMap_cons_none hvalues, Option.getD_none]
      | some payload =>
        rw [List.filterMap_cons_some hvalues, List.getLast?_cons, Option.getD_some,
          Option.getD_some]

/-- **What is recorded**: when the stream has ended and the status is written, the column gets
`final_output or {}`. -/
theorem recorded_of_endOfStream {jsonb : Jsonb} {db db₁ db' : Database}
    {task task₁ task' : Task} {hasNext : Bool}
    (hends : task.step jsonb db (endOfStream t hasNext) = some (db₁, task₁))
    (hwrites : task₁.step jsonb db₁ .completes = some (db', task')) :
    ∃ json, outputColumn jsonb (orEmpty t.finalOutput) = some json ∧
      db' = updateRunStatus db task.runId
        (if t.hasInterrupt || hasNext then .interrupted else .completed) (some json) none := by
  rw [endOfStream, Task.step] at hends
  split at hends
  · obtain ⟨rfl, rfl⟩ := Prod.mk.inj (Option.some.inj hends)
    obtain ⟨db₂, hwrite, hnext⟩ := Option.bind_eq_some_iff.mp hwrites
    obtain ⟨executor, -, hnext⟩ := Option.bind_eq_some_iff.mp hnext
    obtain ⟨rfl, -⟩ := Prod.mk.inj (Option.some.inj hnext)
    obtain ⟨json, hjson, rfl⟩ := Option.map_eq_some_iff.mp hwrite
    exact ⟨json, hjson, rfl⟩
  · cases hends

/-- The events of a stream are seen rightly: the readers agree on each of them, and the loop finds
the last values of the root, which are recorded, and whether an event carries an interrupt. -/
structure SeenRightly (onlyInterruptUpdates : Bool) (events : List GraphEvent) : Prop where
  readers : ∀ e ∈ events, ∃ mode payload, ReadAs e.raw mode payload
  output : ∀ t, eventLoop onlyInterruptUpdates events = some t →
    t.finalOutput = lastRootValues events
  interrupt : ∀ t, eventLoop onlyInterruptUpdates events = some t →
    t.hasInterrupt = (heard events).any fun e => carriesInterrupt e.payload
  recorded : ∀ t, eventLoop onlyInterruptUpdates events = some t →
    ∀ (jsonb : Jsonb) (db db₁ db' : Database) (task task₁ task' : Task) (hasNext : Bool),
      task.step jsonb db (endOfStream t hasNext) = some (db₁, task₁) →
      task₁.step jsonb db₁ .completes = some (db', task') →
      ∃ json, outputColumn jsonb (orEmpty (lastRootValues events)) = some json ∧
        db' = updateRunStatus db task.runId
          (if t.hasInterrupt || hasNext then .interrupted else .completed) (some json) none

/-- **When the events of a stream are seen rightly**: exactly if the graph yields no triple. -/
theorem seenRightly_iff (onlyInterruptUpdates : Bool) (events : List GraphEvent) :
    SeenRightly onlyInterruptUpdates events ↔ ∀ e ∈ events, e.isNamespaced = false := by
  constructor
  · intro hseen e he
    exact (readAs_iff e).mp (hseen.readers e he)
  · intro hshape
    have houtput : ∀ t, eventLoop onlyInterruptUpdates events = some t →
        t.finalOutput = lastRootValues events :=
      fun t ht => (tracked_of_exec hshape ht).1
    refine ⟨fun e he => (readAs_iff e).mpr (hshape e he), houtput, fun t ht => ?_, ?_⟩
    · rw [(tracked_of_exec hshape ht).2]
      rfl
    · intro t ht jsonb db db₁ db' task task₁ task' hasNext hends hwrites
      rw [← houtput t ht]
      exact recorded_of_endOfStream hends hwrites

/-! ### A run that streams its subgraphs -/

/-- The values of the root graph, as a graph with `subgraphs=True` streams them. -/
def rootValues : GraphEvent :=
  .namespaced [] "values" (.dict [(.str "answer", .int 42)])

/-- An interrupt of the root graph. -/
def rootInterrupt : GraphEvent :=
  .namespaced [] "updates" (.dict [(.str "__interrupt__", .tuple [.interrupt .none .none])])

/-- Without triples both are found. -/
example : (eventLoop true [.moded "values" rootValues.payload,
    .moded "updates" rootInterrupt.payload]).map (·.hasInterrupt) = some true := by decide

/-- **A run that loses its output**: the loop finds neither the values nor the interrupt. -/
theorem output_lost :
    ¬ ∀ (onlyInterruptUpdates : Bool) (events : List GraphEvent),
      SeenRightly onlyInterruptUpdates events := by
  intro h
  have houtput := (h true [rootValues, rootInterrupt]).output _ rfl
  exact PyVal.noConfusion houtput

end Executor

end OpenLangGraph

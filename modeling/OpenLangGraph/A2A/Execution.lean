import OpenLangGraph.A2A.Converter
import OpenLangGraph.Foundation.PyVal

/-!
# Executing a call of another agent

`execute` and `_process_chunk` of `a2a/executor.py`: what a call puts into the queue of events, and
how it ends, for every sequence of chunks that the graph streams and wherever the graph or the queue
raises.

## One outcome

A call is to return with one final status, the last event, or to raise `ServerError` without one;
to raise only if the graph or the queue did; and on completion to send the text of the chunks. It
does otherwise in these cases.

* The task is created and put into the queue before the `try`, so that an exception of the queue
  reaches the caller as it is; and of what the `try` encloses, `except Exception` lets pass what is
  no `Exception`, such as a cancellation.
* The content of a chunk may be a list of blocks, for which there is no text message; and a full
  message with such a content is kept as it is, and cannot be added to or sent.
* A full message takes the place of the text before it, where a chunk is added to it.
* A chunk that is no tuple may still have two items, and the second need not be a dictionary; and
  the message of an interrupt may be any value.

## Implementation notes

A call is given with everything that answers it: what the graph streams and how it ends, and for
every number of events what the queue does with the next one. `TaskUpdater` refuses a status after
the final one; nothing here sends one.

Of the objects that are not of LangChain, only dictionaries have `get`.

## Main definitions

* `Chunk`, `Call` — what the graph streams, and a call with all its answers
* `processChunk`, `stream`, `execute`
* `OneOutcome` — what is asked
* `Turn`, `Call.soundFrom`, `Call.sound` — when it is so

## Main results

* `oneOutcome_iff` — which calls have one outcome
* `completion_of_blocks` — a call that the graph and the queue serve, and that raises
-/

namespace OpenLangGraph

namespace A2A

/-! ### What the graph streams -/

/-- `AIMessage` and `AIMessageChunk`, with their content. -/
inductive AiMessage
  | message (content : Content)
  | chunk (content : Content)

/-- What a chunk may be unpacked into. -/
inductive Item
  | ai (message : AiMessage)
  | value (v : PyVal)

/-- A chunk of `stream_mode="messages"`. -/
inductive Chunk
  | tuple (message : AiMessage) (metadata : List (PyKey × PyVal))
  /-- Something else, with the items that iterating it gives; `none` if it cannot be iterated, which
  is a `TypeError`. -/
  | other (items : Option (List Item))
  /-- An object that raises something else when it is iterated. -/
  | broken

/-- `message, metadata = chunk`: the two, or `none` if this is a `TypeError` or a `ValueError`. Any
other exception is an error. -/
def Chunk.unpack : Chunk → Except Unit (Option (Item × Item))
  | .tuple message metadata => .ok (some (.ai message, .value (.dict metadata)))
  | .other (some [message, metadata]) => .ok (some (message, metadata))
  | .other _ => .ok none
  | .broken => .error ()

/-- `bool(content)` -/
def Content.truthy : Content → Bool
  | .str s => s ≠ ""
  | .blocks items => !items.isEmpty

/-! ### A call -/

inductive TaskState
  | working
  | inputRequired
  | completed
deriving DecidableEq

/-- An event of the queue. -/
inductive Event
  | task
  | status (state : TaskState) (message : Option String) (final : Bool)
  | artifact (text : String)
deriving DecidableEq

/-- What the queue does with an event. -/
inductive Reply
  | takes
  | raises (isException : Bool)

/-- How the stream of the graph ends. -/
inductive GraphEnd
  | finishes
  | raises (isException : Bool)

/-- What an exception comes from. -/
inductive Cause
  | graph
  | queue
  | other
deriving DecidableEq

inductive Outcome
  | returned
  /-- `ServerError`, from an exception of this cause. -/
  | serverError (cause : Cause)
  /-- An exception of this cause, as it is. -/
  | raised (cause : Cause)
deriving DecidableEq

/-- A call, and what answers it. -/
structure Call where
  /-- `context.current_task` is there. -/
  currentTask : Bool
  /-- `new_task(message)` returns. -/
  taskCreated : Bool
  message : AnyMessage
  chunks : List Chunk
  graphEnd : GraphEnd
  /-- What the queue does with an event, if it has taken so many of this call. -/
  queue : ℕ → Reply

/-! ### The execution -/

/-- `new_agent_text_message(text, …)`, as far as the text goes: there is one for a string only. -/
def textMessage : Content → Option String
  | .str s => some s
  | .blocks _ => none

/-- `accumulated + delta` -/
def Content.add : Content → Content → Option Content
  | .str s, .str t => some (.str (s ++ t))
  | .blocks s, .blocks t => some (.blocks (s ++ t))
  | _, _ => none

/-- What a chunk leads to: the event that is put into the queue, if any, and what the result is
after that: what is accumulated, and whether input is required. No result is an exception. -/
structure ChunkResult where
  event : Option Event
  result : Option (Content × Bool)

/-- `_process_chunk` -/
def processChunk (chunk : Chunk) (accumulated : Content) : ChunkResult :=
  match chunk.unpack with
  | .error () => ⟨none, none⟩
  | .ok none => ⟨none, some (accumulated, false)⟩
  | .ok (some (message, .value (.dict metadata))) =>
    if ((PyVal.get metadata "langgraph_interrupt").getD .none).truthy then
      match (PyVal.get metadata "langgraph_interrupt_message").getD (.str "User input required") with
      | .str interruptMsg =>
        ⟨some (.status .inputRequired (some interruptMsg) true), some (accumulated, true)⟩
      | _ => ⟨none, none⟩
    else
      match message with
      | .ai (.chunk delta) =>
        if delta.truthy then
          match textMessage delta with
          | some text =>
            ⟨some (.status .working (some text) false),
              (accumulated.add delta).map fun content => (content, false)⟩
          | none => ⟨none, none⟩
        else ⟨none, some (accumulated, false)⟩
      | .ai (.message content) =>
        ⟨none, some (if content.truthy then content else accumulated, false)⟩
      | .value _ => ⟨none, some (accumulated, false)⟩
  | .ok (some _) => ⟨none, none⟩

/-- How the part of a call that is in the `try` ends: `none` if it returns, else the cause of the
exception and whether it is an `Exception`. -/
abbrev Ending := Option (Cause × Bool)

/-- `event_queue.enqueue_event(event)`, and what comes after it. -/
def enqueue (call : Call) (event : Event) (events : List Event)
    (next : List Event → Ending × List Event) : Ending × List Event :=
  match call.queue events.length with
  | .takes => next (events ++ [event])
  | .raises isException => (some (.queue, isException), events)

/-- After the loop. -/
def finish (call : Call) (accumulated : Content) (events : List Event) : Ending × List Event :=
  let complete := fun events =>
    enqueue call (.status .completed none true) events fun events => (none, events)
  if accumulated.truthy then
    match textMessage accumulated with
    | some text => enqueue call (.artifact text) events complete
    | none => (some (.other, true), events)
  else complete events

/-- The loop over the chunks. -/
def stream (call : Call) : List Chunk → Content → List Event → Ending × List Event
  | [], accumulated, events =>
    match call.graphEnd with
    | .finishes => finish call accumulated events
    | .raises isException => (some (.graph, isException), events)
  | chunk :: chunks, accumulated, events =>
    let next := fun events =>
      match (processChunk chunk accumulated).result with
      | none => (some (.other, true), events)
      | some (_, true) => (none, events)
      | some (accumulated, false) => stream call chunks accumulated events
    match (processChunk chunk accumulated).event with
    | some event => enqueue call event events next
    | none => next events

/-- What the `try` encloses. -/
def body (str : Json → String) (call : Call) (events : List Event) : Ending × List Event :=
  match a2aToLangchain str call.message with
  | .error _ => (some (.other, true), events)
  | .ok _ => stream call call.chunks (.str "") events

/-- `except Exception` -/
def handled : Ending → Outcome
  | none => .returned
  | some (cause, true) => .serverError cause
  | some (cause, false) => .raised cause

/-- `execute`: how it ends, and the events that the queue has taken. -/
def execute (str : Json → String) (call : Call) : Outcome × List Event :=
  let run := fun events => ((handled (body str call events).1), (body str call events).2)
  if call.currentTask then run []
  else if call.taskCreated then
    match call.queue 0 with
    | .takes => run [.task]
    | .raises _ => (.raised .queue, [])
  else (.raised .other, [])

/-! ### What is asked -/

/-- `AIMessage.text`: the text in the blocks. -/
def Content.text : Content → String
  | .str s => s
  | .blocks items => String.join (items.map fun
      | .str s => s
      | .obj block =>
        match block.lookup "type", block.lookup "text" with
        | some (.str "text"), some (.str s) => s
        | _, _ => ""
      | _ => "")

/-- The text of the message of a chunk, if there are two items and the first one is a message. -/
def Chunk.text (chunk : Chunk) : String :=
  match chunk.unpack with
  | .ok (some (.ai (.message content), _)) | .ok (some (.ai (.chunk content), _)) => content.text
  | _ => ""

/-- The text of the chunks, in order. -/
def Call.text (call : Call) : String := String.join (call.chunks.map Chunk.text)

def Event.isFinal : Event → Bool
  | .status _ _ final => final
  | .task | .artifact _ => false

def Event.artifactText : Event → Option String
  | .artifact text => some text
  | .task | .status _ _ _ => none

/-- The call has returned, and one event is final, the last; on completion there is one artifact,
with this text, or none if there is no text. Or it has raised `ServerError`, because the graph or
the queue raised, and no event is final. -/
def IsOneOutcome (text : String) : Outcome × List Event → Prop
  | (.returned, events) =>
    ∃ before state message, events = before ++ [.status state message true] ∧
      (∀ event ∈ before, event.isFinal = false) ∧
        (state = .completed → events.filterMap Event.artifactText =
          if text = "" then [] else [text])
  | (.serverError cause, events) => cause ≠ .other ∧ ∀ event ∈ events, event.isFinal = false
  | (.raised _, _) => False

/-- The call has one outcome, with the text of its chunks. -/
def OneOutcome (str : Json → String) (call : Call) : Prop :=
  IsOneOutcome call.text (execute str call)

/-! ### When it is so -/

/-- What a chunk is to the loop. -/
inductive Turn
  /-- Nothing to do: it has not two items, or the first is no message of an AI or has no content. -/
  | skip
  /-- It cannot be read: the second item is no dictionary, or iterating it raises. -/
  | broken
  | interrupt (message : PyVal)
  | delta (content : Content)
  | full (content : Content)

def Chunk.turn (chunk : Chunk) : Turn :=
  match chunk.unpack with
  | .error () => .broken
  | .ok none => .skip
  | .ok (some (message, .value (.dict metadata))) =>
    if ((PyVal.get metadata "langgraph_interrupt").getD .none).truthy then
      .interrupt ((PyVal.get metadata "langgraph_interrupt_message").getD
        (.str "User input required"))
    else
      match message with
      | .ai (.chunk content) => if content.truthy then .delta content else .skip
      | .ai (.message content) => if content.truthy then .full content else .skip
      | .value _ => .skip
  | .ok (some _) => .broken

def Content.isStr : Content → Bool
  | .str _ => true
  | .blocks _ => false

def isPyStr : PyVal → Bool
  | .str _ => true
  | _ => false

/-- The queue takes the event, or what it raises is an `Exception`. -/
def Reply.isOrderly : Reply → Bool
  | .takes => true
  | .raises isException => isException

def joined (contents : List Content) : String := String.join (contents.map Content.text)

/-- The last events of a completed call: the first one that the queue does not take ends the call
with an `Exception`, or the queue takes all of them and no text has been replaced. -/
def settles (replaced : String) : List Reply → Bool
  | [] => replaced = ""
  | .takes :: replies => settles replaced replies
  | .raises isException :: _ => isException

/-- The loop goes well from here on, if the queue has taken `n` events, `kept` is what has come
since the last full message, this one included, and `replaced` is the text that came before it. -/
def Call.soundFrom (call : Call) (kept : List Content) (replaced : String) :
    List Chunk → ℕ → Bool
  | [], n =>
    match call.graphEnd with
    | .raises isException => isException
    | .finishes => kept.all Content.isStr &&
      settles replaced
        (if joined kept = "" then [call.queue n] else [call.queue n, call.queue (n + 1)])
  | chunk :: chunks, n =>
    match chunk.turn with
    | .skip => call.soundFrom kept replaced chunks n
    | .broken => false
    | .interrupt message => isPyStr message && (call.queue n).isOrderly
    | .delta content => content.isStr &&
      match call.queue n with
      | .raises isException => isException
      | .takes => kept.all Content.isStr &&
        call.soundFrom (kept ++ [content]) replaced chunks (n + 1)
    | .full content => call.soundFrom [content] (replaced ++ joined kept) chunks n

/-- A task that is created is also taken by the queue, the message can be converted, and the loop
goes well. -/
def Call.sound (str : Json → String) (call : Call) : Bool :=
  (a2aToLangchain str call.message).isOk &&
    if call.currentTask then call.soundFrom [] "" call.chunks 0
    else call.taskCreated &&
      match call.queue 0 with
      | .takes => call.soundFrom [] "" call.chunks 1
      | .raises _ => false

/-! ### One turn of the loop -/

variable {str : Json → String} {call : Call} {chunk : Chunk} {accumulated : Content}
  {events : List Event}

/-- What a chunk leads to, told by what it is to the loop. -/
theorem processChunk_eq (chunk : Chunk) (accumulated : Content) :
    processChunk chunk accumulated =
      match chunk.turn with
      | .skip => ⟨none, some (accumulated, false)⟩
      | .broken => ⟨none, none⟩
      | .interrupt (.str message) =>
        ⟨some (.status .inputRequired (some message) true), some (accumulated, true)⟩
      | .interrupt _ => ⟨none, none⟩
      | .delta (.str text) =>
        ⟨some (.status .working (some text) false),
          (accumulated.add (.str text)).map fun content => (content, false)⟩
      | .delta (.blocks _) => ⟨none, none⟩
      | .full content => ⟨none, some (content, false)⟩ := by
  rw [processChunk, Chunk.turn]
  cases chunk.unpack with
  | error e => rfl
  | ok items =>
    rcases items with _ | ⟨message, _ | value⟩
    · rfl
    · rfl
    · cases value with
      | dict metadata =>
        dsimp only
        split
        · cases (PyVal.get metadata "langgraph_interrupt_message").getD
            (.str "User input required") <;> rfl
        · rcases message with (content | delta) | value
          · by_cases htruthy : content.truthy = true <;> simp [htruthy]
          · cases delta with
            | str text =>
              by_cases htruthy : (Content.str text).truthy = true <;> simp [htruthy, textMessage]
            | blocks items =>
              by_cases htruthy : (Content.blocks items).truthy = true <;>
                simp [htruthy, textMessage]
          · rfl
      | _ => rfl

/-- A turn of the loop, told by what the chunk is to it. -/
theorem stream_cons (chunks : List Chunk) :
    stream call (chunk :: chunks) accumulated events =
      match chunk.turn with
      | .skip => stream call chunks accumulated events
      | .broken => (some (.other, true), events)
      | .interrupt (.str message) =>
        enqueue call (.status .inputRequired (some message) true) events fun events =>
          (none, events)
      | .interrupt _ => (some (.other, true), events)
      | .delta (.str text) =>
        enqueue call (.status .working (some text) false) events fun events =>
          match accumulated.add (.str text) with
          | some content => stream call chunks content events
          | none => (some (.other, true), events)
      | .delta (.blocks _) => (some (.other, true), events)
      | .full content => stream call chunks content events := by
  rw [stream, processChunk_eq]
  cases chunk.turn with
  | skip | broken | full => rfl
  | interrupt message => cases message <;> rfl
  | delta content =>
    cases content with
    | str text => cases hadd : accumulated.add (.str text) <;> simp [hadd]
    | blocks items => rfl

theorem enqueue_of_takes {event : Event} {next : List Event → Ending × List Event}
    (h : call.queue events.length = .takes) :
    enqueue call event events next = next (events ++ [event]) := by
  rw [enqueue, h]

theorem enqueue_of_raises {event : Event} {next : List Event → Ending × List Event}
    {isException : Bool} (h : call.queue events.length = .raises isException) :
    enqueue call event events next = (some (.queue, isException), events) := by
  rw [enqueue, h]

/-! ### How the loop ends -/

/-- What the `try` encloses ends with one outcome. -/
def EndsWell (text : String) : Ending × List Event → Prop
  | (none, events) =>
    ∃ before state message, events = before ++ [.status state message true] ∧
      (∀ event ∈ before, event.isFinal = false) ∧
        (state = .completed → events.filterMap Event.artifactText =
          if text = "" then [] else [text])
  | (some (cause, isException), events) =>
    isException = true ∧ cause ≠ .other ∧ ∀ event ∈ events, event.isFinal = false

/-- No final event, and no artifact. -/
def Open (events : List Event) : Prop :=
  (∀ event ∈ events, event.isFinal = false) ∧ events.filterMap Event.artifactText = []

variable {text : String} {kept : List Content} {replaced : String}

theorem not_endsWell_other : ¬EndsWell text (some (.other, true), events) := fun h => h.2.1 rfl

theorem endsWell_raised {cause : Cause} (hcause : cause ≠ .other)
    (hevents : ∀ event ∈ events, event.isFinal = false) (isException : Bool) :
    EndsWell text (some (cause, isException), events) ↔ isException = true :=
  ⟨fun h => h.1, fun h => ⟨h, hcause, hevents⟩⟩

theorem endsWell_returned {state : TaskState} {message : Option String}
    (hevents : ∀ event ∈ events, event.isFinal = false) :
    EndsWell text (none, events ++ [.status state message true]) ↔
      (state = .completed → events.filterMap Event.artifactText =
        if text = "" then [] else [text]) := by
  have hlast : (events ++ [Event.status state message true]).filterMap Event.artifactText =
      events.filterMap Event.artifactText := by
    rw [List.filterMap_append]
    exact List.append_nil _
  constructor
  · rintro ⟨before, state', message', heq, -, hartifact⟩
    obtain ⟨-, hstatus⟩ := List.append_inj' heq rfl
    obtain ⟨rfl, -⟩ := Event.status.inj (List.cons.inj hstatus).1
    rw [← hlast]
    exact hartifact
  · intro h
    refine ⟨events, state, message, rfl, hevents, ?_⟩
    rw [hlast]
    exact h

theorem Open.append_working (h : Open events) (message : Option String) :
    Open (events ++ [.status .working message false]) := by
  refine ⟨?_, ?_⟩
  · rw [List.forall_mem_append]
    exact ⟨h.1, List.forall_mem_singleton.mpr rfl⟩
  · rw [List.filterMap_append, h.2]
    rfl

/-- What has been accumulated of what was kept: its text, or the blocks that it began with. -/
def Keeps (kept : List Content) (accumulated : Content) : Prop :=
  if kept.all Content.isStr = true then accumulated = .str (joined kept)
  else ∃ items, items ≠ [] ∧ accumulated = .blocks items

theorem joined_append (contents contents' : List Content) :
    joined (contents ++ contents') = joined contents ++ joined contents' := by
  rw [joined, List.map_append, String.join_append]
  rfl

theorem joined_singleton (content : Content) : joined [content] = content.text := by
  simp [joined]

theorem keeps_full {content : Content} (h : content.truthy = true) : Keeps [content] content := by
  cases content with
  | str s => simp [Keeps, Content.isStr, joined_singleton, Content.text]
  | blocks items =>
    have hne : items ≠ [] := by
      rintro rfl
      cases h
    simp [Keeps, Content.isStr, hne]

theorem Keeps.append (h : Keeps kept accumulated) (hkept : kept.all Content.isStr = true)
    (s : String) : ∃ content, accumulated.add (.str s) = some content ∧
      Keeps (kept ++ [.str s]) content := by
  rw [Keeps, if_pos hkept] at h
  subst h
  refine ⟨_, rfl, ?_⟩
  have hall : (kept ++ [Content.str s]).all Content.isStr = true := by
    rw [List.all_append, hkept]
    rfl
  rw [Keeps, if_pos hall, joined_append, joined_singleton]
  rfl

/-- The text that was kept is all the text if nothing else came before it. -/
theorem artifact_eq_iff {s t : String} :
    (if t = "" then [] else [t]) = (if s ++ t = "" then [] else [s ++ t]) ↔ s = "" := by
  by_cases ht : t = ""
  · subst ht
    by_cases hs : s = "" <;> simp [hs]
  · have hst : s ++ t ≠ "" := fun h => ht (String.append_eq_empty_iff.mp h).2
    rw [if_neg ht, if_neg hst, List.singleton_inj]
    constructor
    · intro h
      have hlength := congrArg String.length h
      rw [String.length_append] at hlength
      exact String.length_eq_zero_iff.mp (by omega)
    · rintro rfl
      rw [String.empty_append]

theorem endsWell_complete (call : Call) (replaced : String)
    (hevents : ∀ event ∈ events, event.isFinal = false)
    (hartifact : events.filterMap Event.artifactText =
      if joined kept = "" then [] else [joined kept]) :
    EndsWell (replaced ++ joined kept)
        (enqueue call (.status .completed none true) events fun events => (none, events)) ↔
      settles replaced [call.queue events.length] = true := by
  cases hreply : call.queue events.length with
  | takes =>
    rw [enqueue_of_takes hreply, endsWell_returned hevents, hartifact, settles, settles,
      decide_eq_true_eq, imp_iff_right rfl, artifact_eq_iff]
  | raises isException =>
    rw [enqueue_of_raises hreply, endsWell_raised (by decide) hevents, settles]

/-- **The end of a call**: what is left to send when the graph has finished. -/
theorem endsWell_finish (hkeeps : Keeps kept accumulated) (hopen : Open events) :
    EndsWell (replaced ++ joined kept) (finish call accumulated events) ↔
      (kept.all Content.isStr && settles replaced (if joined kept = "" then
        [call.queue events.length]
        else [call.queue events.length, call.queue (events.length + 1)])) = true := by
  by_cases hkept : kept.all Content.isStr = true
  · rw [Keeps, if_pos hkept] at hkeeps
    subst hkeeps
    rw [hkept, Bool.true_and, finish]
    by_cases htext : joined kept = ""
    · have hfalsy : (Content.str (joined kept)).truthy = false :=
        decide_eq_false (not_not.mpr htext)
      rw [hfalsy, if_neg Bool.false_ne_true, if_pos htext]
      exact endsWell_complete call replaced hopen.1 (by rw [hopen.2, if_pos htext])
    · have htruthy : (Content.str (joined kept)).truthy = true := decide_eq_true htext
      rw [htruthy, if_pos rfl, if_neg htext]
      show EndsWell _ (enqueue call (.artifact (joined kept)) events _) ↔ _
      cases hreply : call.queue events.length with
      | takes =>
        rw [enqueue_of_takes hreply, settles]
        have hevents : ∀ event ∈ events ++ [Event.artifact (joined kept)], event.isFinal = false :=
          List.forall_mem_append.mpr ⟨hopen.1, List.forall_mem_singleton.mpr rfl⟩
        have hartifact : (events ++ [Event.artifact (joined kept)]).filterMap Event.artifactText =
            if joined kept = "" then [] else [joined kept] := by
          rw [List.filterMap_append, hopen.2, if_neg htext]
          rfl
        have hcomplete := endsWell_complete call replaced hevents hartifact
        rw [List.length_append, List.length_singleton] at hcomplete
        exact hcomplete
      | raises isException =>
        rw [enqueue_of_raises hreply, endsWell_raised (by decide) hopen.1, settles]
  · rw [Keeps, if_neg hkept] at hkeeps
    obtain ⟨items, hitems, rfl⟩ := hkeeps
    have htruthy : (Content.blocks items).truthy = true := by
      simpa [Content.truthy] using hitems
    rw [finish, htruthy, if_pos rfl, Bool.eq_false_of_not_eq_true hkept, Bool.false_and]
    exact iff_of_false not_endsWell_other Bool.false_ne_true

/-- The text of the chunks from some place on. -/
def textFrom (chunks : List Chunk) : String := String.join (chunks.map Chunk.text)

theorem textFrom_cons (chunk : Chunk) (chunks : List Chunk) :
    textFrom (chunk :: chunks) = chunk.text ++ textFrom chunks := by
  rw [textFrom, List.map_cons, String.join_cons]
  rfl

/-- A content that counts for nothing has no text. -/
theorem text_of_not_truthy {content : Content} (h : ¬content.truthy = true) :
    content.text = "" := by
  cases content with
  | str s => simpa [Content.truthy, Content.text] using h
  | blocks items =>
    have hnil : items = [] := by simpa [Content.truthy] using h
    rw [hnil]
    rfl

/-- A chunk with this text may be this to the loop. -/
def Turn.Says (text : String) : Turn → Prop
  | .skip => text = ""
  | .delta content | .full content => text = content.text ∧ content.truthy = true
  | .broken | .interrupt _ => True

theorem says_turn (chunk : Chunk) : chunk.turn.Says chunk.text := by
  rw [Chunk.turn, Chunk.text]
  cases chunk.unpack with
  | error e => trivial
  | ok items =>
    rcases items with _ | ⟨message, _ | value⟩
    · rfl
    · trivial
    · cases value with
      | dict metadata =>
        dsimp only
        by_cases hinterrupt : ((PyVal.get metadata "langgraph_interrupt").getD .none).truthy = true
        · rw [if_pos hinterrupt]
          trivial
        · rw [if_neg hinterrupt]
          rcases message with (content | content) | value
          · by_cases h : content.truthy = true <;> simp [Turn.Says, h, text_of_not_truthy]
          · by_cases h : content.truthy = true <;> simp [Turn.Says, h, text_of_not_truthy]
          · rfl
      | _ => trivial

/-- **The loop**, from any place on. -/
theorem endsWell_stream (chunks : List Chunk) (hkeeps : Keeps kept accumulated)
    (hopen : Open events) :
    EndsWell (replaced ++ joined kept ++ textFrom chunks) (stream call chunks accumulated events) ↔
      call.soundFrom kept replaced chunks events.length = true := by
  induction chunks generalizing kept replaced accumulated events with
  | nil =>
    rw [stream, Call.soundFrom]
    have htext : replaced ++ joined kept ++ textFrom [] = replaced ++ joined kept :=
      String.append_empty
    rw [htext]
    cases call.graphEnd with
    | finishes => exact endsWell_finish hkeeps hopen
    | raises isException => exact endsWell_raised (by decide) hopen.1 isException
  | cons chunk chunks ih =>
    have hsaid := says_turn chunk
    rw [stream_cons, Call.soundFrom, textFrom_cons]
    cases hturn : chunk.turn with
    | skip =>
      rw [hturn] at hsaid
      rw [hsaid, String.empty_append]
      exact ih hkeeps hopen
    | broken => exact iff_of_false not_endsWell_other Bool.false_ne_true
    | interrupt message =>
      cases message with
      | str message =>
        dsimp only
        rw [isPyStr, Bool.true_and]
        cases hreply : call.queue events.length with
        | takes =>
          rw [enqueue_of_takes hreply, endsWell_returned hopen.1]
          exact iff_of_true (fun h => by cases h) rfl
        | raises isException =>
          rw [enqueue_of_raises hreply, endsWell_raised (by decide) hopen.1, Reply.isOrderly]
      | _ => exact iff_of_false not_endsWell_other Bool.false_ne_true
    | delta content =>
      rw [hturn] at hsaid
      cases content with
      | blocks items => exact iff_of_false not_endsWell_other Bool.false_ne_true
      | str s =>
        dsimp only
        rw [Content.isStr, Bool.true_and]
        cases hreply : call.queue events.length with
        | raises isException =>
          rw [enqueue_of_raises hreply, endsWell_raised (by decide) hopen.1]
        | takes =>
          rw [enqueue_of_takes hreply]
          by_cases hkept : kept.all Content.isStr = true
          · obtain ⟨content, hadd, hkeeps'⟩ := hkeeps.append hkept s
            have htext : replaced ++ joined kept ++ (chunk.text ++ textFrom chunks) =
                replaced ++ joined (kept ++ [.str s]) ++ textFrom chunks := by
              rw [joined_append, joined_singleton, hsaid.1, String.append_assoc,
                String.append_assoc, String.append_assoc]
            have hih := @ih content _ _ replaced hkeeps' (hopen.append_working (some s))
            rw [List.length_append, List.length_singleton] at hih
            rw [hadd, hkept, Bool.true_and, htext]
            exact hih
          · have hblocks := hkeeps
            rw [Keeps, if_neg hkept] at hblocks
            obtain ⟨items, -, rfl⟩ := hblocks
            rw [Bool.eq_false_of_not_eq_true hkept, Bool.false_and]
            exact iff_of_false not_endsWell_other Bool.false_ne_true
    | full content =>
      rw [hturn] at hsaid
      have htext : replaced ++ joined kept ++ (chunk.text ++ textFrom chunks) =
          replaced ++ joined kept ++ joined [content] ++ textFrom chunks := by
        rw [joined_singleton, hsaid.1, ← String.append_assoc]
      rw [htext]
      exact ih (keeps_full hsaid.2) hopen

/-! ### Calls -/

theorem keeps_nil : Keeps [] (.str "") := rfl

theorem open_nil : Open [] := ⟨List.forall_mem_nil _, rfl⟩

theorem endsWell_body (hopen : Open events) :
    EndsWell call.text (body str call events) ↔
      ((a2aToLangchain str call.message).isOk &&
        call.soundFrom [] "" call.chunks events.length) = true := by
  rw [body]
  cases a2aToLangchain str call.message with
  | error e => exact iff_of_false not_endsWell_other Bool.false_ne_true
  | ok message =>
    have htext : call.text = "" ++ joined [] ++ textFrom call.chunks := by
      rw [Call.text, textFrom, joined, List.map_nil, String.join_nil, String.empty_append,
        String.empty_append]
    rw [htext]
    exact endsWell_stream call.chunks keeps_nil hopen

theorem isOneOutcome_handled (ending : Ending) (events : List Event) :
    IsOneOutcome text (handled ending, events) ↔ EndsWell text (ending, events) := by
  rcases ending with _ | ⟨cause, _ | _⟩
  · exact Iff.rfl
  · exact iff_of_false id fun h => Bool.false_ne_true h.1
  · exact ⟨fun h => ⟨rfl, h⟩, fun h => h.2⟩

/-- **Which calls have one outcome**: those whose task is created and taken, whose message can be
converted, and whose loop goes well. -/
theorem oneOutcome_iff (str : Json → String) (call : Call) :
    OneOutcome str call ↔ call.sound str = true := by
  rw [OneOutcome, execute, Call.sound]
  cases call.currentTask with
  | true => exact (isOneOutcome_handled _ _).trans (endsWell_body open_nil)
  | false =>
    cases call.taskCreated with
    | false => exact iff_of_false id (by simp)
    | true =>
      cases call.queue 0 with
      | takes =>
        have hopen : Open [.task] := ⟨List.forall_mem_singleton.mpr rfl, rfl⟩
        exact (isOneOutcome_handled _ _).trans (endsWell_body hopen)
      | raises isException => exact iff_of_false id (by simp)

/-- The graph streams one chunk whose content is a list of blocks; nothing raises. -/
def blocksCall : Call where
  currentTask := true
  taskCreated := true
  message := .message .user [.text "hi"]
  chunks := [.tuple (.chunk (.blocks [.obj [("type", .str "text"), ("text", .str "hello")]])) []]
  graphEnd := .finishes
  queue _ := .takes

/-- The call raises `ServerError` although neither the graph nor the queue did. -/
theorem completion_of_blocks :
    execute (fun _ => "") blocksCall = (.serverError .other, []) ∧
      ¬∀ (str : Json → String) (call : Call), OneOutcome str call := by
  have hexecute : execute (fun _ => "") blocksCall = (.serverError .other, []) := rfl
  refine ⟨hexecute, fun h => ?_⟩
  have hone := h (fun _ => "") blocksCall
  rw [OneOutcome, hexecute] at hone
  exact hone.1 rfl

end A2A

end OpenLangGraph

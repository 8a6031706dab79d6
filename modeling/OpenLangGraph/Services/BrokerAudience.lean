import OpenLangGraph.Foundation.SharedQueue
import OpenLangGraph.Services.BrokerQueue
import OpenLangGraph.Services.RunStreamOrder

/-!
# The clients that follow one run

Any number of clients that follow a run through `stream_run_execution`, which reads the broker with
`aiter`. The broker has one queue, and an event that one client takes from it is gone for all.

## What the docstrings say

`RunBroker` is documented to give the same events to several consumers. Nothing in the endpoints
keeps a second client from attaching, and nothing in the broker copies an event.

## Main definitions

* `RunBroker.Audience` — the broker, and the clients that are or were attached to it
* `RunBroker.audienceStep`

## Main results

* `RunBroker.read_of_consume`, `RunBroker.turn_of_consume` — a client of the audience takes the
  steps of the consumer of `RunStream`
* `RunBroker.everyone_served_iff` — when every client is sent the whole run
-/

open PyString

namespace OpenLangGraph

open Transition SharedQueue

namespace RunBroker

open RunStream (Setup Consumer lastSentSequence replayRow liveEvent)
open EventStore EventConverter

/-! ### A client -/

/-- What a client waits for beside the queue. -/
inductive Answer
  /-- the rows of the replay query; `none` if it raises -/
  | rows (rows : Option (List Row))
  /-- nothing -/
  | next

/-- A stream that has ended has no state any more. -/
def goesOn : Consumer → Option Consumer
  | .absent | .ended _ => none
  | consumer => some consumer

/-- The message of the event is sent: it is not taken for one that was sent before, and the
conversion does not raise. -/
def passesOn (S : Setup) (lastSent : ℤ) (event : Str × PyVal) : Bool :=
  lastSent < S.seq event.1 && (convertRawToSse event.1 event.2).isSome

/-- One turn of `_stream_live_events`. -/
def read (S : Setup) : Consumer → Str × PyVal → Option (Bool × Option Consumer)
  | .live lastSent, event =>
    some (passesOn S lastSent event,
      goesOn (liveEvent S RunStream.init lastSent event.1 event.2).consumer)
  | .absent, _ | .connected _ _, _ | .replaying _ _ _, _ | .ended _, _ => none

/-- The steps of a stream beside the queue. -/
def turn (S : Setup) : Consumer → (closed empty : Bool) → Answer → Option (Option Consumer)
  | .connected status lastEventId, _, _, .rows rows =>
    some (rows.map fun rows => .replaying status (lastSentSequence S lastEventId) rows)
  | .replaying status lastSent (row :: rows), _, _, .next =>
    some (goesOn (replayRow S RunStream.init status lastSent row rows).consumer)
  | .replaying status lastSent [], closed, _, .next =>
    some (if status.isOver && closed then none else some (.live lastSent))
  | .live _, closed, empty, .next => if closed && empty then some none else none
  | _, _, _, _ => none

/-- The clients of a run. -/
def client (S : Setup) : Behaviour (Str × PyVal) Consumer Answer := ⟨read S, turn S⟩

/-! ### The audience -/

abbrev Audience := SharedQueue.State (Str × PyVal) Consumer

abbrev AudienceLabel := SharedQueue.Label (Str × PyVal) Consumer Answer

def audienceStep (S : Setup) : Audience → AudienceLabel → Option Audience :=
  SharedQueue.step (queueConfig S.broker) (client S)

/-- A client calls `stream_run_execution`, for a run that was read with the given status. -/
def attach (status : RunStatus) (lastEventId : Option Str) : AudienceLabel :=
  .attach (.connected status (lastEventId.filter (· ≠ [])))

/-! ### A client takes the steps of the consumer of a run -/

variable {S : Setup} {s s' : RunStream.State} {lastSent : ℤ}

theorem liveEvent_consumer (S : Setup) (s t : RunStream.State) (lastSent : ℤ)
    (event : Str × PyVal) :
    (liveEvent S s lastSent event.1 event.2).consumer =
      (liveEvent S t lastSent event.1 event.2).consumer := by
  rw [liveEvent, liveEvent]
  dsimp only
  split
  · rfl
  · split <;> rfl

theorem replayRow_consumer (S : Setup) (s t : RunStream.State) (status : RunStatus) (lastSent : ℤ)
    (row : Row) (rows : List Row) :
    (replayRow S s status lastSent row rows).consumer =
      (replayRow S t status lastSent row rows).consumer := by
  rw [replayRow, replayRow]
  split <;> rfl

/-- **Reading**: the consumer of a run that takes an event does what a client does, and an event
that is passed on is one whose message is sent. -/
theorem read_of_consume {event : Str × PyVal} {queue : List (Str × PyVal)}
    (hlive : s.consumer = .live lastSent) (hqueue : s.broker.queue = event :: queue)
    (h : RunStream.consume S s = some s') :
    read S s.consumer event = some (passesOn S lastSent event, goesOn s'.consumer) ∧
      (passesOn S lastSent event = true → ∃ message,
        convertRawToSse event.1 event.2 = some message ∧ s'.sent = s.sent ++ message.toList) := by
  rw [RunStream.consume, hlive] at h
  dsimp only at h
  rw [takeNext, hqueue] at h
  obtain rfl := Option.some.inj h
  refine ⟨?_, fun hpasses => ?_⟩
  · rw [hlive, read, liveEvent_consumer S RunStream.init]
  · rw [passesOn, Bool.and_eq_true, decide_eq_true_eq] at hpasses
    obtain ⟨hsequence, hconverted⟩ := hpasses
    obtain ⟨message, hmessage⟩ := Option.isSome_iff_exists.mp hconverted
    refine ⟨message, hmessage, ?_⟩
    rw [liveEvent]
    dsimp only
    rw [if_neg (by omega), hmessage]
    cases message with
    | none => exact (List.append_nil _).symm
    | some message => rfl

/-- **Beside the queue**, too, the consumer of a run does what a client does. -/
theorem turn_of_consume {next : Option Consumer} {answer : Answer}
    (hturn : turn S s.consumer s.broker.finished s.broker.queue.isEmpty answer = some next)
    (hrows : ∀ status lastEventId, s.consumer = .connected status lastEventId →
      answer = .rows (some (RunStream.replayRows S s.table lastEventId))) :
    ∃ s', RunStream.consume S s = some s' ∧ goesOn s'.consumer = next := by
  cases hconsumer : s.consumer with
  | absent | ended =>
    rw [hconsumer] at hturn
    cases answer <;> cases hturn
  | connected status lastEventId =>
    obtain rfl := hrows status lastEventId hconsumer
    rw [hconsumer] at hturn
    obtain rfl := Option.some.inj hturn
    refine ⟨{ s with consumer := .replaying status (lastSentSequence S lastEventId)
                       (RunStream.replayRows S s.table lastEventId) }, ?_, rfl⟩
    rw [RunStream.consume, hconsumer]
  | replaying status lastSent rows =>
    rw [hconsumer] at hturn
    cases answer with
    | rows => cases rows <;> cases hturn
    | next =>
      cases rows with
      | nil =>
        obtain rfl := Option.some.inj hturn
        rw [RunStream.consume, hconsumer]
        dsimp only
        split
        · exact ⟨_, rfl, rfl⟩
        · exact ⟨_, rfl, rfl⟩
      | cons row rows =>
        obtain rfl := Option.some.inj hturn
        refine ⟨replayRow S s status lastSent row rows, ?_, ?_⟩
        · rw [RunStream.consume, hconsumer]
        · rw [replayRow_consumer S s RunStream.init]
  | live lastSent =>
    rw [hconsumer] at hturn
    cases answer with
    | rows => cases hturn
    | next =>
      rw [turn] at hturn
      split at hturn
      · rename_i hover
        obtain rfl := Option.some.inj hturn
        obtain ⟨hfinished, hempty⟩ := Bool.and_eq_true_iff.mp hover
        refine ⟨{ s with consumer := .ended false }, ?_, rfl⟩
        rw [RunStream.consume, hconsumer]
        dsimp only
        rw [takeNext, List.isEmpty_iff.mp hempty, if_pos hfinished]
      · cases hturn

/-! ### Who is sent the whole run -/

/-- **When everyone is sent the whole run**: no client takes an event that another client is still
to be sent or skips one that it is to be sent itself, no such event is dropped from a full queue,
and no client's stream ends while more of them come. Then, and only then, every client that is
attached has been sent the events that were accepted since it came, in order, except those that
are still in the queue, and every client whose stream has ended has been sent all of them. -/
theorem everyone_served_iff (S : Setup) (labels : List AudienceLabel) (s : Audience)
    (h : exec (audienceStep S) SharedQueue.init labels = some s) :
    (∀ pre t, pre <+: labels → exec (audienceStep S) SharedQueue.init pre = some t →
        t.AllServed) ↔
      Along (audienceStep S)
        (fun t l => SharedQueue.fair (queueConfig S.broker) (client S) t l = true)
        SharedQueue.init labels :=
  SharedQueue.served_iff h

/-- The number of an example event as its id. -/
def exampleEvent (n : ℕ) : Str × PyVal :=
  ((RunStream.exampleSetup).eventId n, .tuple [.str "values", .dict []])

def exampleEnd (n : ℕ) : Str × PyVal :=
  ((RunStream.exampleSetup).eventId n, .tuple [.str "end", .dict []])

/-- A client connects, finds nothing to replay and begins to read the queue. -/
def follows (i : ℕ) : List AudienceLabel :=
  [attach .running none, .turn i (.rows (some [])), .turn i .next]

/-- A client reads an event and leaves; another reads the rest. -/
def oneAfterTheOther : List AudienceLabel :=
  follows 0 ++ [.put (exampleEvent 1), .take 0, .leave 0] ++ follows 1 ++
    [.put (exampleEnd 2), .take 1]

/-- Two clients follow the run; each is sent one of its two events. -/
def twoClients : List AudienceLabel :=
  follows 0 ++ follows 1 ++
    [.put (exampleEvent 1), .put (exampleEnd 2), .take 0, .take 1, .turn 0 .next]

theorem everyone_served_one_after_the_other :
    ∃ s, exec (audienceStep RunStream.exampleSetup) SharedQueue.init oneAfterTheOther = some s ∧
      ∀ pre t, pre <+: oneAfterTheOther →
        exec (audienceStep RunStream.exampleSetup) SharedQueue.init pre = some t → t.AllServed := by
  obtain ⟨s, hs⟩ : ∃ s, exec (audienceStep RunStream.exampleSetup) SharedQueue.init
      oneAfterTheOther = some s := Option.isSome_iff_exists.mp (by decide)
  exact ⟨s, hs, (everyone_served_iff RunStream.exampleSetup oneAfterTheOther s hs).mpr (by decide)⟩

/-- **An event for one client only**: with two clients attached from before the first event to the
end, the one that does not read first is never sent it. -/
theorem event_for_one_client :
    ¬ ∀ (S : Setup) (labels : List AudienceLabel) (s : Audience),
      exec (audienceStep S) SharedQueue.init labels = some s →
      ∀ reader ∈ s.readers, reader.phase.isEnded = true →
        (s.owed reader).Sublist reader.received := by
  intro h
  -- the first client has been sent the first of two events, and its stream has ended
  have hrun : (exec (audienceStep RunStream.exampleSetup) SharedQueue.init twoClients).any
      (fun s => s.readers.any fun reader => reader.phase.isEnded &&
        decide (reader.received.length < (s.owed reader).length)) = true := by decide
  cases hs : exec (audienceStep RunStream.exampleSetup) SharedQueue.init twoClients with
  | none =>
    rw [hs] at hrun
    cases hrun
  | some s =>
    rw [hs, Option.any_some, List.any_eq_true] at hrun
    obtain ⟨reader, hreader, hrun⟩ := hrun
    obtain ⟨hended, hlength⟩ := Bool.and_eq_true_iff.mp hrun
    have hall := (h _ _ s hs reader hreader hended).length_le
    have hlength := of_decide_eq_true hlength
    omega

end RunBroker

end OpenLangGraph

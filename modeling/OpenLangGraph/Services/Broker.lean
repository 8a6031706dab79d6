import OpenLangGraph.Foundation.PyVal
import OpenLangGraph.Foundation.PyString

/-!
# The broker of a run

The model of `RunBroker` in `services/broker.py`: a bounded queue of event ids and payloads, and
a flag that says that no more events will come.

## Awaiting

`put` awaits room in a full queue and `aiter` awaits an event in an empty one. An operation that
has to wait is `none` here: it is not enabled, and the caller is where it was. The consumer polls
the flag every 100 ms while the queue is empty, so `takeNext` sees at any moment what a poll at
that moment would.

## Main definitions

* `RunBroker`, `RunBroker.put`, `RunBroker.takeNext`, `RunBroker.markFinished`

## Main results

* `RunBroker.put_eq_some` — the three things a `put` can do
-/

open PyString

namespace OpenLangGraph

/-- `BackpressurePolicy` -/
inductive BackpressurePolicy
  | block
  | dropOldest
deriving DecidableEq

/-- The two settings of a queue. `_parse_int_env` only lets a positive size through. -/
structure BrokerConfig where
  queueMaxsize : ℕ
  backpressurePolicy : BackpressurePolicy
  queueMaxsize_pos : 0 < queueMaxsize

/-- `RunBroker` -/
structure RunBroker where
  queue : List (Str × PyVal)
  finished : Bool

namespace RunBroker

/-- A new broker. -/
def empty : RunBroker := { queue := [], finished := false }

/-- The test for the event that ends a stream: `isinstance(payload, tuple) and len(payload) >= 1
and payload[0] == "end"`. -/
def isEnd (payload : PyVal) : Bool :=
  match payload.asTuple with
  | some (label :: _) => label.eqStr "end"
  | _ => false

/-- `_is_terminal_event` -/
def isTerminalEvent (payload : PyVal) : Bool :=
  match payload.asTuple with
  | some (label :: _) => label.eqStr "end" || label.eqStr "error"
  | _ => false

/-- `_drop_oldest_non_terminal`: the queue after the drop, or `none` if every event is terminal. -/
def dropOldestNonTerminal : List (Str × PyVal) → Option (List (Str × PyVal))
  | [] => none
  | item :: queue =>
    if isTerminalEvent item.2 then (dropOldestNonTerminal queue).map (item :: ·) else some queue

def full (cfg : BrokerConfig) (b : RunBroker) : Bool := cfg.queueMaxsize ≤ b.queue.length

/-- The queue that the new event is appended to, once there is room. -/
def makeRoom (cfg : BrokerConfig) (b : RunBroker) : Option (List (Str × PyVal)) :=
  if b.full cfg then
    match cfg.backpressurePolicy with
    | .dropOldest => dropOldestNonTerminal b.queue
    | .block => none
  else some b.queue

/-- `put` -/
def put (cfg : BrokerConfig) (b : RunBroker) (eventId : Str) (payload : PyVal) :
    Option RunBroker :=
  if b.finished then some b
  else (b.makeRoom cfg).map fun queue =>
    { queue := queue ++ [(eventId, payload)], finished := isEnd payload }

/-- `mark_finished` -/
def markFinished (b : RunBroker) : RunBroker := { b with finished := true }

/-- What `aiter` does next: yield the oldest event, or end because the run has finished. `none`
is waiting. -/
def takeNext (b : RunBroker) : Option (Option (Str × PyVal) × RunBroker) :=
  match b.queue with
  | item :: queue => some (some item, { b with queue })
  | [] => if b.finished then some (none, b) else none

/-! ### What a put can do -/

theorem dropOldestNonTerminal_eq_some {queue queue' : List (Str × PyVal)}
    (h : dropOldestNonTerminal queue = some queue') :
    ∃ pre item post, queue = pre ++ item :: post ∧ queue' = pre ++ post ∧
      (∀ e ∈ pre, isTerminalEvent e.2 = true) ∧ isTerminalEvent item.2 = false := by
  induction queue generalizing queue' with
  | nil => cases h
  | cons e queue ih =>
    rw [dropOldestNonTerminal] at h
    split at h
    · rename_i hterm
      obtain ⟨q, hq, rfl⟩ := Option.map_eq_some_iff.mp h
      obtain ⟨pre, item, post, rfl, rfl, hpre, hitem⟩ := ih hq
      exact ⟨e :: pre, item, post, rfl, rfl, List.forall_mem_cons.mpr ⟨hterm, hpre⟩, hitem⟩
    · rename_i hterm
      cases h
      exact ⟨[], e, queue, rfl, rfl, by simp, by simpa using hterm⟩

/-- **What a put can do**: nothing to a finished broker, append the event, or append it in place
of the oldest event that is not terminal. -/
theorem put_eq_some {cfg : BrokerConfig} {b b' : RunBroker} {eventId : Str} {payload : PyVal}
    (h : b.put cfg eventId payload = some b') :
    (b.finished = true ∧ b' = b) ∨
      (b.finished = false ∧ ∃ queue, queue.Sublist b.queue ∧
        (cfg.backpressurePolicy = .block ∨ b.full cfg = false → queue = b.queue) ∧
        b' = { queue := queue ++ [(eventId, payload)], finished := isEnd payload }) := by
  rw [put] at h
  split at h
  · rename_i hfin
    cases h
    exact .inl ⟨hfin, rfl⟩
  · rename_i hfin
    obtain ⟨queue, hqueue, rfl⟩ := Option.map_eq_some_iff.mp h
    refine .inr ⟨by simpa using hfin, queue, ?_, ?_, rfl⟩
    · rw [makeRoom] at hqueue
      split at hqueue
      · split at hqueue
        · obtain ⟨pre, item, post, hq, rfl, -, -⟩ := dropOldestNonTerminal_eq_some hqueue
          rw [hq]
          exact (List.sublist_cons_self item post).append_left pre
        · cases hqueue
      · cases hqueue
        exact List.Sublist.refl _
    · intro hroom
      rw [makeRoom] at hqueue
      split at hqueue
      · rename_i hfull
        rcases hroom with hblock | hroom
        · rw [hblock] at hqueue
          cases hqueue
        · rw [hfull] at hroom
          cases hroom
      · exact (Option.some.inj hqueue).symm

theorem mem_queue_of_put {cfg : BrokerConfig} {b b' : RunBroker} {eventId : Str} {payload : PyVal}
    (h : b.put cfg eventId payload = some b') {item : Str × PyVal} (hitem : item ∈ b'.queue) :
    item ∈ b.queue ∨ item = (eventId, payload) := by
  rcases put_eq_some h with ⟨-, rfl⟩ | ⟨-, queue, hsub, -, rfl⟩
  · exact .inl hitem
  · exact (List.mem_append.mp hitem).imp (fun h => hsub.subset h) List.mem_singleton.mp

theorem finished_takeNext {b b' : RunBroker} {event : Option (Str × PyVal)}
    (h : b.takeNext = some (event, b')) : b'.finished = b.finished := by
  rw [takeNext] at h
  split at h
  · obtain ⟨-, rfl⟩ := Prod.mk.inj (Option.some.inj h)
    rfl
  · split at h
    · obtain ⟨-, rfl⟩ := Prod.mk.inj (Option.some.inj h)
      rfl
    · cases h

/-- Waiting is for an event of a queue that is empty while the run goes on. -/
theorem takeNext_eq_none_iff {b : RunBroker} :
    b.takeNext = none ↔ b.queue = [] ∧ b.finished = false := by
  rw [takeNext]
  cases b.queue with
  | nil => cases b.finished <;> simp
  | cons item queue => simp

end RunBroker

end OpenLangGraph

import OpenLangGraph.Foundation.BoundedQueue
import OpenLangGraph.Services.Broker

/-!
# A broker with many producers and consumers

`RunBroker` of `services/broker.py` when any number of tasks put, read and finish at once. What a
task does between two awaits is one step. The only await in `put` is the one for room in a full
queue, so a `put` is one step, or two if it has to wait.

## The flag

A `put` tests the flag when it begins. One that waits for room does not test it again, so it can
add its event after the end event.

## Main definitions

* `RunBroker.queueConfig` — a broker as a bounded queue
* `RunBroker.Traffic`, `RunBroker.step` — a broker, and what its tasks do to it
* `RunBroker.EndIsFinal`

## Main results

* `RunBroker.put_of_step` — a step of a producer is a `put`, or waits because `put` would
* `RunBroker.queue_discipline` — order, loss and length
* `RunBroker.endIsFinal_iff` — when the end is final
-/

open PyString

namespace OpenLangGraph

open Transition BoundedQueue

namespace RunBroker

/-- A broker as a bounded queue of event ids and payloads. -/
def queueConfig (cfg : BrokerConfig) : BoundedQueue.Config (Str × PyVal) where
  capacity := cfg.queueMaxsize
  capacity_pos := cfg.queueMaxsize_pos
  dropsOldest := cfg.backpressurePolicy = .dropOldest
  mayDrop event := !isTerminalEvent event.2
  closes event := isEnd event.2

/-- A broker, with the events that wait for room, those that were accepted, and those that were
delivered. -/
abbrev Traffic := BoundedQueue.State (Str × PyVal)

abbrev BrokerLabel := BoundedQueue.Label (Str × PyVal)

def step (cfg : BrokerConfig) : Traffic → BrokerLabel → Option Traffic :=
  BoundedQueue.step (queueConfig cfg)

/-- The broker itself. -/
def ofTraffic (s : Traffic) : RunBroker := { queue := s.items, finished := s.closed }

/-! ### The steps are those of the broker -/

variable {cfg : BrokerConfig} {s s' : Traffic}

theorem dropOldest_eq (queue : List (Str × PyVal)) :
    dropOldest (fun event => !isTerminalEvent event.2) queue = dropOldestNonTerminal queue := by
  induction queue with
  | nil => rfl
  | cons event queue ih =>
    rw [dropOldest, dropOldestNonTerminal, ih]
    cases isTerminalEvent event.2 <;> rfl

theorem room_eq (cfg : BrokerConfig) (b : RunBroker) :
    room (queueConfig cfg) b.queue = b.makeRoom cfg := by
  rw [room, makeRoom, full]
  by_cases hroom : b.queue.length < cfg.queueMaxsize
  · have hfull : decide (cfg.queueMaxsize ≤ b.queue.length) = false := by
      rw [decide_eq_false_iff_not]
      omega
    rw [hfull]
    exact if_pos hroom
  · have hfull : decide (cfg.queueMaxsize ≤ b.queue.length) = true := by
      rw [decide_eq_true_eq]
      omega
    rw [hfull, if_pos rfl]
    refine (if_neg hroom).trans ?_
    cases hpolicy : cfg.backpressurePolicy with
    | block => simp [queueConfig, hpolicy]
    | dropOldest =>
      simp only [queueConfig, hpolicy, decide_true, if_true]
      exact dropOldest_eq b.queue

/-- **A producer that comes** does what `put` does, or waits because `put` would. -/
theorem put_of_step {eventId : Str} {payload : PyVal}
    (h : step cfg s (.put (eventId, payload)) = some s') :
    (ofTraffic s).put cfg eventId payload = some (ofTraffic s') ∨
      ((ofTraffic s).put cfg eventId payload = none ∧
        s' = { s with waiting := s.waiting ++ [(eventId, payload)] }) := by
  have hroom : (ofTraffic s).makeRoom cfg = room (queueConfig cfg) s.items :=
    (room_eq cfg (ofTraffic s)).symm
  rw [put, hroom]
  cases step_cases h with
  | reject _ hclosed => exact .inl (if_pos hclosed)
  | put hopen hitems =>
    have hfinished : ¬ (ofTraffic s).finished = true := by
      show ¬ s.closed = true
      simp [hopen]
    refine .inl ?_
    rw [if_neg hfinished, hitems, Option.map_some]
    refine congrArg (fun finished => some (RunBroker.mk _ finished)) ?_
    show isEnd payload = (s.closed || isEnd payload)
    rw [hopen, Bool.false_or]
  | wait hopen hitems =>
    have hfinished : ¬ (ofTraffic s).finished = true := by
      show ¬ s.closed = true
      simp [hopen]
    refine .inr ⟨?_, rfl⟩
    rw [if_neg hfinished, hitems, Option.map_none]

theorem takeNext_of_step (h : step cfg s .take = some s') :
    ∃ event, (ofTraffic s).takeNext = some (some event, ofTraffic s') := by
  cases step_cases h with
  | @take event items hitems =>
    have hqueue : (ofTraffic s).queue = event :: items := hitems
    refine ⟨event, ?_⟩
    rw [takeNext, hqueue]
    rfl

theorem markFinished_of_step (h : step cfg s .close = some s') :
    ofTraffic s' = (ofTraffic s).markFinished := by
  cases step_cases h with
  | close => rfl

/-! ### Queue discipline -/

/-- **Queue discipline**: the queue is never too long. When a full queue blocks, the events that
were delivered and those in the queue are the events that were accepted, in order; when it drops
the oldest, they are these without some that are not terminal. -/
theorem queue_discipline (cfg : BrokerConfig) {labels : List BrokerLabel}
    (h : exec (step cfg) init labels = some s) :
    s.items.length ≤ cfg.queueMaxsize ∧
      (cfg.backpressurePolicy = .block → s.delivered ++ s.items = s.accepted) ∧
      (cfg.backpressurePolicy = .dropOldest →
        Thinned (fun event => isTerminalEvent event.2 = false) (s.delivered ++ s.items)
          s.accepted) := by
  obtain ⟨hlength, hthinned, hall⟩ := sound_of_exec h
  refine ⟨hlength, fun hblock => hall ?_, fun _ => ?_⟩
  · simp [queueConfig, hblock]
  · simpa [queueConfig] using hthinned

/-! ### The end of a run -/

/-- The end is final in a run of the broker: no event is accepted after an end event, there is at
most one, and the queue of a broker that is finished only shrinks. -/
structure EndIsFinal (cfg : BrokerConfig) (labels : List BrokerLabel) : Prop where
  last : ∀ pre t, pre <+: labels → exec (step cfg) init pre = some t →
    ∀ before event after, t.accepted = before ++ event :: after → isEnd event.2 = true → after = []
  once : ∀ pre t, pre <+: labels → exec (step cfg) init pre = some t →
    t.accepted.countP (fun event => isEnd event.2) ≤ 1
  shrinks : Along (step cfg)
    (fun t l => ∀ t', step cfg t l = some t' → t.closed = true → t'.items <:+ t.items) init labels

/-- **When the end is final**: exactly if no put that waited for room gets it after the broker was
finished. -/
theorem endIsFinal_iff (cfg : BrokerConfig) {labels : List BrokerLabel}
    (h : exec (step cfg) init labels = some s) :
    EndIsFinal cfg labels ↔
      Along (step cfg) (fun t l => resumesOpen t l = true) init labels := by
  refine Iff.trans ?_ (ends_iff h)
  constructor
  · rintro ⟨hlast, -, hshrinks⟩
    exact ⟨hlast, hshrinks⟩
  · rintro ⟨hlast, hshrinks⟩
    exact ⟨hlast, fun pre t hpre ht => (hlast pre t hpre ht).countP_le_one, hshrinks⟩

/-- A finished broker that has been drained stays so, and can be removed. -/
theorem drained_of_step {l : BrokerLabel} (hopen : resumesOpen s l = true)
    (hclosed : s.closed = true) (hdrained : s.items = []) (h : step cfg s l = some s') :
    s'.closed = true ∧ s'.items = [] := by
  have hsuffix := (shrinks_iff h).mpr hopen hclosed
  rw [hdrained, List.suffix_nil] at hsuffix
  refine ⟨?_, hsuffix⟩
  cases step_cases h with
  | reject | wait | abandon | take => exact hclosed
  | put hput => exact absurd hclosed (by simp [hput])
  | resume => exact Bool.or_eq_true_iff.mpr (.inl hclosed)
  | close => rfl

/-! ### A queue of one event -/

def smallConfig : BrokerConfig := ⟨1, .block, Nat.one_pos⟩

def valuesEvent (eventId : Str) : Str × PyVal := (eventId, .tuple [.str "values", .dict []])

/-- The event of `signal_run_cancelled`. -/
def cancelledEvent (eventId : Str) : Str × PyVal :=
  (eventId, .tuple [.str "end", .dict [(.str "status", .str "cancelled")]])

/-- A second event waits until the first is taken. -/
def smallRun : List BrokerLabel :=
  [.put (valuesEvent ['1']), .put (valuesEvent ['2']), .take, .resume 0, .take,
    .put (cancelledEvent ['3']), .close]

/-- The end event waits behind the first event, and the second event behind the end event. -/
def lateRun : List BrokerLabel :=
  [.put (valuesEvent ['1']), .put (cancelledEvent ['2']), .put (valuesEvent ['2']), .take,
    .resume 0, .take, .resume 0]

theorem queue_discipline_small :
    ∃ s, exec (step smallConfig) init smallRun = some s ∧
      s.items.length ≤ smallConfig.queueMaxsize ∧
      (smallConfig.backpressurePolicy = .block → s.delivered ++ s.items = s.accepted) ∧
      (smallConfig.backpressurePolicy = .dropOldest →
        Thinned (fun event => isTerminalEvent event.2 = false) (s.delivered ++ s.items)
          s.accepted) :=
  ⟨_, rfl, queue_discipline smallConfig (rfl : exec (step smallConfig) init smallRun = some _)⟩

theorem endIsFinal_small : EndIsFinal smallConfig smallRun :=
  (endIsFinal_iff smallConfig (rfl : exec (step smallConfig) init smallRun = some _)).mpr
    (by decide)

/-- **An event after the end event**: it waited for room since before the broker was finished. -/
theorem accepted_after_end :
    ¬ ∀ (cfg : BrokerConfig) (labels : List BrokerLabel) (s : Traffic),
      exec (step cfg) init labels = some s → EndIsFinal cfg labels := by
  intro h
  have hlast := (h smallConfig lateRun _ rfl).last lateRun _ List.prefix_rfl rfl
    [valuesEvent ['1']] (cancelledEvent ['2']) [valuesEvent ['2']] rfl
  exact absurd (hlast rfl) (List.cons_ne_nil _ _)

end RunBroker

end OpenLangGraph

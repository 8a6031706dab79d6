import OpenLangGraph.Core.CircuitBreaker
import OpenLangGraph.Core.Retry

/-!
# Calls of remote agents

`RemoteA2AClient.send_message` is an async generator over the stream of a remote agent. It starts
the stream in a coroutine that is retried, up to and including the first event, and hands on the
rest as it comes. An attempt is a check of the breaker, a client, the stream and its first event;
its outcome is reported to the breaker.

## Three ways to lose an outcome

A stream without an event ends the `anext` of the attempt with `StopAsyncIteration`, which counts
as a failure, is not retried, and leaves the generator as a `RuntimeError`. A client that cannot be
made raises outside the `try` that reports. And the delay before a retry can itself raise.

## What the world decides

What each attempt meets, the readings of the clock, and what the other callers of the breaker do to
it between the steps of an attempt. The attempts are numbered from zero.

## Main definitions

* `World`, `sendMessage`
* `Faithful` — the caller is given the last stream as it is, and each attempt is reported
* `Delivers` — the attempt meets none of the three cases

## Main results

* `faithful_iff` — the calls that are faithful
-/

namespace OpenLangGraph

namespace RemoteA2AClient

/-! ### Streams -/

/-- The exceptions that `_is_retryable` tells apart, and those of this module. -/
inductive ClientError
  /-- `CircuitBreakerOpenError` -/
  | circuitOpen
  /-- `A2AClientTimeoutError` -/
  | a2aTimeout
  /-- `A2AClientHTTPError` -/
  | a2aHttp (statusCode : ℤ)
  /-- `httpx.TimeoutException` -/
  | httpxTimeout
  /-- any other `httpx.HTTPError` -/
  | httpx
  /-- `OverflowError` -/
  | overflow
  /-- `RuntimeError`, the one that takes the place of `StopAsyncIteration` -/
  | stopped
  | other (name : String)
deriving DecidableEq

/-- How a stream ends. -/
inductive Ending
  | completes
  | fails (e : ClientError)
deriving DecidableEq

/-- An async iterator, by what it yields and how it ends. -/
structure Stream (Event : Type) where
  events : List Event
  ending : Ending
deriving DecidableEq

/-- What is raised inside: an iterator that is exhausted raises `StopAsyncIteration`. -/
inductive PyException
  | stopAsyncIteration
  | error (e : ClientError)
deriving DecidableEq

variable {Event : Type}

/-- `await anext(iterator)`, with the rest of the iterator. -/
def anext : Stream Event → Except PyException (Event × Stream Event)
  | ⟨first :: rest, ending⟩ => .ok (first, ⟨rest, ending⟩)
  | ⟨[], .completes⟩ => .error .stopAsyncIteration
  | ⟨[], .fails e⟩ => .error (.error e)

/-- `_is_retryable` -/
def isRetryable : PyException → Bool
  | .stopAsyncIteration => false
  | .error .circuitOpen => false
  | .error .a2aTimeout => true
  | .error (.a2aHttp statusCode) => [408, 429, 500, 502, 503, 504].contains statusCode
  | .error .httpxTimeout => true
  | .error .httpx => true
  | .error .overflow | .error .stopped | .error (.other _) => false

/-- An exception as it leaves the generator. -/
def leaving : PyException → ClientError
  | .stopAsyncIteration => .stopped
  | .error e => e

/-! ### The call -/

/-- What an attempt meets once it is admitted. -/
inductive Connection (Event : Type)
  /-- `self._factory.create(card)` raises -/
  | noClient (e : ClientError)
  | stream (stream : Stream Event)

/-- The world outside the call, by the number of the attempt. -/
structure World (Event : Type) where
  config : BreakerConfig
  connect : ℕ → Connection Event
  /-- the reading of the clock in `allow_request` -/
  checkedAt : ℕ → ℤ
  /-- and in `record_failure` -/
  reportedAt : ℕ → ℤ
  /-- what other callers do to the breaker before the attempt -/
  before : ℕ → CircuitBreaker → CircuitBreaker
  /-- and while it waits for the first event -/
  meanwhile : ℕ → CircuitBreaker → CircuitBreaker

inductive Report
  | success
  | failure
deriving DecidableEq

/-- An attempt: the stream it saw, whether the breaker admitted it, and what it reported. One that
is denied, or gets no client, sees a stream that fails at once. -/
structure Attempt (Event : Type) where
  stream : Stream Event
  admitted : Bool
  reports : List Report

/-- The breaker, and the attempts so far. -/
structure Session (Event : Type) where
  breaker : CircuitBreaker
  attempts : List (Attempt Event)

variable (W : World Event)

/-- The check of the breaker at the start of an attempt. -/
def check (s : Session Event) : CircuitBreaker × Bool :=
  (W.before s.attempts.length s.breaker).allowRequest W.config (W.checkedAt s.attempts.length)

/-- `start_stream` -/
def startStream (s : Session Event) :
    Except PyException (Event × Stream Event) × Session Event :=
  let n := s.attempts.length
  let (breaker, allowed) := check W s
  let error (e : ClientError) (admitted : Bool) :
      Except PyException (Event × Stream Event) × Session Event :=
    (.error (.error e), ⟨breaker, s.attempts ++ [⟨⟨[], .fails e⟩, admitted, []⟩]⟩)
  if allowed then
    match W.connect n with
    | .noClient e => error e true
    | .stream stream =>
      match anext stream with
      | .error e =>
        (.error e,
          ⟨(W.meanwhile n breaker).recordFailure W.config (W.reportedAt n),
            s.attempts ++ [⟨stream, true, [.failure]⟩]⟩)
      | .ok first =>
        (.ok first,
          ⟨(W.meanwhile n breaker).recordSuccess, s.attempts ++ [⟨stream, true, [.success]⟩]⟩)
  else error .circuitOpen false

/-- The arguments of `retry_async`. -/
def retrying (policy : RetryPolicy) :
    Retrying (Session Event) PyException (Event × Stream Event) where
  operation := startStream W
  policy
  isRetryable
  overflowError := .error .overflow

/-- `send_message` for a card that is there: what the caller is given, and the session after it. -/
def sendMessage (policy : RetryPolicy) (breaker : CircuitBreaker) :
    Stream Event × Session Event :=
  match (retrying W policy).retryAsync ⟨breaker, []⟩ with
  | (.ok (first, iterator), s) => (⟨first :: iterator.events, iterator.ending⟩, s)
  | (.error e, s) => (⟨[], .fails (leaving e)⟩, s)

/-! ### What the caller is promised -/

/-- The attempt is reported once if it was admitted, and else not at all. -/
def Attempt.IsReported (attempt : Attempt Event) : Prop :=
  attempt.reports.length = if attempt.admitted then 1 else 0

/-- The caller is given the stream of the last attempt, no event was seen before it, and every
attempt is reported. -/
structure Faithful (given : Stream Event) (attempts : List (Attempt Event)) : Prop where
  last : ∃ earlier last, attempts = earlier ++ [last] ∧ given = last.stream ∧
    ∀ attempt ∈ earlier, attempt.stream.events = []
  reported : ∀ attempt ∈ attempts, attempt.IsReported

/-- The attempt with this number, made in this session, is denied, or gets a client and from it an
event or an error, and not an error to be retried after a delay that cannot be computed. -/
def Delivers (policy : RetryPolicy) (k : ℕ) (s : Session Event) : Prop :=
  (check W s).2 = true →
    match W.connect s.attempts.length with
    | .noClient _ => False
    | .stream ⟨[], .completes⟩ => False
    | .stream ⟨[], .fails e⟩ =>
      ¬ (isRetryable (.error e) = true ∧ k < policy.attempts ∧ delayOverflows k = true)
    | .stream ⟨_ :: _, _⟩ => True

/-! ### One attempt -/

variable {W} {s s' : Session Event} {k : ℕ} {policy : RetryPolicy} {breaker : CircuitBreaker}

theorem startStream_denied (h : (check W s).2 = false) :
    startStream W s = (.error (.error .circuitOpen),
      ⟨(check W s).1, s.attempts ++ [⟨⟨[], .fails .circuitOpen⟩, false, []⟩]⟩) := by
  simp [startStream, h]

theorem startStream_noClient {e : ClientError} (h : (check W s).2 = true)
    (hconnect : W.connect s.attempts.length = .noClient e) :
    startStream W s = (.error (.error e),
      ⟨(check W s).1, s.attempts ++ [⟨⟨[], .fails e⟩, true, []⟩]⟩) := by
  simp [startStream, h, hconnect]

/-- A stream whose first event cannot be had is reported as a failure. -/
theorem startStream_raises {stream : Stream Event} {e : PyException} (h : (check W s).2 = true)
    (hconnect : W.connect s.attempts.length = .stream stream) (hnext : anext stream = .error e) :
    ∃ s', startStream W s = (.error e, s') ∧
      s'.attempts = s.attempts ++ [⟨stream, true, [.failure]⟩] := by
  simp [startStream, h, hconnect, hnext]

theorem startStream_returns {first : Event} {rest : List Event} {ending : Ending}
    (h : (check W s).2 = true)
    (hconnect : W.connect s.attempts.length = .stream ⟨first :: rest, ending⟩) :
    ∃ s', startStream W s = (.ok (first, ⟨rest, ending⟩), s') ∧
      s'.attempts = s.attempts ++ [⟨⟨first :: rest, ending⟩, true, [.success]⟩] := by
  simp [startStream, h, hconnect, anext]

/-- What an attempt that delivers comes to: it is reported, and the caller of the coroutine learns
what its stream does first. -/
theorem startStream_of_delivers (h : Delivers W policy k s) :
    ∃ attempt s', s'.attempts = s.attempts ++ [attempt] ∧ attempt.IsReported ∧
      ((∃ first iterator, startStream W s = (.ok (first, iterator), s') ∧
          attempt.stream = ⟨first :: iterator.events, iterator.ending⟩) ∨
        ∃ e, startStream W s = (.error (.error e), s') ∧ attempt.stream = ⟨[], .fails e⟩ ∧
          ¬ (isRetryable (.error e) = true ∧ k < policy.attempts ∧ delayOverflows k = true)) := by
  cases hcheck : (check W s).2 with
  | false =>
    refine ⟨⟨⟨[], .fails .circuitOpen⟩, false, []⟩, _, rfl, rfl,
      .inr ⟨_, startStream_denied hcheck, rfl, ?_⟩⟩
    exact fun hretry => absurd hretry.1 (by decide)
  | true =>
    have h := h hcheck
    cases hconnect : W.connect s.attempts.length with
    | noClient e => simp [hconnect] at h
    | stream stream =>
      rw [hconnect] at h
      rcases stream with ⟨_ | ⟨first, rest⟩, ending⟩
      · cases ending with
        | completes => exact h.elim
        | fails e =>
          obtain ⟨s', hstart, hattempts⟩ := startStream_raises hcheck hconnect rfl
          exact ⟨_, s', hattempts, rfl, .inr ⟨e, hstart, rfl, h⟩⟩
      · obtain ⟨s', hstart, hattempts⟩ := startStream_returns hcheck hconnect
        exact ⟨_, s', hattempts, rfl, .inl ⟨first, ⟨rest, ending⟩, hstart, rfl⟩⟩

/-! ### A call -/

theorem snd_sendMessage (W : World Event) (policy : RetryPolicy) (breaker : CircuitBreaker) :
    (sendMessage W policy breaker).2 = ((retrying W policy).retryAsync ⟨breaker, []⟩).2 := by
  rw [sendMessage]
  rcases (retrying W policy).retryAsync ⟨breaker, []⟩ with ⟨_ | _, _⟩ <;> rfl

theorem sendMessage_error {e : PyException}
    (h : (retrying W policy).retryAsync ⟨breaker, []⟩ = (.error e, s)) :
    sendMessage W policy breaker = (⟨[], .fails (leaving e)⟩, s) := by
  rw [sendMessage, h]

theorem sendMessage_ok {first : Event} {iterator : Stream Event}
    (h : (retrying W policy).retryAsync ⟨breaker, []⟩ = (.ok (first, iterator), s)) :
    sendMessage W policy breaker = (⟨first :: iterator.events, iterator.ending⟩, s) := by
  rw [sendMessage, h]

/-- Attempts are only added. -/
theorem attempts_grow (W : World Event) (s : Session Event) :
    s.attempts <+: (startStream W s).2.attempts := by
  cases hcheck : (check W s).2 with
  | false =>
    rw [startStream_denied hcheck]
    exact List.prefix_append _ _
  | true =>
    cases hconnect : W.connect s.attempts.length with
    | noClient e =>
      rw [startStream_noClient hcheck hconnect]
      exact List.prefix_append _ _
    | stream stream =>
      rcases stream with ⟨_ | ⟨first, rest⟩, ending⟩
      · obtain ⟨e, hnext⟩ : ∃ e, anext (⟨[], ending⟩ : Stream Event) = .error e := by
          cases ending <;> exact ⟨_, rfl⟩
        obtain ⟨s', hstart, hattempts⟩ := startStream_raises hcheck hconnect hnext
        rw [hstart, hattempts]
        exact List.prefix_append _ _
      · obtain ⟨s', hstart, hattempts⟩ := startStream_returns hcheck hconnect
        rw [hstart, hattempts]
        exact List.prefix_append _ _

/-- An attempt that is made is among those at the end. -/
theorem attempts_of_tried (h : (retrying W policy).Tried ⟨breaker, []⟩ k s) :
    (startStream W s).2.attempts <+: (sendMessage W policy breaker).2.attempts := by
  rw [snd_sendMessage, Retrying.retryAsync_of_tried h]
  exact (retrying W policy).rel_retryFrom (Q := fun s t => s.attempts <+: t.attempts)
    (fun _ => List.prefix_rfl) (fun _ _ _ => List.IsPrefix.trans) (attempts_grow W) _ _ _

/-- If all attempts deliver, those before the last saw no event, and all are reported. -/
theorem attempts_of_delivers {init : Session Event} (hinit : init.attempts = [])
    (hall : ∀ k s, (retrying W policy).Tried init k s → Delivers W policy k s)
    (h : (retrying W policy).Tried init k s) :
    ∀ attempt ∈ s.attempts, attempt.stream.events = [] ∧ attempt.IsReported := by
  refine h.invariant (I := fun _ s => ∀ attempt ∈ s.attempts,
    attempt.stream.events = [] ∧ attempt.IsReported) ?_ ?_
  · simp [hinit]
  · intro k s s' e htried hold hraises _
    obtain ⟨attempt, t, hattempts, hreported, ⟨_, _, hstart, -⟩ | ⟨e', hstart, hstream, -⟩⟩ :=
      startStream_of_delivers (hall k s htried)
    · cases hraises.symm.trans hstart
    · obtain ⟨-, rfl⟩ := Prod.mk.inj (hraises.symm.trans hstart)
      rw [hattempts]
      intro a ha
      rcases List.mem_append.mp ha with ha | ha
      · exact hold a ha
      · rw [List.mem_singleton.mp ha, hstream]
        exact ⟨rfl, hreported⟩

theorem faithful_of_last {given : Stream Event} {attempt : Attempt Event}
    (hattempts : s'.attempts = s.attempts ++ [attempt]) (hgiven : given = attempt.stream)
    (hreported : attempt.IsReported)
    (hearlier : ∀ a ∈ s.attempts, a.stream.events = [] ∧ a.IsReported) :
    Faithful given s'.attempts := by
  refine ⟨⟨s.attempts, attempt, hattempts, hgiven, fun a ha => (hearlier a ha).1⟩, ?_⟩
  rw [hattempts, List.forall_mem_append, List.forall_mem_singleton]
  exact ⟨fun a ha => (hearlier a ha).2, hreported⟩

/-- A call that ends with the error of its attempt, or in place of it, is not faithful if the
stream of the attempt ends in another way. -/
theorem not_faithful_of_ending {e : PyException} {attempt : Attempt Event}
    (h : (retrying W policy).retryAsync ⟨breaker, []⟩ = (.error e, s'))
    (hattempts : s'.attempts = s.attempts ++ [attempt])
    (hending : attempt.stream.ending ≠ .fails (leaving e)) :
    ¬ Faithful (sendMessage W policy breaker).1 (sendMessage W policy breaker).2.attempts := by
  rintro ⟨⟨earlier, last, hlast, hgiven, -⟩, -⟩
  rw [sendMessage_error h] at hlast hgiven
  obtain ⟨-, hsame⟩ := List.append_inj' (hattempts.symm.trans hlast) rfl
  obtain rfl := (List.cons.inj hsame).1
  exact hending (congrArg Stream.ending hgiven).symm

/-- **Which calls are faithful.** Exactly those in which every attempt that is made delivers. -/
theorem faithful_iff (W : World Event) (policy : RetryPolicy) (breaker : CircuitBreaker) :
    Faithful (sendMessage W policy breaker).1 (sendMessage W policy breaker).2.attempts ↔
      ∀ k s, (retrying W policy).Tried ⟨breaker, []⟩ k s → Delivers W policy k s := by
  constructor
  · intro hfaithful k s htried hcheck
    have hcall := Retrying.retryAsync_of_tried htried
    cases hconnect : W.connect s.attempts.length with
    | noClient e =>
      have hmade := attempts_of_tried htried
      rw [startStream_noClient hcheck hconnect] at hmade
      have hunreported := hfaithful.reported _ (hmade.subset (List.mem_append_right _
        (List.mem_singleton_self _)))
      cases hunreported
    | stream stream =>
      rcases stream with ⟨_ | ⟨first, rest⟩, ending⟩
      · cases ending with
        | completes =>
          obtain ⟨s', hstart, hattempts⟩ := startStream_raises hcheck hconnect rfl
          have hfinal := hcall.trans (Retrying.retryFrom_final hstart (.inl rfl))
          exact not_faithful_of_ending hfinal hattempts (by simp) hfaithful
        | fails e =>
          rintro ⟨hretryable, hleft, hdelay⟩
          obtain ⟨s', hstart, hattempts⟩ := startStream_raises hcheck hconnect rfl
          have hsucc : policy.attempts - k = policy.attempts - (k + 1) + 1 := by omega
          have hfinal := hcall.trans (hsucc ▸ Retrying.retryFrom_overflow hstart hretryable hdelay)
          refine not_faithful_of_ending hfinal hattempts ?_ hfaithful
          intro hsame
          obtain rfl : e = .overflow := Ending.fails.inj hsame
          exact absurd hretryable (by decide)
      · trivial
  · intro hall
    have hend := Retrying.endsWith_retryAsync (retrying W policy) ⟨breaker, []⟩
    generalize hcall : (retrying W policy).retryAsync ⟨breaker, []⟩ = result at hend
    cases hend with
    | @returned k s s' first htried hreturns =>
      have hearlier := attempts_of_delivers rfl hall htried
      obtain ⟨attempt, t, hattempts, hreported, ⟨_, iterator, hstart, hstream⟩ | ⟨_, hstart, -⟩⟩ :=
        startStream_of_delivers (hall k s htried)
      · cases hreturns.symm.trans hstart
        rw [sendMessage_ok hcall]
        exact faithful_of_last hattempts hstream.symm hreported hearlier
      · cases hreturns.symm.trans hstart
    | @raised k s s' e htried hraises =>
      have hearlier := attempts_of_delivers rfl hall htried
      obtain ⟨attempt, t, hattempts, hreported, ⟨_, _, hstart, -⟩ | ⟨e, hstart, hstream, -⟩⟩ :=
        startStream_of_delivers (hall k s htried)
      · cases hraises.symm.trans hstart
      · cases hraises.symm.trans hstart
        rw [sendMessage_error hcall]
        exact faithful_of_last hattempts hstream.symm hreported hearlier
    | @overflowed k s s' e htried hraises hretryable hleft hdelay =>
      obtain ⟨_, _, -, -, ⟨_, _, hstart, -⟩ | ⟨_, hstart, -, hnot⟩⟩ :=
        startStream_of_delivers (hall k s htried)
      · cases hraises.symm.trans hstart
      · cases hraises.symm.trans hstart
        exact absurd ⟨hretryable, hleft, hdelay⟩ hnot

/-- A world of one peer, in which every attempt meets the same. -/
def steadyWorld (connection : Connection String) : World String where
  config := .ofArguments 5 30 1
  connect _ := connection
  checkedAt _ := 0
  reportedAt _ := 0
  before _ := id
  meanwhile _ := id

/-- The stream of an agent without an answer ends the call with an error. -/
theorem empty_stream_raises :
    ¬ ∀ (W : World String) (policy : RetryPolicy) (breaker : CircuitBreaker),
      (∀ n, ∃ stream, W.connect n = .stream stream) →
        Faithful (sendMessage W policy breaker).1 (sendMessage W policy breaker).2.attempts := by
  intro h
  obtain ⟨⟨earlier, last, hlast, hgiven, -⟩, -⟩ :=
    h (steadyWorld (.stream ⟨[], .completes⟩)) ⟨3⟩ .init fun _ => ⟨_, rfl⟩
  have hraises : (sendMessage (steadyWorld (.stream ⟨[], .completes⟩)) ⟨3⟩ .init).1.ending =
      .fails .stopped := by decide
  have hcompletes : (sendMessage (steadyWorld (.stream ⟨[], .completes⟩)) ⟨3⟩ .init).2.attempts.map
      (fun attempt => attempt.stream.ending) = [.completes] := by decide
  have hmem : last.stream.ending ∈ [Ending.completes] := by
    rw [← hcompletes, hlast]
    exact List.mem_map_of_mem (List.mem_append_right _ (List.mem_singleton_self _))
  rw [hgiven, List.mem_singleton.mp hmem] at hraises
  cases hraises

end RemoteA2AClient

end OpenLangGraph

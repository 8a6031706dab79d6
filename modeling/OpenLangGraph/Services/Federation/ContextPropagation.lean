import OpenLangGraph.Foundation.PercentEncoding
import OpenLangGraph.Foundation.PyDict
import Mathlib.Data.List.Nodup

/-!
# The distributed execution context

`services/federation/context_propagation.py`: the context that travels with a call from agent to
agent, how it becomes the headers of a request and how it is read from them at the other side.

The values of the baggage are of any type: `str` is what `str(v)` prints of one, and `ofStr` makes a
value of what was read from a header. The identifiers drawn from `secrets` are arguments.

## The codec

`to_headers` writes the agent chain, the origin and the current agent into one `tracestate` header,
as items separated by commas, and once more, the chain alone, into a header that is never read.
`from_headers` ignores a `tracestate` of more than `MAX_TRACESTATE_SIZE` characters as a whole.

## Main definitions

* `DistributedExecutionContext` — the context
* `DistributedExecutionContext.toHeaders`, `fromHeaders` — the codec
* `DistributedExecutionContext.createChildContext`, `updateTimeout`, `isTimeoutExceeded`, `isCyclic`
* `parseTracestate`, `parseBaggage`, `parseTimeout`, `validateTraceparent` — the headers

## Main results

* `get_toHeaders` — what is found under each header
* `header_toHeaders` — the receiver finds the headers that were sent
-/

namespace OpenLangGraph

namespace ContextPropagation

open PyString

def maxBaggageSize : ℕ := 8192

def maxBaggageItems : ℕ := 64

def maxAgentChainLength : ℕ := 32

def maxTracestateSize : ℕ := 512

def minTimeoutMs : ℤ := 100

def maxTimeoutMs : ℤ := 300000

def defaultTimeoutMs : ℤ := 30000

/-! ### The traceparent header -/

def isHexChar (c : Char) : Bool := c.isDigit || 'a' ≤ c && c ≤ 'f'

/-- What `_TRACEPARENT_REGEX` matches: the groups are separated by dashes, and its `$` also matches
in front of a newline at the end. -/
def matchTraceparent (s : Str) : Option (Str × Str × Str × Str) :=
  match (if s.getLast? = some '\n' then s.dropLast else s).splitOn '-' with
  | [version, traceId, parentSpanId, flags] =>
    if version.length = 2 ∧ traceId.length = 32 ∧ parentSpanId.length = 16 ∧ flags.length = 2 ∧
        (version ++ traceId ++ parentSpanId ++ flags).all isHexChar then
      some (version, traceId, parentSpanId, flags)
    else none
  | _ => none

/-- `int(s, 16)` of hexadecimal digits. -/
def ofHex (s : Str) : ℕ := s.foldl (fun n c => 16 * n + (IpAddress.hexDigit c).getD 0) 0

/-- `_validate_traceparent` -/
def validateTraceparent (U : UnicodeDb) (traceparent : Str) : Option (Str × Str × ℤ) :=
  if traceparent = [] ∨ 100 < traceparent.length then none
  else
    match matchTraceparent (U.lower traceparent) with
    | none => none
    | some (version, traceId, parentSpanId, flags) =>
      if version = ['f', 'f'] then none
      else if traceId = List.replicate 32 '0' then none
      else if parentSpanId = List.replicate 16 '0' then none
      else some (traceId, parentSpanId, ofHex flags)

/-- `f"{n:02x}"` -/
def formatHex (n : ℤ) : Str :=
  let digits := Nat.toDigits 16 n.natAbs
  if n < 0 then '-' :: digits else List.replicate (2 - digits.length) '0' ++ digits

/-- `_clamp_timeout` -/
def clampTimeout (timeoutMs : ℤ) : ℤ := max minTimeoutMs (min maxTimeoutMs timeoutMs)

/-! ### The context -/

structure DistributedExecutionContext (ν : Type) where
  traceId : Str
  spanId : Str
  parentSpanId : Option Str
  traceFlags : ℤ
  agentChain : List Str
  originAgent : Str
  currentAgent : Str
  timeoutRemainingMs : ℤ
  retryCount : ℤ
  maxRetries : ℤ
  baggage : List (Str × ν)

namespace DistributedExecutionContext

variable {ν : Type}

/-- A new context has the defaults of the dataclass, and the identifiers that were drawn. -/
def new (traceId spanId : Str) : DistributedExecutionContext ν where
  traceId
  spanId
  parentSpanId := none
  traceFlags := 1
  agentChain := []
  originAgent := []
  currentAgent := []
  timeoutRemainingMs := 30000
  retryCount := 0
  maxRetries := 3
  baggage := []

/-- `add_baggage` -/
def addBaggage (ctx : DistributedExecutionContext ν) (key : Str) (value : ν) :
    DistributedExecutionContext ν :=
  { ctx with baggage := PyDict.set ctx.baggage key value }

/-- `create_child_context` -/
def createChildContext (ctx : DistributedExecutionContext ν) (agentId spanId : Str) :
    DistributedExecutionContext ν where
  traceId := ctx.traceId
  spanId
  parentSpanId := some ctx.spanId
  traceFlags := ctx.traceFlags
  agentChain := ctx.agentChain ++ [agentId]
  originAgent := if ctx.originAgent = [] then ctx.currentAgent else ctx.originAgent
  currentAgent := agentId
  timeoutRemainingMs := ctx.timeoutRemainingMs
  retryCount := 0
  maxRetries := ctx.maxRetries
  baggage := ctx.baggage

/-- `update_timeout` -/
def updateTimeout (ctx : DistributedExecutionContext ν) (elapsedMs : ℤ) :
    DistributedExecutionContext ν :=
  { ctx with timeoutRemainingMs := max 0 (ctx.timeoutRemainingMs - elapsedMs) }

/-- `is_timeout_exceeded` -/
def isTimeoutExceeded (ctx : DistributedExecutionContext ν) : Bool := ctx.timeoutRemainingMs ≤ 0

/-- `is_cyclic` -/
def isCyclic (ctx : DistributedExecutionContext ν) (agentId : Str) : Bool :=
  ctx.agentChain.contains agentId

end DistributedExecutionContext

/-! ### Writing the headers -/

def traceparentHeader : Str := "traceparent".toList

def tracestateHeader : Str := "tracestate".toList

def baggageHeader : Str := "baggage".toList

def timeoutHeader : Str := "x-timeout-remaining-ms".toList

def agentChainHeader : Str := "x-agent-chain".toList

def agentChainPrefix : Str := "langgraph=agent_chain:".toList

def originPrefix : Str := "origin=".toList

def currentPrefix : Str := "current=".toList

/-- `headers[key] = value`, if there is a value. -/
def setSome (headers : List (Str × Str)) (key : Str) : Option Str → List (Str × Str)
  | none => headers
  | some value => PyDict.set headers key value

namespace DistributedExecutionContext

variable {ν : Type} (str : ν → Str) (ctx : DistributedExecutionContext ν)

def traceparent : Str :=
  "00-".toList ++ ctx.traceId ++ '-' :: ctx.spanId ++ '-' :: formatHex ctx.traceFlags

/-- `tracestate_parts` -/
def tracestateParts : List Str :=
  (if ctx.agentChain = [] then [] else [agentChainPrefix ++ List.intercalate [';'] ctx.agentChain])
    ++ (if ctx.originAgent = [] then [] else [originPrefix ++ ctx.originAgent])
    ++ (if ctx.currentAgent = [] then [] else [currentPrefix ++ ctx.currentAgent])

/-- `",".join(tracestate_parts)`, which is empty if there are none. -/
def tracestate : Str := List.intercalate [','] ctx.tracestateParts

/-- `baggage_items` -/
def baggageItems : List Str :=
  ctx.baggage.map fun item =>
    PercentEncoding.quote item.1 ++ '=' :: PercentEncoding.quote (str item.2)

/-- `to_headers` -/
def toHeaders : List (Str × Str) :=
  let headers := PyDict.set [] traceparentHeader ctx.traceparent
  let headers := setSome headers tracestateHeader
    (if ctx.tracestateParts = [] then none else some ctx.tracestate)
  let headers := setSome headers baggageHeader
    (if ctx.baggage = [] then none else some (List.intercalate [','] (ctx.baggageItems str)))
  let headers := PyDict.set headers timeoutHeader (intRepr ctx.timeoutRemainingMs)
  setSome headers agentChainHeader
    (if ctx.agentChain = [] then none else some (List.intercalate [','] ctx.agentChain))

end DistributedExecutionContext

/-! ### Reading the headers -/

/-- What is read from the tracestate header. -/
structure Tracestate where
  agentChain : List Str
  originAgent : Str
  currentAgent : Str

/-- One item of the tracestate header, with the white space around it removed. -/
def Tracestate.read (U : UnicodeDb) (t : Tracestate) (item : Str) : Tracestate :=
  if agentChainPrefix.isPrefixOf item then
    let rawChain := (((item.drop agentChainPrefix.length).splitOn ';').map
      (strip U.isSpace)).filter (· ≠ [])
    { t with agentChain := rawChain.take maxAgentChainLength }
  else if originPrefix.isPrefixOf item then
    { t with originAgent := (item.drop originPrefix.length).take 256 }
  else if currentPrefix.isPrefixOf item then
    { t with currentAgent := (item.drop currentPrefix.length).take 256 }
  else t

/-- The tracestate header: one that is too long is rejected as a whole. -/
def parseTracestate (U : UnicodeDb) (tracestate : Str) : Tracestate :=
  if tracestate ≠ [] ∧ tracestate.length ≤ maxTracestateSize then
    ((tracestate.splitOn ',').map (strip U.isSpace)).foldl (Tracestate.read U) ⟨[], [], []⟩
  else ⟨[], [], []⟩

/-- The loop over the items of the baggage header, after `itemCount` of them. -/
def readBaggage {ν : Type} (U : UnicodeDb) (ofStr : Str → ν) :
    ℕ → List (Str × ν) → List Str → List (Str × ν)
  | _, baggage, [] => baggage
  | itemCount, baggage, item :: items =>
    if maxBaggageItems ≤ itemCount then baggage
    else
      match partition '=' (strip U.isSpace item) with
      | (k, true, v) =>
        readBaggage U ofStr (itemCount + 1) (PyDict.set baggage
          ((PercentEncoding.unquote k).take 256) (ofStr ((PercentEncoding.unquote v).take 4096)))
          items
      | (_, false, _) => readBaggage U ofStr itemCount baggage items

/-- The baggage header -/
def parseBaggage {ν : Type} (U : UnicodeDb) (ofStr : Str → ν) (baggage : Str) : List (Str × ν) :=
  if baggage ≠ [] ∧ baggage.length ≤ maxBaggageSize then
    readBaggage U ofStr 0 [] (baggage.splitOn ',')
  else []

/-- The timeout header -/
def parseTimeout (U : UnicodeDb) (timeout : Str) : ℤ :=
  if timeout = [] then defaultTimeoutMs
  else
    match U.int timeout with
    | some rawTimeout => clampTimeout rawTimeout
    | none => defaultTimeoutMs

/-- `headers_lower.get(name, "")` -/
def header (U : UnicodeDb) (headers : List (Str × Str)) (name : Str) : Str :=
  (PyDict.get (PyDict.update [] (headers.map fun e => (U.lower e.1, e.2))) name).getD []

/-- The identifiers that `from_headers` draws: the defaults, and the span of a valid parent. -/
structure Drawn where
  traceId : Str
  spanId : Str
  newSpanId : Str

/-- `from_headers` -/
def fromHeaders {ν : Type} (U : UnicodeDb) (ofStr : Str → ν) (drawn : Drawn)
    (headers : List (Str × Str)) : DistributedExecutionContext ν :=
  let trace := validateTraceparent U (header U headers traceparentHeader)
  let tracestate := parseTracestate U (header U headers tracestateHeader)
  { traceId := (trace.map fun t => t.1).getD drawn.traceId
    spanId := if trace.isSome then drawn.newSpanId else drawn.spanId
    parentSpanId := trace.map fun t => t.2.1
    traceFlags := (trace.map fun t => t.2.2).getD 1
    agentChain := tracestate.agentChain
    originAgent := tracestate.originAgent
    currentAgent := tracestate.currentAgent
    timeoutRemainingMs := parseTimeout U (header U headers timeoutHeader)
    retryCount := 0
    maxRetries := 3
    baggage := parseBaggage U ofStr (header U headers baggageHeader) }

/-! ### The receiver finds what was sent -/

theorem get_setSome (headers : List (Str × Str)) (key name : Str) (value : Option Str) :
    PyDict.get (setSome headers key value) name =
      if name = key then value.or (PyDict.get headers name) else PyDict.get headers name := by
  cases value with
  | none => simp [setSome]
  | some v => rw [setSome, PyDict.get, PyDict.lookup_set, Option.some_or, ← PyDict.get]

theorem nodup_setSome {headers : List (Str × Str)} (h : (headers.map Prod.fst).Nodup) (key : Str)
    (value : Option Str) : ((setSome headers key value).map Prod.fst).Nodup := by
  cases value with
  | none => exact h
  | some v => exact PyDict.nodup_set h key v

theorem mem_of_mem_setSome {headers : List (Str × Str)} {key : Str} {value : Option Str}
    {e : Str × Str} (h : e ∈ setSome headers key value) : e.1 = key ∨ e ∈ headers := by
  cases value with
  | none => exact .inr h
  | some v =>
    rcases PyDict.mem_of_mem_set h with rfl | h
    · exact .inl rfl
    · exact .inr h

namespace DistributedExecutionContext

variable {ν : Type} (str : ν → Str) (ctx : DistributedExecutionContext ν)

theorem nodup_toHeaders : ((ctx.toHeaders str).map Prod.fst).Nodup :=
  nodup_setSome (PyDict.nodup_set (nodup_setSome (nodup_setSome
    (PyDict.nodup_set (d := []) List.nodup_nil _ _) _ _) _ _) _ _) _ _

/-- The headers have names of lower-case ASCII letters. -/
theorem lower_toHeaders (U : UnicodeDb) {e : Str × Str} (he : e ∈ ctx.toHeaders str) :
    U.lower e.1 = e.1 := by
  have hname : e.1 ∈ [agentChainHeader, timeoutHeader, baggageHeader, tracestateHeader,
      traceparentHeader] := by
    rcases mem_of_mem_setSome he with h | h
    · simp [h]
    · rcases PyDict.mem_of_mem_set h with rfl | h
      · simp
      · rcases mem_of_mem_setSome h with h | h
        · simp [h]
        · rcases mem_of_mem_setSome h with h | h
          · simp [h]
          · rcases PyDict.mem_of_mem_set h with rfl | h
            · simp
            · cases h
  have hascii : ∀ name ∈ [agentChainHeader, timeoutHeader, baggageHeader, tracestateHeader,
      traceparentHeader], (name.all (·.toNat < 128)) = true ∧ name.map Char.toLower = name := by
    decide
  obtain ⟨hall, hlower⟩ := hascii _ hname
  rw [U.lower_ascii _ fun c hc => decide_eq_true_eq.mp (List.all_eq_true.mp hall c hc), hlower]

/-- What is found under each of the headers that are read. -/
theorem get_toHeaders :
    PyDict.get (ctx.toHeaders str) traceparentHeader = some ctx.traceparent ∧
    PyDict.get (ctx.toHeaders str) tracestateHeader =
      (if ctx.tracestateParts = [] then none else some ctx.tracestate) ∧
    PyDict.get (ctx.toHeaders str) baggageHeader =
      (if ctx.baggage = [] then none else some (List.intercalate [','] (ctx.baggageItems str))) ∧
    PyDict.get (ctx.toHeaders str) timeoutHeader = some (intRepr ctx.timeoutRemainingMs) := by
  have hne : traceparentHeader ≠ tracestateHeader ∧ traceparentHeader ≠ baggageHeader ∧
      traceparentHeader ≠ timeoutHeader ∧ traceparentHeader ≠ agentChainHeader ∧
      tracestateHeader ≠ baggageHeader ∧ tracestateHeader ≠ timeoutHeader ∧
      tracestateHeader ≠ agentChainHeader ∧ baggageHeader ≠ timeoutHeader ∧
      baggageHeader ≠ agentChainHeader ∧ timeoutHeader ≠ agentChainHeader := by decide
  obtain ⟨h₁, h₂, h₃, h₄, h₅, h₆, h₇, h₈, h₉, h₁₀⟩ := hne
  have hset : ∀ (headers : List (Str × Str)) (key name value : Str),
      PyDict.get (PyDict.set headers key value) name =
        if name = key then some value else PyDict.get headers name :=
    fun headers key name value => PyDict.lookup_set headers key name value
  have hempty : ∀ name, PyDict.get ([] : List (Str × Str)) name = none := fun _ => rfl
  simp only [toHeaders, get_setSome, hset, hempty]
  simp [h₁, h₂, h₃, h₄, h₅, h₅.symm, h₆, h₇, h₈, h₉, h₁₀, h₁.symm, h₂.symm]

end DistributedExecutionContext

/-- **The receiver** finds the headers that were sent. -/
theorem header_toHeaders {ν : Type} (U : UnicodeDb) (str : ν → Str)
    (ctx : DistributedExecutionContext ν) (name : Str) :
    header U (ctx.toHeaders str) name = (PyDict.get (ctx.toHeaders str) name).getD [] := by
  have hmap : (ctx.toHeaders str).map (fun e => (U.lower e.1, e.2)) = ctx.toHeaders str := by
    refine (List.map_congr_left fun e he => ?_).trans (List.map_id _)
    rw [ctx.lower_toHeaders str U he]
    rfl
  rw [header, hmap, PyDict.get, PyDict.lookup_update_nil (ctx.nodup_toHeaders str), ← PyDict.get]

theorem header_tracestate {ν : Type} (U : UnicodeDb) (str : ν → Str)
    (ctx : DistributedExecutionContext ν) :
    header U (ctx.toHeaders str) tracestateHeader = ctx.tracestate := by
  rw [header_toHeaders, (ctx.get_toHeaders str).2.1]
  split
  · next h => rw [DistributedExecutionContext.tracestate, h]; rfl
  · rfl

theorem header_timeout {ν : Type} (U : UnicodeDb) (str : ν → Str)
    (ctx : DistributedExecutionContext ν) :
    header U (ctx.toHeaders str) timeoutHeader = intRepr ctx.timeoutRemainingMs := by
  rw [header_toHeaders, (ctx.get_toHeaders str).2.2.2, Option.getD_some]

end ContextPropagation

end OpenLangGraph

import OpenLangGraph.Foundation.PyString

/-!
# The middleware for JSON that was encoded twice

`DoubleEncodedJSONMiddleware` wraps `receive`. When the last message of a body arrives, it reads the
whole body as JSON, once more if the value is a string, and hands on the value written anew by
`json.dumps`, instead of the last message.

## What becomes of the earlier messages

They have been handed on already. So when a body is written anew, what the application reads is
the earlier messages followed by the new body. A body that is not written anew is handed on message
by message, as it came.

## Scope

`json.loads` and `json.dumps` are a parameter, with the exceptions that they raise. The headers are
given as strings, decoded as Latin-1.

## Main definitions

* `DoubleEncodedJson.receiveWrapper`, `DoubleEncodedJson.drain`
* `DoubleEncodedJson.rewriteBody`

## Main results

* `DoubleEncodedJson.drain_chunked` — what the application reads of a body in several messages
* `DoubleEncodedJson.chunking_iff` — when the messages do not matter, exactly
-/

namespace OpenLangGraph

open PyString

abbrev Bytes := List UInt8

namespace DoubleEncodedJson

/-! ### JSON texts -/

/-- An exception of the codec. The middleware catches those that are a `ValueError`. -/
inductive JsonError
  /-- `JSONDecodeError`, `UnicodeDecodeError`, or a number with too many digits -/
  | valueError
  /-- any other, such as `RecursionError` -/
  | other
  deriving DecidableEq

/-- What the middleware uses of `json`, for values `ν`. -/
structure JsonCodec (ν : Type*) where
  /-- `json.loads(body.decode("utf-8"))` -/
  loadsBytes : Bytes → Except JsonError ν
  /-- `json.loads(text)` -/
  loads : Str → Except JsonError ν
  /-- the value, if it is a `str` -/
  asStr : ν → Option Str
  /-- `json.dumps(value).encode("utf-8")` -/
  dumps : ν → Except JsonError Bytes

variable {ν : Type*} (codec : JsonCodec ν)

/-- The new body. -/
def rewriteBody (body : Bytes) : Except JsonError Bytes :=
  (codec.loadsBytes body).bind fun parsed =>
    match codec.asStr parsed with
    | some text => (codec.loads text).bind codec.dumps
    | none => codec.dumps parsed

/-! ### Messages -/

/-- What `receive` returns. -/
inductive AsgiMessage
  | request (body : Bytes) (moreBody : Bool)
  | disconnect

structure HttpScope where
  method : Str
  headers : List (Str × Str)

def contentTypeName : Str := "content-type".toList

def applicationJson : Str := "application/json".toList

/-- `headers.get(b"content-type", b"")`, of the dictionary: the last one counts. -/
def HttpScope.contentType (scope : HttpScope) : Str :=
  optOrEmpty (scope.headers.reverse.lookup contentTypeName)

/-- The middleware wraps `receive`. -/
def HttpScope.isWrapped (scope : HttpScope) : Bool :=
  ["POST".toList, "PUT".toList, "PATCH".toList].contains scope.method && scope.contentType ≠ []

/-- `receive_wrapper`: the parts so far, and what the application receives. Without a wrapper it
receives the message itself. -/
def receiveWrapper (scope : HttpScope) (parts : List Bytes) (message : AsgiMessage) :
    List Bytes × Except JsonError AsgiMessage :=
  if scope.isWrapped then
    match message with
    | .disconnect => (parts, .ok .disconnect)
    | .request body true => (parts ++ [body], .ok (.request body true))
    | .request body false =>
      let aggregated := (parts ++ [body]).flatten
      if aggregated.isEmpty then (parts ++ [body], .ok (.request body false))
      else
        match rewriteBody codec aggregated with
        | .ok newBody => (parts ++ [body], .ok (.request newBody false))
        | .error .valueError => (parts ++ [body], .ok (.request body false))
        | .error .other => (parts ++ [body], .error .other)
  else (parts, .ok message)

/-- The headers of the scope after the last message: the type of a new body is
`application/json`. -/
def HttpScope.headersAfter (scope : HttpScope) (body : Bytes) : List (Str × Str) :=
  match scope.isWrapped && !body.isEmpty, rewriteBody codec body with
  | true, .ok _ =>
    if scope.contentType ≠ applicationJson then
      scope.headers.filter (·.1 ≠ contentTypeName) ++ [(contentTypeName, applicationJson)]
    else scope.headers
  | _, _ => scope.headers

/-! ### The application -/

/-- What the application has after it has called `receive` until no more body is to come. -/
inductive Drained
  | body (bytes : Bytes)
  | disconnected
  | raised
  /-- it waits for the next message -/
  | waiting
  deriving DecidableEq

/-- The application, with what it has read. -/
def drain (scope : HttpScope) (parts : List Bytes) (read : Bytes) : List AsgiMessage → Drained
  | [] => .waiting
  | message :: messages =>
    match receiveWrapper codec scope parts message with
    | (parts, .ok (.request body true)) => drain scope parts (read ++ body) messages
    | (_, .ok (.request body false)) => .body (read ++ body)
    | (_, .ok .disconnect) => .disconnected
    | (_, .error _) => .raised

/-- A body in several messages, of which the last one is given apart. -/
def chunked (chunks : List Bytes) (last : Bytes) : List AsgiMessage :=
  chunks.map (.request · true) ++ [.request last false]

/-- What the application reads of a request. -/
def delivered (scope : HttpScope) (messages : List AsgiMessage) : Drained :=
  drain codec scope [] [] messages

/-! ### What is read -/

/-- What becomes of the last message of a body, after `before` has been handed on. -/
def lastRead (scope : HttpScope) (before last : Bytes) : Drained :=
  if scope.isWrapped && !(before ++ last).isEmpty then
    match rewriteBody codec (before ++ last) with
    | .ok newBody => .body (before ++ newBody)
    | .error .valueError => .body (before ++ last)
    | .error .other => .raised
  else .body (before ++ last)

variable {codec} {scope : HttpScope}

/-- One message that is not the last one is handed on. -/
theorem drain_more (parts : List Bytes) (read chunk : Bytes) (messages : List AsgiMessage) :
    drain codec scope parts read (.request chunk true :: messages) =
      drain codec scope (if scope.isWrapped then parts ++ [chunk] else parts) (read ++ chunk)
        messages := by
  rw [drain, receiveWrapper]
  by_cases h : scope.isWrapped = true
  · rw [if_pos h, if_pos h]
  · rw [if_neg h, if_neg h]

/-- The last message is handed on, or the new body. -/
theorem drain_last {parts : List Bytes} {read : Bytes} (last : Bytes)
    (hread : scope.isWrapped = true → parts.flatten = read) :
    drain codec scope parts read [.request last false] = lastRead codec scope read last := by
  rw [drain, receiveWrapper, lastRead]
  by_cases h : scope.isWrapped = true
  · have hbody : (parts ++ [last]).flatten = read ++ last := by simp [hread h]
    rw [if_pos h, h, Bool.true_and]
    simp only [hbody]
    by_cases hempty : (read ++ last).isEmpty = true
    · simp [hempty]
    · simp only [hempty, Bool.false_eq_true, if_false, Bool.not_false, if_true]
      rcases rewriteBody codec (read ++ last) with (_ | _) | newBody <;> rfl
  · simp [h]

/-- **The messages of a body.** The application reads all messages but the last one as they are,
and then what becomes of the last one. -/
theorem drain_chunked {parts : List Bytes} {read : Bytes} (chunks : List Bytes) (last : Bytes)
    (hread : scope.isWrapped = true → parts.flatten = read) :
    drain codec scope parts read (chunked chunks last) =
      lastRead codec scope (read ++ chunks.flatten) last := by
  induction chunks generalizing parts read with
  | nil =>
    rw [List.flatten_nil, List.append_nil]
    exact drain_last last hread
  | cons chunk chunks ih =>
    show drain codec scope parts read (.request chunk true :: chunked chunks last) = _
    rw [drain_more, ih, List.flatten_cons, List.append_assoc]
    intro h
    rw [if_pos h, List.flatten_append, List.flatten_singleton, hread h]

theorem delivered_chunked (chunks : List Bytes) (last : Bytes) :
    delivered codec scope (chunked chunks last) = lastRead codec scope chunks.flatten last :=
  drain_chunked chunks last fun _ => rfl

/-- The body is written anew. -/
def isRewritten (codec : JsonCodec ν) (scope : HttpScope) (body : Bytes) : Bool :=
  scope.isWrapped && !body.isEmpty && (rewriteBody codec body).isOk

theorem lastRead_of_isRewritten {before last newBody : Bytes}
    (h : isRewritten codec scope (before ++ last) = true)
    (hnew : rewriteBody codec (before ++ last) = .ok newBody) :
    lastRead codec scope before last = .body (before ++ newBody) := by
  have hwrapped := (Bool.and_eq_true_iff.mp h).1
  rw [lastRead, if_pos hwrapped, hnew]

/-- A body that is not written anew is handed on, or the middleware raises. -/
theorem lastRead_of_not {before last : Bytes}
    (h : isRewritten codec scope (before ++ last) = false) :
    lastRead codec scope before last = lastRead codec scope [] (before ++ last) := by
  rw [lastRead, lastRead, List.nil_append]
  by_cases hwrapped : (scope.isWrapped && !(before ++ last).isEmpty) = true
  · rw [isRewritten, hwrapped, Bool.true_and] at h
    rw [if_pos hwrapped, if_pos hwrapped]
    cases hnew : rewriteBody codec (before ++ last) with
    | ok newBody =>
      rw [hnew] at h
      exact Bool.noConfusion h
    | error e => cases e <;> rfl
  · rw [if_neg hwrapped, if_neg hwrapped]

/-- **Chunking.** What the application reads of a body does not depend on its messages exactly if
the body is not written anew, or nothing has been handed on before the last message. -/
theorem chunking_iff (codec : JsonCodec ν) (scope : HttpScope) (chunks : List Bytes)
    (last : Bytes) :
    delivered codec scope (chunked chunks last) =
        delivered codec scope (chunked [] (chunks.flatten ++ last)) ↔
      isRewritten codec scope (chunks.flatten ++ last) = false ∨
        chunks.all List.isEmpty = true := by
  rw [delivered_chunked, delivered_chunked, List.flatten_nil]
  by_cases h : isRewritten codec scope (chunks.flatten ++ last) = true
  · rw [h]
    simp only [Bool.true_eq_false, false_or]
    have hok := (Bool.and_eq_true_iff.mp h).2
    cases hnew : rewriteBody codec (chunks.flatten ++ last) with
    | error e =>
      rw [hnew] at hok
      exact Bool.noConfusion hok
    | ok newBody =>
      have hwhole : lastRead codec scope [] (chunks.flatten ++ last) = .body ([] ++ newBody) :=
        lastRead_of_isRewritten h hnew
      rw [lastRead_of_isRewritten h hnew, hwhole]
      simp
  · have hno := Bool.eq_false_iff.mpr h
    exact iff_of_true (lastRead_of_not hno) (.inl hno)

/-- A body that is no JSON text reaches the application as it is. -/
theorem delivered_of_valueError {chunks : List Bytes} {last : Bytes}
    (h : rewriteBody codec (chunks.flatten ++ last) = .error .valueError) :
    delivered codec scope (chunked chunks last) = .body (chunks.flatten ++ last) := by
  rw [delivered_chunked, lastRead, h]
  split <;> rfl

/-- A codec that knows the text `{}`. -/
def emptyObject : JsonCodec Unit where
  loadsBytes body := if body = [123, 125] then .ok () else .error .valueError
  loads _ := .error .valueError
  asStr _ := none
  dumps _ := .ok [123, 125]

def jsonRequest : HttpScope := ⟨"POST".toList, [(contentTypeName, applicationJson)]⟩

/-- The two characters of the text in two messages: the first one is read twice. -/
theorem first_chunk_twice :
    ¬ ∀ (codec : JsonCodec Unit) (scope : HttpScope) (chunks : List Bytes) (last : Bytes),
      delivered codec scope (chunked chunks last) =
        delivered codec scope (chunked [] (chunks.flatten ++ last)) := by
  intro h
  have hread := h emptyObject jsonRequest [[123]] [125]
  revert hread
  decide

end DoubleEncodedJson

end OpenLangGraph

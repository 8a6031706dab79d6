import OpenLangGraph.Models.Audit
import OpenLangGraph.Utils.Masking

/-!
# The audit middleware

What `AuditMiddleware` of `middleware/audit.py` makes of a request: the body that it captures while
the application receives it, and the payload that it puts into the outbox.

## Scope

Which action, resource type and resource id are inferred from the path, which addresses and users
are found in the scope, and what is left of an exception's message when it is sanitized, may be
anything of the type it has. So may what the JSON library makes of a body, and the length of the
text that it writes.

## Main definitions

* `BodyCapture`, `receive` — `receive_wrapper`
* `maskAndTruncate`, `requestBody`
* `AuditedRequest`, `AuditedRequest.payload` — `_log_audit`

## Main results

* `asOptObj_requestBody` — when the captured body is an object or nothing
-/

open PyString

namespace OpenLangGraph

namespace AuditMiddleware

/-- `MAX_BODY_SIZE` -/
def maxBodySize : ℕ := 10000

/-- What becomes of `json.loads(aggregated.decode("utf-8"))`. -/
inductive LoadResult
  | json (value : Json)
  /-- `JSONDecodeError` or `UnicodeDecodeError` -/
  | notJson
  /-- any other exception, such as for a number with too many digits -/
  | raises

structure Environment where
  unicode : UnicodeDb
  loads : List UInt8 → LoadResult
  /-- The length of `json.dumps(masked, default=str)`; `none` is `TypeError` or `ValueError`. -/
  dumpsLength : Json → Option ℕ

/-! ### The body -/

/-- An `http.request` message. -/
structure Message where
  body : List UInt8
  moreBody : Bool

/-- What has been received of a body. -/
structure BodyCapture where
  /-- `body_size_accumulated` -/
  size : ℕ
  /-- `body_parts` -/
  parts : List UInt8
  /-- The size and the parts when the body was complete. -/
  complete : Option (ℕ × List UInt8)

def BodyCapture.empty : BodyCapture := ⟨0, [], none⟩

/-- `receive_wrapper` -/
def receive (c : BodyCapture) (message : Message) : BodyCapture :=
  let size := c.size + message.body.length
  let parts := if size ≤ maxBodySize then c.parts ++ message.body else c.parts
  { size, parts
    complete := if !message.moreBody && c.complete.isNone then some (size, parts) else c.complete }

/-- The body that is captured, if the method has one and the application receives all of it. -/
def captureBody (method : String) (received : List Message) : Option (ℕ × List UInt8) :=
  if method ∈ ["POST", "PUT", "PATCH"] then (received.foldl receive .empty).complete else none

def truncated (size : ℕ) : Json :=
  .ofEntries [("_truncated", .bool true), ("_size", .ofInt size)]

def binary (size : ℕ) : Json := .ofEntries [("_binary", .bool true), ("_size", .ofInt size)]

variable (env : Environment)

/-- `_mask_and_truncate` -/
def maskAndTruncate (body : Json) : Json :=
  if !body.truthy then .null
  else
    let masked := Masking.maskSensitiveData env.unicode 0 body
    match env.dumpsLength masked with
    | some length => if maxBodySize < length then truncated length else masked
    | none => .ofEntries [("_serialization_error", .bool true)]

/-- What is kept of a body of the given size that was loaded with this result. An exception that
is not caught leaves the context as it was. -/
def loadedBody (size : ℕ) : LoadResult → Json
  | .json value => maskAndTruncate env value
  | .notJson => binary size
  | .raises => .null

/-- `audit_ctx.request_body` -/
def requestBody : Option (ℕ × List UInt8) → Json
  | none => .null
  | some (size, aggregated) =>
    if maxBodySize < size then truncated size
    else if aggregated.isEmpty then .null
    else loadedBody env aggregated.length (env.loads aggregated)

/-- A JSON value that is kept as it is, but for what is masked: neither empty nor too long. -/
def isKept (value : Json) : Bool :=
  value.truthy &&
    (env.dumpsLength (Masking.maskSensitiveData env.unicode 0 value)).any (· ≤ maxBodySize)

/-- A JSON value that is kept, and not an object. -/
def isNonObject : Json → Bool
  | .obj _ => false
  | value => isKept env value

def isNonObjectResult : LoadResult → Bool
  | .json value => isNonObject env value
  | .notJson | .raises => false

/-- The body is such a value. -/
def isNonObjectBody : Option (ℕ × List UInt8) → Bool
  | none => false
  | some (size, aggregated) =>
    size ≤ maxBodySize && !aggregated.isEmpty && isNonObjectResult env (env.loads aggregated)

/-! ### The payload -/

/-- How the application ends. -/
inductive Ending
  | completed
  | cancelled
  | raised (errorClass errorMessage : String)

/-- A request, and what the middleware reads of it and of its response. -/
structure AuditedRequest where
  method : String
  path : String
  /-- The `http.request` messages that the application received. -/
  received : List Message
  /-- The status of the response, if it has started. -/
  status : Option ℤ
  isStreaming : Bool
  bytesSent : ℕ
  ending : Ending
  userId : String
  orgId : Option String
  action : AuditAction
  resourceType : AuditResourceType
  resourceId : Option String
  ipAddress : Option String
  userAgent : Option String
  responseSummary : Option (List (String × Json))
  durationMs : ℤ
  startTimestamp : ℤ
  /-- `start_timestamp.isoformat()` -/
  startIsoformat : String
  /-- `str(uuid.uuid4())` -/
  uuid : String
  uuid_ne : uuid ≠ ""

namespace AuditedRequest

variable (r : AuditedRequest)

def statusCode : ℤ :=
  match r.ending with
  | .completed => r.status.getD 0
  | .cancelled => 499
  | .raised _ _ => r.status.getD 500

def errorClass : Option String :=
  match r.ending with
  | .completed => none
  | .cancelled => some "CancelledError"
  | .raised errorClass _ => some errorClass

def errorMessage : Option String :=
  match r.ending with
  | .completed => none
  | .cancelled => some "Client closed connection"
  | .raised _ errorMessage => some errorMessage

/-- The response summary of the payload. -/
def summary : Option (List (String × Json)) :=
  if r.isStreaming then some [("bytes_sent", .ofInt r.bytesSent)]
  else r.responseSummary.filter fun entries => !entries.isEmpty

def body : Option (ℕ × List UInt8) := captureBody r.method r.received

/-- The payload of `_log_audit`, but for the timestamp. -/
def members : List (String × Json) :=
  [("id", .str r.uuid), ("user_id", .str r.userId), ("org_id", .ofOptStr r.orgId),
    ("action", .str r.action.value), ("resource_type", .str r.resourceType.value),
    ("resource_id", .ofOptStr r.resourceId), ("http_method", .str r.method), ("path", .str r.path),
    ("status_code", .ofInt r.statusCode), ("ip_address", .ofOptStr r.ipAddress),
    ("user_agent", .ofOptStr r.userAgent), ("request_body", requestBody env r.body),
    ("response_summary", .ofOptObj r.summary), ("duration_ms", .ofInt r.durationMs),
    ("error_message", .ofOptStr r.errorMessage), ("error_class", .ofOptStr r.errorClass),
    ("is_streaming", .bool r.isStreaming), ("metadata", .obj [])]

/-- The payload of `_log_audit`. -/
def payload : Json := .ofEntries (("timestamp", .str r.startIsoformat) :: r.members env)

end AuditedRequest

/-! ### What is an object -/

variable {env}

theorem asOptObj_truncated (size : ℕ) : (truncated size).asOptObj.isSome = true := by
  rw [truncated, Json.ofEntries]
  rfl

theorem asOptObj_binary (size : ℕ) : (binary size).asOptObj.isSome = true := by
  rw [binary, Json.ofEntries]
  rfl

theorem maskAndTruncate_of_isKept {value : Json} (h : isKept env value = true) :
    maskAndTruncate env value = Masking.maskSensitiveData env.unicode 0 value := by
  obtain ⟨htruthy, hlength⟩ := Bool.and_eq_true_iff.mp h
  rw [maskAndTruncate, htruthy]
  cases hdumps : env.dumpsLength (Masking.maskSensitiveData env.unicode 0 value) with
  | none =>
    rw [hdumps] at hlength
    cases hlength
  | some length =>
    rw [hdumps] at hlength
    simp only [hdumps]
    exact if_neg (Nat.not_lt.mpr (of_decide_eq_true hlength))

/-- A value that is not kept is replaced by nothing or by a notice. -/
theorem asOptObj_maskAndTruncate_of_not {value : Json} (h : isKept env value = false) :
    (maskAndTruncate env value).asOptObj.isSome = true := by
  rw [maskAndTruncate]
  split
  · rfl
  · rename_i htruthy
    have htruthy : value.truthy = true := by simpa using htruthy
    rw [isKept, htruthy, Bool.true_and] at h
    dsimp only
    split
    · rename_i length hdumps
      rw [hdumps, Option.any_some, decide_eq_false_iff_not, Nat.not_le] at h
      rw [if_pos h]
      exact asOptObj_truncated length
    · rw [Json.ofEntries]
      rfl

/-- What is left of a value that is kept is an object exactly if the value is one. -/
theorem asOptObj_maskSensitiveData {value : Json} (h : value.truthy = true) :
    (Masking.maskSensitiveData env.unicode 0 value).asOptObj.isSome = true ↔
      ∃ entries, value = .obj entries := by
  constructor
  · intro hsome
    obtain ⟨entries, hentries⟩ := Option.isSome_iff_exists.mp hsome
    have hmasked := Json.asOptObj_eq_some hentries
    by_contra hobj
    have hobj : ∀ entries, value ≠ .obj entries := fun entries hvalue => hobj ⟨entries, hvalue⟩
    cases entries with
    | some entries => exact Masking.maskSensitiveData_ne_obj _ hobj entries hmasked
    | none => exact absurd (Masking.eq_null_of_mask hmasked) (by rintro rfl; cases h)
  · rintro ⟨entries, rfl⟩
    rw [Masking.maskSensitiveData_obj]
    rfl

theorem asOptObj_maskAndTruncate (value : Json) :
    (maskAndTruncate env value).asOptObj.isSome = true ↔ isNonObject env value = false := by
  cases hkept : isKept env value with
  | false =>
    refine ⟨fun _ => ?_, fun _ => asOptObj_maskAndTruncate_of_not hkept⟩
    rw [isNonObject.eq_def]
    split
    · rfl
    · exact hkept
  | true =>
    rw [maskAndTruncate_of_isKept hkept,
      asOptObj_maskSensitiveData (Bool.and_eq_true_iff.mp hkept).1, isNonObject.eq_def]
    split
    · rename_i entries
      exact ⟨fun _ => rfl, fun _ => ⟨entries, rfl⟩⟩
    · rename_i hobj
      rw [hkept]
      exact ⟨fun ⟨entries, hvalue⟩ => absurd hvalue (hobj entries), fun h => absurd h (by simp)⟩

/-- **When the captured body is an object or nothing**: exactly if it is not a JSON value of
another kind that is kept. -/
theorem asOptObj_requestBody (body : Option (ℕ × List UInt8)) :
    (requestBody env body).asOptObj.isSome = true ↔ isNonObjectBody env body = false := by
  rw [requestBody.eq_def, isNonObjectBody.eq_def]
  split
  · exact ⟨fun _ => rfl, fun _ => rfl⟩
  · rename_i size aggregated
    by_cases hlong : maxBodySize < size
    · have hle : decide (size ≤ maxBodySize) = false := by
        rw [decide_eq_false_iff_not]
        omega
      simp [hlong, hle, asOptObj_truncated]
    · have hle : decide (size ≤ maxBodySize) = true := by
        rw [decide_eq_true_eq]
        omega
      rw [if_neg hlong, hle]
      cases aggregated.isEmpty with
      | true => exact ⟨fun _ => rfl, fun _ => rfl⟩
      | false =>
        show (loadedBody env aggregated.length (env.loads aggregated)).asOptObj.isSome = true ↔
          isNonObjectResult env (env.loads aggregated) = false
        cases env.loads aggregated with
        | json value => exact asOptObj_maskAndTruncate value
        | notJson => exact ⟨fun _ => rfl, fun _ => asOptObj_binary _⟩
        | raises => exact ⟨fun _ => rfl, fun _ => rfl⟩

end AuditMiddleware

end OpenLangGraph

import OpenLangGraph.Middleware.Audit
import OpenLangGraph.Services.AuditPartitions

/-!
# Reading the audit log

`_to_audit_entry` of `api/audit.py`, through which the listing and the JSON export of an
organization go, on the rows that the mover makes from the payloads of the middleware.

## Objects

`AuditEntry` admits no request body but an object. The middleware keeps any JSON value that is
neither empty nor too long, and the outbox and the table take it. A row with such a body cannot be
converted, and then the whole listing fails.

## Main definitions

* `toAuditEntry`, `auditEntries` — one row, and the rows of a listing

## Main results

* `exists_entry_iff` — when a request can be read back
* `isSome_auditEntries_iff` — when a listing succeeds
-/

namespace OpenLangGraph

open AuditOutbox

/-- The value of a column. -/
def AuditOutbox.AuditLog.column (row : AuditLog) (name : String) : Json :=
  (row.columns.lookup name).getD .null

namespace AuditApi

/-- `value or {}` -/
def orEmptyObj (value : Json) : Json := if value.truthy then value else .obj []

/-- `_to_audit_entry`; `none` is a `ValueError` of an enumeration or a `ValidationError`. -/
def toAuditEntry (row : AuditLog) : Option AuditEntry := do
  let id ← row.id.asStr
  let userId ← (row.column "user_id").asStr
  let orgId ← (row.column "org_id").asOptStr
  let action ← (row.column "action").asStr.bind AuditAction.ofValue
  let resourceType ← (row.column "resource_type").asStr.bind AuditResourceType.ofValue
  let resourceId ← (row.column "resource_id").asOptStr
  let httpMethod ← (row.column "http_method").asStr
  let path ← (row.column "path").asStr
  let ipAddress ← (row.column "ip_address").asOptStr
  let userAgent ← (row.column "user_agent").asOptStr
  let requestBody ← (row.column "request_body").asOptObj
  let responseSummary ← (row.column "response_summary").asOptObj
  let statusCode ← (row.column "status_code").asInt
  let durationMs ← (row.column "duration_ms").asInt
  let errorMessage ← (row.column "error_message").asOptStr
  let errorClass ← (row.column "error_class").asOptStr
  let isStreaming ← (row.column "is_streaming").asBool
  let metadata ← (orEmptyObj (row.column "metadata")).asObj
  return { id, timestamp := row.timestamp, userId, orgId, action, resourceType, resourceId,
           httpMethod, path, ipAddress, userAgent, requestBody, responseSummary, statusCode,
           durationMs, errorMessage, errorClass, isStreaming, metadata }

/-- `[_to_audit_entry(row) for row in rows]` -/
def auditEntries (rows : List AuditLog) : Option (List AuditEntry) := rows.mapM toAuditEntry

/-! ### The columns of a row -/

open AuditMiddleware

/-- The row of the audit log was made from the payload of the request. -/
def WasMoved (fromisoformat : String → Option ℤ) (env : Environment) (r : AuditedRequest)
    (log : AuditLog) : Prop :=
  ∃ row : OutboxRow, row.payload = r.payload env ∧ log.ComesFrom fromisoformat row

variable {fromisoformat : String → Option ℤ} {env : Environment} {r : AuditedRequest}
  {log : AuditLog}

theorem nodup_keys_payload (env : Environment) (r : AuditedRequest) :
    ((("timestamp", .str r.startIsoformat) :: r.members env).map Prod.fst).Nodup := by
  show ["timestamp", "id", "user_id", "org_id", "action", "resource_type", "resource_id",
    "http_method", "path", "status_code", "ip_address", "user_agent", "request_body",
    "response_summary", "duration_ms", "error_message", "error_class", "is_streaming",
    "metadata"].Nodup
  decide

/-- What the payload holds is what the mover looks up. -/
theorem lookup_eq_of_wasMoved {members : List (String × Json)} (h : r.payload env = .obj members)
    (name : String) :
    members.lookup name = (("timestamp", .str r.startIsoformat) :: r.members env).lookup name := by
  obtain rfl := Json.obj.inj h
  exact Json.lookup_insertEntries_of_nodup (nodup_keys_payload env r) name

/-- A column holds what the payload holds. -/
theorem column_eq (h : WasMoved fromisoformat env r log) {name : String} {value : Json}
    (hvalue : (("timestamp", .str r.startIsoformat) :: r.members env).lookup name = some value)
    (hname : (columnDefaults.lookup name).isSome = true) : log.column name = value := by
  obtain ⟨row, hrow, members, answers, hmembers, rfl⟩ := h
  obtain ⟨default, hdefault⟩ := Option.isSome_iff_exists.mp hname
  show ((columnDefaults.map fun column => (column.1, (members.lookup column.1).getD
    column.2)).lookup name).getD .null = value
  rw [Json.lookup_map, hdefault]
  show (members.lookup name).getD default = value
  rw [lookup_eq_of_wasMoved (hrow.symm.trans hmembers), hvalue, Option.getD_some]

/-- The entry that is to be read. -/
def entryOf (r : AuditedRequest) (requestBody : Option (List (String × Json))) : AuditEntry where
  id := r.uuid
  timestamp := r.startTimestamp
  userId := r.userId
  orgId := r.orgId
  action := r.action
  resourceType := r.resourceType
  resourceId := r.resourceId
  httpMethod := r.method
  path := r.path
  ipAddress := r.ipAddress
  userAgent := r.userAgent
  requestBody := requestBody
  responseSummary := r.summary
  statusCode := r.statusCode
  durationMs := r.durationMs
  errorMessage := r.errorMessage
  errorClass := r.errorClass
  isStreaming := r.isStreaming
  metadata := []

theorem id_eq (h : WasMoved fromisoformat env r log) : log.id = .str r.uuid := by
  obtain ⟨row, hrow, members, answers, hmembers, rfl⟩ := h
  show ((members.lookup "id").filter Json.truthy).getD (.str answers.uuid) = .str r.uuid
  have hid : members.lookup "id" = some (.str r.uuid) :=
    lookup_eq_of_wasMoved (hrow.symm.trans hmembers) "id"
  have htruthy : Json.truthy (.str r.uuid) = true := decide_eq_true r.uuid_ne
  rw [hid, Option.filter_some, if_pos htruthy, Option.getD_some]

theorem timestamp_eq (h : WasMoved fromisoformat env r log)
    (hutc : r.startIsoformat.endsWith "Z" = false)
    (hiso : fromisoformat r.startIsoformat = some r.startTimestamp) :
    log.timestamp = r.startTimestamp := by
  obtain ⟨row, hrow, members, answers, hmembers, rfl⟩ := h
  show parseTimestamp fromisoformat answers.now (members.lookup "timestamp") = r.startTimestamp
  have htimestamp : members.lookup "timestamp" = some (.str r.startIsoformat) :=
    lookup_eq_of_wasMoved (hrow.symm.trans hmembers) "timestamp"
  rw [htimestamp, parseTimestamp, hutc]
  show (fromisoformat r.startIsoformat).getD answers.now = r.startTimestamp
  rw [hiso, Option.getD_some]

/-- **A row is converted** if its request body can be, and then nothing else is lost. -/
theorem toAuditEntry_eq (h : WasMoved fromisoformat env r log)
    (hutc : r.startIsoformat.endsWith "Z" = false)
    (hiso : fromisoformat r.startIsoformat = some r.startTimestamp) :
    toAuditEntry log = (requestBody env r.body).asOptObj.map (entryOf r) := by
  have huserId : log.column "user_id" = .str r.userId := column_eq h rfl rfl
  have horgId : log.column "org_id" = .ofOptStr r.orgId := column_eq h rfl rfl
  have haction : log.column "action" = .str r.action.value := column_eq h rfl rfl
  have hresourceType : log.column "resource_type" = .str r.resourceType.value :=
    column_eq h rfl rfl
  have hresourceId : log.column "resource_id" = .ofOptStr r.resourceId := column_eq h rfl rfl
  have hmethod : log.column "http_method" = .str r.method := column_eq h rfl rfl
  have hpath : log.column "path" = .str r.path := column_eq h rfl rfl
  have hipAddress : log.column "ip_address" = .ofOptStr r.ipAddress := column_eq h rfl rfl
  have huserAgent : log.column "user_agent" = .ofOptStr r.userAgent := column_eq h rfl rfl
  have hbody : log.column "request_body" = requestBody env r.body := column_eq h rfl rfl
  have hsummary : log.column "response_summary" = .ofOptObj r.summary := column_eq h rfl rfl
  have hstatus : log.column "status_code" = .ofInt r.statusCode := column_eq h rfl rfl
  have hduration : log.column "duration_ms" = .ofInt r.durationMs := column_eq h rfl rfl
  have hmessage : log.column "error_message" = .ofOptStr r.errorMessage := column_eq h rfl rfl
  have hclass : log.column "error_class" = .ofOptStr r.errorClass := column_eq h rfl rfl
  have hstreaming : log.column "is_streaming" = .bool r.isStreaming := column_eq h rfl rfl
  have hmetadata : log.column "metadata" = .obj [] := column_eq h rfl rfl
  rw [toAuditEntry, id_eq h, timestamp_eq h hutc hiso, huserId, horgId, haction, hresourceType,
    hresourceId, hmethod, hpath, hipAddress, huserAgent, hbody, hsummary, hstatus, hduration,
    hmessage, hclass, hstreaming, hmetadata]
  simp only [Json.asStr, Json.asBool, Json.asOptStr_ofOptStr, Json.asOptObj_ofOptObj,
    Json.asInt_ofInt, Option.bind_some, AuditAction.ofValue_value, AuditResourceType.ofValue_value,
    Option.bind_eq_bind]
  cases (requestBody env r.body).asOptObj <;> rfl

/-! ### Reading back -/

/-- The entry has the fields of the payload. -/
def HasFieldsOf (env : Environment) (r : AuditedRequest) (entry : AuditEntry) : Prop :=
  entry.timestamp = r.startTimestamp ∧ entry.members = r.members env

theorem hasFieldsOf_entryOf {requestBody : Option (List (String × Json))}
    (h : (AuditMiddleware.requestBody env r.body).asOptObj = some requestBody) :
    HasFieldsOf env r (entryOf r requestBody) := by
  refine ⟨rfl, ?_⟩
  rw [AuditedRequest.members, Json.asOptObj_eq_some h]
  rfl

theorem isSome_toAuditEntry_iff (h : WasMoved fromisoformat env r log)
    (hutc : r.startIsoformat.endsWith "Z" = false)
    (hiso : fromisoformat r.startIsoformat = some r.startTimestamp) :
    (toAuditEntry log).isSome = true ↔ isNonObjectBody env r.body = false := by
  rw [toAuditEntry_eq h hutc hiso, Option.isSome_map, asOptObj_requestBody]

/-- **When a listing succeeds**: exactly if no request of it has a body that is a JSON value other
than an object. -/
theorem isSome_auditEntries_iff {requests : List AuditedRequest} {logs : List AuditLog}
    (h : List.Forall₂ (WasMoved fromisoformat env) requests logs)
    (hutc : ∀ r ∈ requests, r.startIsoformat.endsWith "Z" = false)
    (hiso : ∀ r ∈ requests, fromisoformat r.startIsoformat = some r.startTimestamp) :
    (auditEntries logs).isSome = true ↔
      ∀ r ∈ requests, isNonObjectBody env r.body = false := by
  induction h with
  | nil => exact ⟨fun _ r hr => absurd hr List.not_mem_nil, fun _ => rfl⟩
  | @cons r log requests logs hmoved _ ih =>
    obtain ⟨hutc₁, hutc⟩ := List.forall_mem_cons.mp hutc
    obtain ⟨hiso₁, hiso⟩ := List.forall_mem_cons.mp hiso
    have hfirst := isSome_toAuditEntry_iff hmoved hutc₁ hiso₁
    have hrest := ih hutc hiso
    rw [List.forall_mem_cons, ← hfirst, ← hrest, auditEntries, List.mapM_cons]
    cases toAuditEntry log with
    | none => simp
    | some entry =>
      show (((logs.mapM toAuditEntry).bind fun entries => some (entry :: entries)).isSome = true) ↔
        true = true ∧ (logs.mapM toAuditEntry).isSome = true
      cases logs.mapM toAuditEntry with
      | none => simp
      | some entries => simp

/-- **When a request can be read back**: exactly if its captured body is not a JSON value other
than an object. -/
theorem exists_entry_iff (env : Environment) (r : AuditedRequest)
    (fromisoformat : String → Option ℤ) {row : OutboxRow} {answers : InsertAnswers} {log : AuditLog}
    (hrow : row.payload = r.payload env) (hmoved : attempt fromisoformat row answers = .moved log)
    (hutc : r.startIsoformat.endsWith "Z" = false)
    (hiso : fromisoformat r.startIsoformat = some r.startTimestamp) :
    (∃ entry, toAuditEntry log = some entry ∧ HasFieldsOf env r entry) ↔
      isNonObjectBody env r.body = false := by
  have h : WasMoved fromisoformat env r log := ⟨row, hrow, attempt_eq_moved hmoved⟩
  rw [← isSome_toAuditEntry_iff h hutc hiso, toAuditEntry_eq h hutc hiso, Option.isSome_map]
  constructor
  · rintro ⟨entry, hentry, -⟩
    obtain ⟨requestBody, hbody, -⟩ := Option.map_eq_some_iff.mp hentry
    exact Option.isSome_of_mem hbody
  · intro hsome
    obtain ⟨requestBody, hbody⟩ := Option.isSome_iff_exists.mp hsome
    exact ⟨entryOf r requestBody, Option.map_eq_some_iff.mpr ⟨requestBody, hbody, rfl⟩,
      hasFieldsOf_entryOf hbody⟩

/-! ### A body that is a list -/

/-- `json.loads` and `json.dumps` on the text `[1]`. -/
def exampleEnvironment : Environment where
  unicode := .ascii
  loads body := if body = [0x5b, 0x31, 0x5d] then .json (.arr [.num (.finite 1)]) else .notJson
  dumpsLength _ := some 3

/-- A request with the given body. -/
def exampleRequest (body : List UInt8) : AuditedRequest where
  method := "POST"
  path := "/threads/search"
  received := [⟨body, false⟩]
  status := some 422
  isStreaming := false
  bytesSent := 0
  ending := .completed
  userId := "user"
  orgId := some "org"
  action := .search
  resourceType := .thread
  resourceId := none
  ipAddress := none
  userAgent := none
  responseSummary := none
  durationMs := 1
  startTimestamp := 1777593600
  startIsoformat := "2026-05-01T00:00:00+00:00"
  uuid := "log"
  uuid_ne := by decide

/-- Its row in the outbox. -/
def exampleEntry (body : List UInt8) : OutboxRow where
  id := "entry"
  createdAt := 0
  payload := (exampleRequest body).payload exampleEnvironment
  processed := false

theorem utc_exampleRequest (body : List UInt8) :
    (exampleRequest body).startIsoformat.endsWith "Z" = false := by
  show ("2026-05-01T00:00:00+00:00".endsWith "Z") = false
  rw [String.endsWith_eq_endsWith_toSlice, String.Slice.endsWith_string_eq_false_iff,
    String.copy_toSlice]
  decide

theorem fromisoformat_exampleRequest (body : List UInt8) :
    Mover.aprilOrMay (exampleRequest body).startIsoformat =
      some (exampleRequest body).startTimestamp := by
  show Mover.aprilOrMay "2026-05-01T00:00:00+00:00" = some 1777593600
  decide

/-- A request whose body is not JSON. -/
theorem exists_entry_not_json :
    ∃ log, attempt Mover.aprilOrMay (exampleEntry [0x5b]) succeeds = .moved log ∧
      ∃ entry, toAuditEntry log = some entry ∧
        HasFieldsOf exampleEnvironment (exampleRequest [0x5b]) entry :=
  ⟨_, rfl, (exists_entry_iff exampleEnvironment (exampleRequest [0x5b]) Mover.aprilOrMay
    (rfl : (exampleEntry [0x5b]).payload = _)
    (rfl : attempt Mover.aprilOrMay (exampleEntry [0x5b]) succeeds = _)
    (utc_exampleRequest _) (fromisoformat_exampleRequest _)).mpr (by decide)⟩

/-- **A request that cannot be read back**: its body is the list `[1]`. -/
theorem entry_list_body :
    ¬ ∀ (env : Environment) (r : AuditedRequest) (fromisoformat : String → Option ℤ)
      (row : OutboxRow) (answers : InsertAnswers) (log : AuditLog),
      row.payload = r.payload env → attempt fromisoformat row answers = .moved log →
      r.startIsoformat.endsWith "Z" = false →
      fromisoformat r.startIsoformat = some r.startTimestamp →
        ∃ entry, toAuditEntry log = some entry ∧ HasFieldsOf env r entry := by
  intro h
  obtain ⟨entry, hentry, -⟩ := h exampleEnvironment (exampleRequest [0x5b, 0x31, 0x5d])
    Mover.aprilOrMay (exampleEntry [0x5b, 0x31, 0x5d]) succeeds _ rfl rfl (utc_exampleRequest _)
    (fromisoformat_exampleRequest _)
  have hmoved : WasMoved Mover.aprilOrMay exampleEnvironment
      (exampleRequest [0x5b, 0x31, 0x5d]) _ :=
    ⟨exampleEntry [0x5b, 0x31, 0x5d], rfl, attempt_eq_moved
      (rfl : attempt Mover.aprilOrMay (exampleEntry [0x5b, 0x31, 0x5d]) succeeds = _)⟩
  have hobject := (isSome_toAuditEntry_iff hmoved (utc_exampleRequest _)
    (fromisoformat_exampleRequest _)).mp (Option.isSome_of_mem hentry)
  exact absurd hobject (by decide)

end AuditApi

end OpenLangGraph

import OpenLangGraph.Foundation.Json

/-!
# The models of the audit log

`AuditAction`, `AuditResourceType` and `AuditEntry` of `models/audit.py`. An entry is made of the
values of a row; a value that is not of the type of its field is a validation error, which is
`none`.

## Main definitions

* `AuditAction`, `AuditResourceType`, with `value` and the constructor from a value
* `AuditEntry`, `AuditEntry.members` — an entry, and its fields as JSON
-/

namespace OpenLangGraph

inductive AuditAction
  | create
  | read
  | update
  | delete
  | list
  | search
  | run
  | stream
  | cancel
  | copy
  | history
  | unknown
deriving DecidableEq

namespace AuditAction

def value : AuditAction → String
  | .create => "CREATE"
  | .read => "READ"
  | .update => "UPDATE"
  | .delete => "DELETE"
  | .list => "LIST"
  | .search => "SEARCH"
  | .run => "RUN"
  | .stream => "STREAM"
  | .cancel => "CANCEL"
  | .copy => "COPY"
  | .history => "HISTORY"
  | .unknown => "UNKNOWN"

def all : List AuditAction :=
  [.create, .read, .update, .delete, .list, .search, .run, .stream, .cancel, .copy, .history,
    .unknown]

/-- `AuditAction(value)` -/
def ofValue (value : String) : Option AuditAction := all.find? (·.value = value)

@[simp] theorem ofValue_value (action : AuditAction) : ofValue action.value = some action := by
  cases action <;> decide

end AuditAction

inductive AuditResourceType
  | assistant
  | thread
  | run
  | store
  | organization
  | apiKey
  | agent
  | audit
  | unknown
deriving DecidableEq

namespace AuditResourceType

def value : AuditResourceType → String
  | .assistant => "assistant"
  | .thread => "thread"
  | .run => "run"
  | .store => "store"
  | .organization => "organization"
  | .apiKey => "api_key"
  | .agent => "agent"
  | .audit => "audit"
  | .unknown => "unknown"

def all : List AuditResourceType :=
  [.assistant, .thread, .run, .store, .organization, .apiKey, .agent, .audit, .unknown]

/-- `AuditResourceType(value)` -/
def ofValue (value : String) : Option AuditResourceType := all.find? (·.value = value)

@[simp] theorem ofValue_value (resourceType : AuditResourceType) :
    ofValue resourceType.value = some resourceType := by
  cases resourceType <;> decide

end AuditResourceType

structure AuditEntry where
  id : String
  /-- A moment. -/
  timestamp : ℤ
  userId : String
  orgId : Option String
  action : AuditAction
  resourceType : AuditResourceType
  resourceId : Option String
  httpMethod : String
  path : String
  ipAddress : Option String
  userAgent : Option String
  requestBody : Option (List (String × Json))
  responseSummary : Option (List (String × Json))
  statusCode : ℤ
  durationMs : ℤ
  errorMessage : Option String
  errorClass : Option String
  isStreaming : Bool
  metadata : List (String × Json)

/-- The fields of an entry as JSON, without the timestamp. -/
def AuditEntry.members (entry : AuditEntry) : List (String × Json) :=
  [("id", .str entry.id), ("user_id", .str entry.userId), ("org_id", .ofOptStr entry.orgId),
    ("action", .str entry.action.value), ("resource_type", .str entry.resourceType.value),
    ("resource_id", .ofOptStr entry.resourceId), ("http_method", .str entry.httpMethod),
    ("path", .str entry.path), ("status_code", .ofInt entry.statusCode),
    ("ip_address", .ofOptStr entry.ipAddress), ("user_agent", .ofOptStr entry.userAgent),
    ("request_body", .ofOptObj entry.requestBody),
    ("response_summary", .ofOptObj entry.responseSummary),
    ("duration_ms", .ofInt entry.durationMs), ("error_message", .ofOptStr entry.errorMessage),
    ("error_class", .ofOptStr entry.errorClass), ("is_streaming", .bool entry.isStreaming),
    ("metadata", .obj entry.metadata)]

end OpenLangGraph

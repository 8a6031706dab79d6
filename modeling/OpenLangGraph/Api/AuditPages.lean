import OpenLangGraph.Api.Audit
import OpenLangGraph.Foundation.Pagination

/-!
# Listing and exporting the audit log

`list_audit_logs` and `export_audit_logs` of `api/audit.py`. Both select rows of an organization by
the fields of `AuditLogFilters`; the first returns them by pages, the second streams them.

## What goes wrong

The order is by time only, so that rows of one time may come differently in every query, and a page
may repeat a row while another is on no page. The export builds its conditions anew and leaves out
the range of status codes and the times of the filter; it has times of its own. Without an end the
window is that of the moment of each query, and moves while the pages are read. The listing, and the
export as JSON, fail if a row cannot be converted.

## Scope

Times are moments, in the unit of the column. The table is fixed while the pages are read, and rows
of one time come in any order in any query. Whether the driver sends a value is an input. The caller
may list and export.

## Main definitions

* `AuditLogFilters`, `AuditExportRequest`
* `listAuditLogs`, `exportAuditLogs` — the endpoints, with the order that the database chooses
* `selects` — the rows that a filter is for
* `ListsAll`, `ExportsAll` — what all pages return, and what the export emits

## Main results

* `agree_iff` — when listing and export agree
* `agree_two_rows` — two rows of one time
-/

namespace OpenLangGraph

open AuditOutbox Pagination

/-! ### The requests -/

/-- What the endpoints make of a `datetime`. -/
structure Datetime where
  /-- The moment. -/
  instant : ℤ
  /-- `value - timedelta(days=7)`, unless that is before the first day of the calendar. -/
  weekBefore : Option ℤ

structure AuditLogFilters where
  orgId : String
  userId : Option String
  action : Option AuditAction
  resourceType : Option AuditResourceType
  resourceId : Option String
  startTime : Option Datetime
  endTime : Option Datetime
  statusCode : Option ℤ
  statusCodeGte : Option ℤ
  statusCodeLte : Option ℤ
  isStreaming : Option Bool

inductive AuditExportFormat
  | csv
  | json
deriving DecidableEq

structure AuditExportRequest where
  format : AuditExportFormat
  startTime : Option Datetime
  endTime : Option Datetime
  filters : Option AuditLogFilters

/-- The rows of the table, whose key is `(id, timestamp)`. -/
structure AuditTable where
  rows : List AuditLog
  nodup_keys : (rows.map fun row => (row.id, row.timestamp)).Nodup

namespace AuditApi

/-! ### The conditions of a query -/

/-- What stands in a `where`. -/
inductive Condition
  | orgId (value : String)
  | timestampGe (value : ℤ)
  | timestampLe (value : ℤ)
  | userId (value : String)
  | action (value : String)
  | resourceType (value : String)
  | resourceId (value : String)
  | statusCode (value : ℤ)
  | statusCodeGe (value : ℤ)
  | statusCodeLe (value : ℤ)
  | isStreaming (value : Bool)

/-- A comparison with `NULL` does not hold. -/
def Condition.holds (row : AuditLog) : Condition → Bool
  | .orgId value => (row.column "org_id").asStr == some value
  | .timestampGe value => value ≤ row.timestamp
  | .timestampLe value => row.timestamp ≤ value
  | .userId value => (row.column "user_id").asStr == some value
  | .action value => (row.column "action").asStr == some value
  | .resourceType value => (row.column "resource_type").asStr == some value
  | .resourceId value => (row.column "resource_id").asStr == some value
  | .statusCode value => (row.column "status_code").asInt == some value
  | .statusCodeGe value => (row.column "status_code").asInt.any (value ≤ ·)
  | .statusCodeLe value => (row.column "status_code").asInt.any (· ≤ value)
  | .isStreaming value => (row.column "is_streaming").asBool == some value

/-- The rows that meet all conditions. -/
def select (conditions : List Condition) (rows : List AuditLog) : List AuditLog :=
  rows.filter fun row => conditions.all (Condition.holds row)

/-- The default times; `none` is the `OverflowError` of the subtraction. -/
def window (now : Datetime) (startTime endTime : Option Datetime) : Option (ℤ × ℤ) :=
  let endTime := endTime.getD now
  let startTime := match startTime with
    | some startTime => some startTime.instant
    | none => endTime.weekBefore
  startTime.map fun startTime => (startTime, endTime.instant)

/-- `if value:`, for a string. -/
def whereTruthy (value : Option String) (condition : String → Condition) : List Condition :=
  ((value.filter (· ≠ "")).map condition).toList

/-- `if value is not None:`, which for a member of an enumeration is the same as `if value:`. -/
def whereGiven {T : Type} (value : Option T) (condition : T → Condition) : List Condition :=
  (value.map condition).toList

/-- The query of `list_audit_logs`. -/
def listConditions (orgId : String) (params : AuditLogFilters) (times : ℤ × ℤ) : List Condition :=
  [.orgId orgId, .timestampGe times.1, .timestampLe times.2]
    ++ whereTruthy params.userId .userId
    ++ whereGiven params.action (fun action => .action action.value)
    ++ whereGiven params.resourceType (fun resourceType => .resourceType resourceType.value)
    ++ whereTruthy params.resourceId .resourceId
    ++ whereGiven params.statusCode .statusCode
    ++ whereGiven params.statusCodeGte .statusCodeGe
    ++ whereGiven params.statusCodeLte .statusCodeLe
    ++ whereGiven params.isStreaming .isStreaming

/-- The query of `export_audit_logs`. -/
def exportConditions (orgId : String) (filters : Option AuditLogFilters) (times : ℤ × ℤ) :
    List Condition :=
  [.orgId orgId, .timestampGe times.1, .timestampLe times.2] ++
    match filters with
    | none => []
    | some filters =>
      whereTruthy filters.userId .userId
        ++ whereGiven filters.action (fun action => .action action.value)
        ++ whereGiven filters.resourceType (fun resourceType => .resourceType resourceType.value)
        ++ whereTruthy filters.resourceId .resourceId
        ++ whereGiven filters.statusCode .statusCode
        ++ whereGiven filters.isStreaming .isStreaming

/-! ### The endpoints -/

structure AuditLogListResponse where
  entries : List AuditEntry
  total : ℕ
  limit : ℕ
  offset : ℕ
  hasMore : Bool

/-- A line of the CSV. -/
structure CsvRow where
  id : Json
  timestamp : ℤ
  columns : List (String × Json)

/-- `value or ""` -/
def orEmpty (value : Json) : Json := if value.truthy then value else .str ""

def csvRow (row : AuditLog) : CsvRow where
  id := row.id
  timestamp := row.timestamp
  columns :=
    [("user_id", row.column "user_id"), ("org_id", orEmpty (row.column "org_id")),
      ("action", row.column "action"), ("resource_type", row.column "resource_type"),
      ("resource_id", orEmpty (row.column "resource_id")),
      ("http_method", row.column "http_method"), ("path", row.column "path"),
      ("status_code", row.column "status_code"), ("duration_ms", row.column "duration_ms"),
      ("ip_address", orEmpty (row.column "ip_address")),
      ("is_streaming", row.column "is_streaming"),
      ("error_message", orEmpty (row.column "error_message"))]

/-- What an export streams. -/
inductive ExportBody
  | csv (rows : List CsvRow)
  /-- The entries, and whether the stream has come to its end. -/
  | json (entries : List AuditEntry) (completed : Bool)

/-- The loop of `_stream_json`, which a row that cannot be converted breaks off. -/
def streamJson : List AuditLog → List AuditEntry × Bool
  | [] => ([], true)
  | row :: rows =>
    match toAuditEntry row with
    | none => ([], false)
    | some entry => (entry :: (streamJson rows).1, (streamJson rows).2)

/-- `_stream_csv` and `_stream_json` -/
def exportBody (answer : List AuditLog) : AuditExportFormat → ExportBody
  | .csv => .csv (answer.map csvRow)
  | .json => .json (streamJson answer).1 (streamJson answer).2

section

variable (sends : Condition → Bool) (orgId : String) (now : Datetime)

/-- The conditions, if the times can be computed and the driver sends all values. -/
def listQuery (params : AuditLogFilters) : Option (List Condition) :=
  ((window now params.startTime params.endTime).map (listConditions orgId params)).filter
    fun conditions => conditions.all sends

def exportQuery (request : AuditExportRequest) : Option (List Condition) :=
  ((window now request.startTime request.endTime).map
    (exportConditions orgId request.filters)).filter fun conditions => conditions.all sends

/-- `list_audit_logs`; `answer` has the selected rows in the order that the database chooses for
this query. -/
def listAuditLogs (params : AuditLogFilters) (rows answer : List AuditLog) (limit offset : ℕ) :
    Option AuditLogListResponse := do
  let conditions ← listQuery sends orgId now params
  let total := (select conditions rows).length
  let entries ← auditEntries ((answer.drop offset).take limit)
  return { entries, total, limit, offset, hasMore := offset + entries.length < total }

/-- `export_audit_logs` -/
def exportAuditLogs (request : AuditExportRequest) (answer : List AuditLog) : Option ExportBody :=
  (exportQuery sends orgId now request).map fun _ => exportBody answer request.format

end

/-! ### The rows that a filter is for -/

/-- The organization, and the fields that both endpoints read. An empty string is no filter. -/
def passes (orgId : String) (filters : AuditLogFilters) (row : AuditLog) : Bool :=
  (row.column "org_id").asStr == some orgId
    && filters.userId.all (fun v => v == "" || (row.column "user_id").asStr == some v)
    && filters.action.all (fun v => (row.column "action").asStr == some v.value)
    && filters.resourceType.all (fun v => (row.column "resource_type").asStr == some v.value)
    && filters.resourceId.all (fun v => v == "" || (row.column "resource_id").asStr == some v)
    && filters.statusCode.all (fun v => (row.column "status_code").asInt == some v)
    && filters.isStreaming.all (fun v => (row.column "is_streaming").asBool == some v)

/-- The range of status codes. -/
def inRange (filters : AuditLogFilters) (row : AuditLog) : Bool :=
  filters.statusCodeGte.all (fun v => (row.column "status_code").asInt.any (v ≤ ·))
    && filters.statusCodeLte.all (fun v => (row.column "status_code").asInt.any (· ≤ v))

def inTimes (times : Option (ℤ × ℤ)) (row : AuditLog) : Bool :=
  times.any fun times => times.1 ≤ row.timestamp && row.timestamp ≤ times.2

/-- The row belongs to the organization and matches the filter, at the given moment. -/
def selects (orgId : String) (filters : AuditLogFilters) (now : Datetime) (row : AuditLog) : Bool :=
  passes orgId filters row && inRange filters row
    && inTimes (window now filters.startTime filters.endTime) row

theorem all_whereTruthy (p : Condition → Bool) (value : Option String)
    (condition : String → Condition) :
    (whereTruthy value condition).all p = value.all fun v => v == "" || p (condition v) := by
  cases value with
  | none => rfl
  | some v => by_cases hv : v = "" <;> simp [whereTruthy, Option.filter, hv]

theorem all_whereGiven {T : Type} (p : Condition → Bool) (value : Option T)
    (condition : T → Condition) :
    (whereGiven value condition).all p = value.all fun v => p (condition v) := by
  cases value <;> simp [whereGiven]

theorem holds_listConditions (orgId : String) (filters : AuditLogFilters) (times : ℤ × ℤ)
    (row : AuditLog) : (listConditions orgId filters times).all (Condition.holds row) =
      (passes orgId filters row && inRange filters row && inTimes (some times) row) := by
  simp only [listConditions, List.all_append, List.all_cons, List.all_nil, all_whereTruthy,
    all_whereGiven, Condition.holds, passes, inRange, inTimes, Option.any_some, Bool.and_true]
  ac_rfl

theorem holds_exportConditions (orgId : String) (filters : AuditLogFilters) (times : ℤ × ℤ)
    (row : AuditLog) : (exportConditions orgId (some filters) times).all (Condition.holds row) =
      (passes orgId filters row && inTimes (some times) row) := by
  simp only [exportConditions, List.all_append, List.all_cons, List.all_nil, all_whereTruthy,
    all_whereGiven, Condition.holds, passes, inTimes, Option.any_some, Bool.and_true]
  ac_rfl

/-! ### Converted rows -/

/-- The key of a row. -/
def key (row : AuditLog) : Json × ℤ := (row.id, row.timestamp)

theorem eq_str_of_asStr {value : Json} {s : String} (h : value.asStr = some s) :
    value = .str s := by
  unfold Json.asStr at h
  split at h
  · rw [Option.some.inj h]
  · cases h

theorem key_eq_of_toAuditEntry {row : AuditLog} {entry : AuditEntry}
    (h : toAuditEntry row = some entry) : (Json.str entry.id, entry.timestamp) = key row := by
  obtain ⟨id, hid, h⟩ := Option.bind_eq_some_iff.mp h
  -- the other fields
  iterate 17 obtain ⟨_, -, h⟩ := Option.bind_eq_some_iff.mp h
  obtain rfl := Option.some.inj h
  exact Prod.ext (eq_str_of_asStr hid).symm rfl

theorem auditEntries_eq_some_iff {rows : List AuditLog} {entries : List AuditEntry} :
    auditEntries rows = some entries ↔
      (∀ row ∈ rows, (toAuditEntry row).isSome = true) ∧ rows.filterMap toAuditEntry = entries := by
  induction rows generalizing entries with
  | nil =>
    rw [auditEntries, List.mapM_nil]
    exact ⟨fun h => ⟨List.forall_mem_nil _, Option.some.inj h⟩, fun h => congrArg some h.2⟩
  | cons row rows ih =>
    have hcons : auditEntries (row :: rows) =
        (toAuditEntry row).bind fun entry => (auditEntries rows).map (entry :: ·) := by
      rw [auditEntries, auditEntries, List.mapM_cons]
      cases toAuditEntry row with
      | none => rfl
      | some entry => cases rows.mapM toAuditEntry <;> rfl
    rw [hcons, List.forall_mem_cons]
    cases hrow : toAuditEntry row with
    | none => simp
    | some entry =>
      rw [List.filterMap_cons_some hrow, Option.bind_some, Option.map_eq_some_iff]
      constructor
      · rintro ⟨rest, hrest, rfl⟩
        obtain ⟨hall, rfl⟩ := ih.mp hrest
        exact ⟨⟨rfl, hall⟩, rfl⟩
      · rintro ⟨⟨-, hall⟩, rfl⟩
        exact ⟨_, ih.mpr ⟨hall, rfl⟩, rfl⟩

theorem map_key_filterMap {rows : List AuditLog}
    (h : ∀ row ∈ rows, (toAuditEntry row).isSome = true) :
    (rows.filterMap toAuditEntry).map (fun entry => (Json.str entry.id, entry.timestamp)) =
      rows.map key := by
  induction rows with
  | nil => rfl
  | cons row rows ih =>
    obtain ⟨hrow, hrows⟩ := List.forall_mem_cons.mp h
    obtain ⟨entry, hentry⟩ := Option.isSome_iff_exists.mp hrow
    rw [List.filterMap_cons_some hentry, List.map_cons, List.map_cons, ih hrows,
      key_eq_of_toAuditEntry hentry]

theorem completed_streamJson_iff (rows : List AuditLog) :
    (streamJson rows).2 = true ↔ ∀ row ∈ rows, (toAuditEntry row).isSome = true := by
  induction rows with
  | nil => simp [streamJson]
  | cons row rows ih =>
    rw [List.forall_mem_cons, ← ih, streamJson]
    cases toAuditEntry row <;> simp

theorem streamJson_entries {rows : List AuditLog} (h : (streamJson rows).2 = true) :
    (streamJson rows).1 = rows.filterMap toAuditEntry := by
  induction rows with
  | nil => rfl
  | cons row rows ih =>
    rw [streamJson] at h ⊢
    cases hrow : toAuditEntry row with
    | none => simp [hrow] at h
    | some entry =>
      rw [hrow] at h
      rw [List.filterMap_cons_some hrow, ← ih h]

end AuditApi

theorem AuditTable.nodup (table : AuditTable) : table.rows.Nodup := .of_map _ table.nodup_keys

/-- Rows of the table with the same keys are the same. -/
theorem AuditTable.perm_of_map_key (table : AuditTable) {rows rows' : List AuditLog}
    (h : ∀ row ∈ rows, row ∈ table.rows) (h' : rows'.Sublist table.rows)
    (hkeys : (rows.map AuditApi.key).Perm (rows'.map AuditApi.key)) : rows.Perm rows' := by
  have hinj : ∀ row ∈ table.rows, ∀ row' ∈ table.rows, AuditApi.key row = AuditApi.key row' →
      row = row' := fun row hrow row' hrow' => List.inj_on_of_nodup_map table.nodup_keys hrow hrow'
  have hnodup' : (rows'.map AuditApi.key).Nodup := table.nodup_keys.sublist (h'.map _)
  have hnodup : (rows.map AuditApi.key).Nodup := hkeys.nodup_iff.mpr hnodup'
  refine (List.perm_ext_iff_of_nodup (.of_map _ hnodup) (.of_map _ hnodup')).mpr fun row => ?_
  constructor
  · intro hrow
    obtain ⟨row', hrow', heq⟩ := List.mem_map.mp (hkeys.subset (List.mem_map_of_mem hrow))
    exact hinj row' (h'.subset hrow') row (h row hrow) heq ▸ hrow'
  · intro hrow
    obtain ⟨row', hrow', heq⟩ := List.mem_map.mp (hkeys.symm.subset (List.mem_map_of_mem hrow))
    exact hinj row' (h row' hrow') row (h'.subset hrow) heq ▸ hrow'

namespace AuditApi

/-! ### Agreement -/

/-- The moments at which the pages are asked for, and how long seven days are. -/
structure Clock where
  moments : ℕ → ℤ
  monotone_moments : ∀ {i j}, i ≤ j → moments i ≤ moments j
  week : ℤ

/-- `datetime.now(UTC)` in the query of a page. -/
def Clock.now (clock : Clock) (i : ℕ) : Datetime :=
  ⟨clock.moments i, some (clock.moments i - clock.week)⟩

/-- The `limit` of a listing. -/
structure PageSize where
  limit : ℕ
  one_le : 1 ≤ limit
  le_max : limit ≤ 1000

/-- The number of the last page, from 0 on. -/
def PageSize.lastPage (size : PageSize) (total : ℕ) : ℕ := (total - 1) / size.limit

/-- The export has the given rows, each once. -/
def ExportBody.Emits (rows : List AuditLog) : ExportBody → Prop
  | .csv lines => lines.Perm (rows.map csvRow)
  | .json entries completed =>
    completed = true ∧ ∃ expected, auditEntries rows = some expected ∧ entries.Perm expected

section

variable (sends : Condition → Bool) (table : AuditTable) (orgId : String)
  (filters : AuditLogFilters) (clock : Clock) (size : PageSize) (request : AuditExportRequest)
  (exportNow : Datetime)

/-- The rows of the organization that match the filter when the first page is asked for. -/
def matching : List AuditLog := table.rows.filter (selects orgId filters (clock.now 0))

/-- The number of the last page of them. -/
def lastPage : ℕ := size.lastPage (matching table orgId filters clock).length

/-- What the database may answer to the queries of the pages. -/
def AreAnswers (answers : ℕ → List AuditLog) : Prop :=
  ∀ i ≤ lastPage table orgId filters clock size, ∀ conditions,
    listQuery sends orgId (clock.now i) filters = some conditions →
      IsAnswer AuditLog.timestamp (select conditions table.rows) (answers i)

/-- With these answers, all pages return every matching row once, and `has_more` is false on the
last page and on no other. -/
def Lists (answers : ℕ → List AuditLog) : Prop :=
  ∃ (responses : ℕ → AuditLogListResponse) (expected : List AuditEntry),
    (∀ i ≤ lastPage table orgId filters clock size,
      listAuditLogs sends orgId (clock.now i) filters table.rows (answers i) size.limit
        (i * size.limit) = some (responses i)) ∧
    auditEntries (matching table orgId filters clock) = some expected ∧
    ((List.range (lastPage table orgId filters clock size + 1)).flatMap
      fun i => (responses i).entries).Perm expected ∧
    ∀ i ≤ lastPage table orgId filters clock size,
      (responses i).hasMore = false ↔ i = lastPage table orgId filters clock size

/-- So it is whatever the order in each query. -/
def ListsAll : Prop :=
  ∀ answers, AreAnswers sends table orgId filters clock size answers →
    Lists sends table orgId filters clock size answers

/-- Whatever the order in the query, the export emits the matching rows. -/
def ExportsAll : Prop :=
  ∀ answer, (∀ conditions, exportQuery sends orgId exportNow request = some conditions →
      IsAnswer AuditLog.timestamp (select conditions table.rows) answer) →
    ∃ body, exportAuditLogs sends orgId exportNow request answer = some body ∧
      body.Emits (matching table orgId filters clock)

/-- What the agreement depends on. -/
structure Agreeable : Prop where
  /-- The query of each page can be sent. -/
  listSent : ∀ i ≤ lastPage table orgId filters clock size,
    (listQuery sends orgId (clock.now i) filters).isSome = true
  exportSent : (exportQuery sends orgId exportNow request).isSome = true
  /-- Every matching row can be converted. -/
  converted : ∀ row ∈ matching table orgId filters clock, (toAuditEntry row).isSome = true
  /-- No row comes into the window or leaves it while the pages are read. -/
  steady : ∀ i ≤ lastPage table orgId filters clock size, ∀ row ∈ table.rows,
    selects orgId filters (clock.now i) row = selects orgId filters (clock.now 0) row
  /-- No two rows of one time stand on different sides of the boundary between two pages. -/
  unsplit : ∀ k, Unsplit AuditLog.timestamp (matching table orgId filters clock) (k * size.limit)
  /-- The window of the export has just the rows with a status code in the range and a time in the
  window of the filter. -/
  sameRows : ∀ row ∈ table.rows, passes orgId filters row = true →
    inTimes (window exportNow request.startTime request.endTime) row =
      (inRange filters row && inTimes (window (clock.now 0) filters.startTime filters.endTime) row)

end

section

variable {sends : Condition → Bool} {table : AuditTable} {orgId : String}
  {filters : AuditLogFilters} {clock : Clock} {size : PageSize} {request : AuditExportRequest}
  {exportNow : Datetime}

theorem sublist_matching : (matching table orgId filters clock).Sublist table.rows :=
  List.filter_sublist

theorem lastPage_spec (size : PageSize) (total : ℕ) :
    (size.lastPage total = 0 ∨ size.lastPage total * size.limit < total) ∧
      total ≤ (size.lastPage total + 1) * size.limit := by
  have hle := Nat.div_mul_le_self (total - 1) size.limit
  have hlt := Nat.lt_div_mul_add (a := total - 1) size.one_le
  rw [PageSize.lastPage, Nat.succ_mul]
  constructor
  · obtain rfl | htotal := Nat.eq_zero_or_pos total
    · exact .inl (Nat.zero_div _)
    · exact .inr (by omega)
  · omega

/-- `has_more`, on a page of a window that does not move. -/
theorem not_lt_iff_eq_lastPage (size : PageSize) {total i : ℕ} (hi : i ≤ size.lastPage total) :
    ¬ i * size.limit + min size.limit (total - i * size.limit) < total ↔
      i = size.lastPage total := by
  obtain ⟨hlast, hall⟩ := lastPage_spec size total
  constructor
  · intro hend
    by_contra hne
    have hle := Nat.mul_le_mul_right size.limit (show i + 1 ≤ size.lastPage total by omega)
    rw [Nat.succ_mul] at hle
    omega
  · rintro rfl
    rw [Nat.succ_mul] at hall
    omega

/-- The conditions of a query that is sent. -/
theorem listQuery_eq_some {now : Datetime} {conditions : List Condition}
    (h : listQuery sends orgId now filters = some conditions) :
    ∃ times, window now filters.startTime filters.endTime = some times ∧
      listConditions orgId filters times = conditions := by
  obtain ⟨hquery, -⟩ := Option.filter_eq_some_iff.mp h
  exact Option.map_eq_some_iff.mp hquery

/-- The query of a listing selects the rows that the filter is for. -/
theorem select_listQuery {now : Datetime} {conditions : List Condition}
    (h : listQuery sends orgId now filters = some conditions) :
    select conditions table.rows = table.rows.filter (selects orgId filters now) := by
  obtain ⟨times, htimes, rfl⟩ := listQuery_eq_some h
  refine List.filter_congr fun row _ => ?_
  rw [holds_listConditions, selects, htimes]

/-- That of an export those that `sameRows` speaks of. -/
theorem select_exportQuery (hfilters : request.filters = some filters)
    {conditions : List Condition}
    (h : exportQuery sends orgId exportNow request = some conditions) :
    select conditions table.rows = table.rows.filter fun row => passes orgId filters row &&
      inTimes (window exportNow request.startTime request.endTime) row := by
  obtain ⟨hquery, -⟩ := Option.filter_eq_some_iff.mp h
  obtain ⟨times, htimes, rfl⟩ := Option.map_eq_some_iff.mp hquery
  refine List.filter_congr fun row _ => ?_
  rw [hfilters, holds_exportConditions, htimes]

theorem listAuditLogs_eq_some_iff {now : Datetime} {answer : List AuditLog} {limit offset : ℕ}
    {response : AuditLogListResponse} {conditions : List Condition}
    (h : listQuery sends orgId now filters = some conditions) :
    listAuditLogs sends orgId now filters table.rows answer limit offset = some response ↔
      ∃ entries, auditEntries ((answer.drop offset).take limit) = some entries ∧
        response = ⟨entries, (select conditions table.rows).length, limit, offset,
          decide (offset + entries.length < (select conditions table.rows).length)⟩ := by
  rw [listAuditLogs, h]
  cases auditEntries ((answer.drop offset).take limit) with
  | none => simp
  | some entries => simp [eq_comm]

/-! ### The export -/

/-- A body that is made of rows of the table has the matching ones if those are its rows. -/
theorem emits_exportBody_iff {rows answer : List AuditLog} (hrows : rows.Sublist table.rows)
    (hanswer : ∀ row ∈ answer, row ∈ table.rows)
    (hconverted : ∀ row ∈ rows, (toAuditEntry row).isSome = true) (format : AuditExportFormat) :
    (exportBody answer format).Emits rows ↔ answer.Perm rows := by
  constructor
  · intro h
    refine table.perm_of_map_key hanswer hrows ?_
    cases format with
    | csv =>
      have hkeys := List.Perm.map (fun line : CsvRow => (line.id, line.timestamp)) h
      rwa [List.map_map, List.map_map] at hkeys
    | json =>
      obtain ⟨hcompleted, expected, hexpected, hperm⟩ := h
      obtain ⟨-, rfl⟩ := auditEntries_eq_some_iff.mp hexpected
      rw [streamJson_entries hcompleted] at hperm
      have hkeys := hperm.map fun entry => (Json.str entry.id, entry.timestamp)
      rwa [map_key_filterMap ((completed_streamJson_iff answer).mp hcompleted),
        map_key_filterMap hconverted] at hkeys
  · intro hperm
    cases format with
    | csv => exact hperm.map csvRow
    | json =>
      have hcompleted : (streamJson answer).2 = true :=
        (completed_streamJson_iff answer).mpr fun row hrow => hconverted row (hperm.subset hrow)
      refine ⟨hcompleted, _, auditEntries_eq_some_iff.mpr ⟨hconverted, rfl⟩, ?_⟩
      rw [streamJson_entries hcompleted]
      exact hperm.filterMap toAuditEntry

/-- Two choices of rows that have the same rows agree on every row. -/
theorem eq_of_filter_perm {rows : List AuditLog} {p q : AuditLog → Bool}
    (h : (rows.filter p).Perm (rows.filter q)) : ∀ row ∈ rows, p row = q row := by
  intro row hrow
  have hmem := h.mem_iff (a := row)
  rw [List.mem_filter, List.mem_filter, and_iff_right hrow, and_iff_right hrow] at hmem
  exact Bool.eq_iff_iff.mpr hmem

/-- **When the export emits the matching rows**, if they can be converted. -/
theorem exportsAll_iff (hfilters : request.filters = some filters)
    (hconverted : ∀ row ∈ matching table orgId filters clock, (toAuditEntry row).isSome = true) :
    ExportsAll sends table orgId filters clock request exportNow ↔
      (exportQuery sends orgId exportNow request).isSome = true ∧
      ∀ row ∈ table.rows, passes orgId filters row = true →
        inTimes (window exportNow request.startTime request.endTime) row =
          (inRange filters row &&
            inTimes (window (clock.now 0) filters.startTime filters.endTime) row) := by
  have hsame (row : AuditLog) : (passes orgId filters row &&
        inTimes (window exportNow request.startTime request.endTime) row) =
        selects orgId filters (clock.now 0) row ↔
      (passes orgId filters row = true →
        inTimes (window exportNow request.startTime request.endTime) row =
          (inRange filters row &&
            inTimes (window (clock.now 0) filters.startTime filters.endTime) row)) := by
    rw [selects]
    cases passes orgId filters row <;> simp
  constructor
  · intro h
    obtain ⟨answer, hanswer⟩ : ∃ answer, IsAnswer AuditLog.timestamp
        (table.rows.filter fun row => passes orgId filters row &&
          inTimes (window exportNow request.startTime request.endTime) row) answer :=
      ⟨_, isAnswer_mergeSort _ _⟩
    obtain ⟨body, hbody, hemits⟩ := h answer fun conditions hconditions => by
      rwa [select_exportQuery hfilters hconditions]
    obtain ⟨conditions, hconditions, rfl⟩ := Option.map_eq_some_iff.mp hbody
    have hperm := (emits_exportBody_iff sublist_matching
      (fun row hrow => List.mem_of_mem_filter (hanswer.1.subset hrow)) hconverted _).mp hemits
    refine ⟨Option.isSome_of_mem hconditions, fun row hrow => (hsame row).mp ?_⟩
    exact eq_of_filter_perm (hanswer.1.symm.trans hperm) row hrow
  · rintro ⟨hsent, hrows⟩ answer hanswer
    obtain ⟨conditions, hconditions⟩ := Option.isSome_iff_exists.mp hsent
    have hlegal := hanswer conditions hconditions
    rw [select_exportQuery hfilters hconditions] at hlegal
    have hmatching : answer.Perm (matching table orgId filters clock) := by
      rw [matching, ← List.filter_congr fun row hrow => (hsame row).mpr (hrows row hrow)]
      exact hlegal.1
    refine ⟨exportBody answer request.format, ?_, ?_⟩
    · rw [exportAuditLogs, hconditions, Option.map_some]
    · exact (emits_exportBody_iff sublist_matching
        (fun row hrow => List.mem_of_mem_filter (hlegal.1.subset hrow)) hconverted _).mpr hmatching

/-! ### The pages -/

/-- A page that is returned. -/
theorem exists_response_iff {now : Datetime} {answer : List AuditLog} {i : ℕ} :
    (∃ response, listAuditLogs sends orgId now filters table.rows answer size.limit
      (i * size.limit) = some response) ↔
      (listQuery sends orgId now filters).isSome = true ∧
      ∀ row ∈ page size.limit i answer, (toAuditEntry row).isSome = true := by
  rw [← Option.isSome_iff_exists, listAuditLogs]
  cases h : listQuery sends orgId now filters with
  | none => simp
  | some conditions =>
    have hentries : (auditEntries (page size.limit i answer)).isSome = true ↔
        ∀ row ∈ page size.limit i answer, (toAuditEntry row).isSome = true := by
      rw [Option.isSome_iff_exists]
      exact ⟨fun ⟨_, h⟩ => (auditEntries_eq_some_iff.mp h).1,
        fun h => ⟨_, auditEntries_eq_some_iff.mpr ⟨h, rfl⟩⟩⟩
    rw [← hentries, page]
    cases auditEntries ((answer.drop (i * size.limit)).take size.limit) <;> simp

theorem response_spec {now : Datetime} {answer : List AuditLog} {i : ℕ}
    {response : AuditLogListResponse} (h : listAuditLogs sends orgId now filters table.rows answer
      size.limit (i * size.limit) = some response) :
    response.entries = (page size.limit i answer).filterMap toAuditEntry ∧
      (response.hasMore = false ↔ ¬ i * size.limit + (page size.limit i answer).length <
        (table.rows.filter (selects orgId filters now)).length) := by
  obtain ⟨hsent, hconverted⟩ := exists_response_iff.mp ⟨response, h⟩
  obtain ⟨conditions, hconditions⟩ := Option.isSome_iff_exists.mp hsent
  obtain ⟨entries, hentries, rfl⟩ := (listAuditLogs_eq_some_iff hconditions).mp h
  obtain ⟨-, rfl⟩ := auditEntries_eq_some_iff.mp hentries
  have hlength : ((page size.limit i answer).filterMap toAuditEntry).length =
      (page size.limit i answer).length := by
    have hkeys := congrArg List.length (map_key_filterMap hconverted)
    rwa [List.length_map, List.length_map] at hkeys
  refine ⟨rfl, ?_⟩
  show decide (i * size.limit + ((page size.limit i answer).filterMap toAuditEntry).length <
    (select conditions table.rows).length) = false ↔ _
  rw [hlength, select_listQuery hconditions, decide_eq_false_iff_not]

/-- The entries on all pages are those of the rows. -/
theorem flatMap_entries_eq {answers : ℕ → List AuditLog} {responses : ℕ → AuditLogListResponse}
    {n : ℕ} (h : ∀ i ≤ n, listAuditLogs sends orgId (clock.now i) filters table.rows (answers i)
      size.limit (i * size.limit) = some (responses i)) :
    ((List.range (n + 1)).flatMap fun i => (responses i).entries) =
      (pages size.limit (n + 1) answers).filterMap toAuditEntry := by
  rw [pages, List.filterMap_flatMap]
  refine List.flatMap_congr fun i hi => ?_
  exact (response_spec (h i (Nat.le_of_lt_succ (List.mem_range.mp hi)))).1

/-- What the answers must be like. -/
theorem lists_iff {answers : ℕ → List AuditLog}
    (hanswers : AreAnswers sends table orgId filters clock size answers) :
    Lists sends table orgId filters clock size answers ↔
      (∀ i ≤ lastPage table orgId filters clock size,
        (listQuery sends orgId (clock.now i) filters).isSome = true) ∧
      (∀ row ∈ matching table orgId filters clock, (toAuditEntry row).isSome = true) ∧
      (pages size.limit (lastPage table orgId filters clock size + 1) answers).Perm
        (matching table orgId filters clock) ∧
      ∀ i ≤ lastPage table orgId filters clock size,
        (¬ i * size.limit + (page size.limit i (answers i)).length <
          (table.rows.filter (selects orgId filters (clock.now i))).length) ↔
          i = lastPage table orgId filters clock size := by
  constructor
  · rintro ⟨responses, expected, hresponses, hexpected, hperm, hmore⟩
    obtain ⟨hconverted, rfl⟩ := auditEntries_eq_some_iff.mp hexpected
    have hpage (i : ℕ) (hi : i ≤ lastPage table orgId filters clock size) :=
      exists_response_iff.mp ⟨_, hresponses i hi⟩
    refine ⟨fun i hi => (hpage i hi).1, hconverted, ?_, fun i hi => ?_⟩
    · have hpages : ∀ row ∈ pages size.limit (lastPage table orgId filters clock size + 1) answers,
          row ∈ table.rows ∧ (toAuditEntry row).isSome = true := by
        intro row hrow
        obtain ⟨i, hi, hrow⟩ := mem_pages.mp hrow
        have hi := Nat.le_of_lt_succ hi
        obtain ⟨hsent, hconverted⟩ := hpage i hi
        obtain ⟨conditions, hconditions⟩ := Option.isSome_iff_exists.mp hsent
        have hselected := (hanswers i hi conditions hconditions).1.subset
          ((page_sublist _ _ _).subset hrow)
        exact ⟨List.mem_of_mem_filter hselected, hconverted row hrow⟩
      refine table.perm_of_map_key (fun row hrow => (hpages row hrow).1) sublist_matching ?_
      rw [flatMap_entries_eq hresponses] at hperm
      rw [← map_key_filterMap fun row hrow => (hpages row hrow).2, ← map_key_filterMap hconverted]
      exact hperm.map _
    · rw [← (response_spec (hresponses i hi)).2]
      exact hmore i hi
  · rintro ⟨hsent, hconverted, hperm, hmore⟩
    have hresponse : ∀ i, ∃ response, i ≤ lastPage table orgId filters clock size →
        listAuditLogs sends orgId (clock.now i) filters table.rows (answers i) size.limit
          (i * size.limit) = some response := by
      intro i
      by_cases hi : i ≤ lastPage table orgId filters clock size
      · obtain ⟨response, hresponse⟩ := exists_response_iff.mpr ⟨hsent i hi, fun row hrow =>
          hconverted row (hperm.subset (mem_pages.mpr ⟨i, Nat.lt_succ_of_le hi, hrow⟩))⟩
        exact ⟨response, fun _ => hresponse⟩
      · exact ⟨⟨[], 0, 0, 0, false⟩, fun h => absurd h hi⟩
    choose responses hresponses using hresponse
    refine ⟨responses, _, hresponses, auditEntries_eq_some_iff.mpr ⟨hconverted, rfl⟩, ?_,
      fun i hi => (response_spec (hresponses i hi)).2.trans (hmore i hi)⟩
    rw [flatMap_entries_eq hresponses]
    exact hperm.filterMap toAuditEntry

/-- The rows that pass all of the filter but its times. -/
def candidates (table : AuditTable) (orgId : String) (filters : AuditLogFilters) : List AuditLog :=
  table.rows.filter fun row => passes orgId filters row && inRange filters row

/-- The window of a page. -/
def windowOf (filters : AuditLogFilters) (clock : Clock) (i : ℕ) : ℤ × ℤ :=
  (window (clock.now i) filters.startTime filters.endTime).getD (0, 0)

theorem rising_windowOf (filters : AuditLogFilters) (clock : Clock) :
    Rising (windowOf filters clock) := by
  intro i j hij
  have hmoments := clock.monotone_moments hij
  simp only [windowOf, window]
  cases filters.endTime with
  | some endTime => exact ⟨le_refl _, le_refl _⟩
  | none =>
    cases filters.startTime with
    | some startTime => exact ⟨le_refl _, hmoments⟩
    | none => exact ⟨Int.sub_le_sub_right hmoments clock.week, hmoments⟩

/-- The query of a page selects the candidates in its window. -/
theorem filter_selects_eq {i : ℕ}
    (h : (listQuery sends orgId (clock.now i) filters).isSome = true) :
    table.rows.filter (selects orgId filters (clock.now i)) =
      within AuditLog.timestamp (candidates table orgId filters) (windowOf filters clock i) := by
  obtain ⟨conditions, hconditions⟩ := Option.isSome_iff_exists.mp h
  obtain ⟨times, htimes, -⟩ := listQuery_eq_some hconditions
  rw [within, candidates, List.filter_filter, windowOf, htimes, Option.getD_some]
  refine List.filter_congr fun row _ => ?_
  rw [selects, htimes, inTimes, Option.any_some, Bool.decide_and, Bool.and_comm]

/-- Answers that put rows of one time in one order in all queries. -/
theorem areAnswers_within {answer : List AuditLog}
    (h : IsAnswer AuditLog.timestamp (candidates table orgId filters) answer) :
    AreAnswers sends table orgId filters clock size
      fun i => within AuditLog.timestamp answer (windowOf filters clock i) := by
  intro i _ conditions hconditions
  rw [select_listQuery hconditions, filter_selects_eq (Option.isSome_of_mem hconditions)]
  exact h.filter _

/-- If they give every matching row once, the window has not moved. -/
theorem steady_of_lists {answer : List AuditLog}
    (hanswer : IsAnswer AuditLog.timestamp (candidates table orgId filters) answer)
    (h : Lists sends table orgId filters clock size
      fun i => within AuditLog.timestamp answer (windowOf filters clock i)) :
    ∀ i ≤ lastPage table orgId filters clock size, ∀ row ∈ table.rows,
      selects orgId filters (clock.now i) row = selects orgId filters (clock.now 0) row := by
  obtain ⟨hsent, -, hperm, hmore⟩ := (lists_iff (areAnswers_within hanswer)).mp h
  have hwithin (i : ℕ) (hi : i ≤ lastPage table orgId filters clock size) :
      table.rows.filter (selects orgId filters (clock.now i)) =
        within AuditLog.timestamp (candidates table orgId filters) (windowOf filters clock i) :=
    filter_selects_eq (hsent i hi)
  have hlength (i : ℕ) (hi : i ≤ lastPage table orgId filters clock size) :
      (within AuditLog.timestamp answer (windowOf filters clock i)).length =
        (table.rows.filter (selects orgId filters (clock.now i))).length := by
    rw [hwithin i hi]
    exact (hanswer.1.filter _).length_eq
  -- the pages before the last one are full, so the last query sees no more rows than the first
  have hfull : ∀ i < lastPage table orgId filters clock size, size.limit ≤
      (within AuditLog.timestamp answer (windowOf filters clock i)).length - i * size.limit := by
    intro i hi
    have hnext := not_not.mp (mt (hmore i hi.le).mp hi.ne)
    rw [length_page, ← hlength i hi.le] at hnext
    omega
  have hcount : (table.rows.filter
      (selects orgId filters (clock.now (lastPage table orgId filters clock size)))).length ≤
      (matching table orgId filters clock).length := by
    have hend := (hmore _ le_rfl).mpr rfl
    have htotal := hperm.length_eq
    rw [pages_succ, List.length_append, length_pages_of_full hfull] at htotal
    omega
  have hfirst : matching table orgId filters clock =
      within AuditLog.timestamp (candidates table orgId filters) (windowOf filters clock 0) :=
    hwithin 0 (Nat.zero_le _)
  have hnodup : (candidates table orgId filters).Nodup := table.nodup.filter _
  have hlast : lastPage table orgId filters clock size = 0 ∨
      lastPage table orgId filters clock size * size.limit <
        (matching table orgId filters clock).length := (lastPage_spec size _).1
  intro i hi row hrow
  rw [hwithin _ le_rfl, hfirst] at hcount
  rw [hfirst] at hperm hlast
  have hmem := mem_within_iff_of_perm hnodup (rising_windowOf filters clock) hanswer hperm hcount
    hlast hi row
  rw [← hwithin i hi, ← hwithin 0 (Nat.zero_le _), List.mem_filter, List.mem_filter,
    and_iff_right hrow, and_iff_right hrow] at hmem
  exact Bool.eq_iff_iff.mpr hmem

/-- **When the pages hold the matching rows.** -/
theorem listsAll_iff :
    ListsAll sends table orgId filters clock size ↔
      (∀ i ≤ lastPage table orgId filters clock size,
        (listQuery sends orgId (clock.now i) filters).isSome = true) ∧
      (∀ row ∈ matching table orgId filters clock, (toAuditEntry row).isSome = true) ∧
      (∀ i ≤ lastPage table orgId filters clock size, ∀ row ∈ table.rows,
        selects orgId filters (clock.now i) row = selects orgId filters (clock.now 0) row) ∧
      ∀ k, Unsplit AuditLog.timestamp (matching table orgId filters clock) (k * size.limit) := by
  have hnodup : (matching table orgId filters clock).Nodup := table.nodup.filter _
  -- the pages of a window that does not move
  have hpages := flatMap_page_perm_iff AuditLog.timestamp hnodup
    (lastPage_spec size (matching table orgId filters clock).length).2
  constructor
  · intro h
    obtain ⟨answer, hanswer⟩ : ∃ answer, IsAnswer AuditLog.timestamp
        (candidates table orgId filters) answer := ⟨_, isAnswer_mergeSort _ _⟩
    have hwithin := h _ (areAnswers_within hanswer)
    obtain ⟨hsent, hconverted, -⟩ := (lists_iff (areAnswers_within hanswer)).mp hwithin
    have hsteady := steady_of_lists hanswer hwithin
    refine ⟨hsent, hconverted, hsteady, hpages.mp fun answers hlegal => ?_⟩
    have hanswers : AreAnswers sends table orgId filters clock size answers := by
      intro i hi conditions hconditions
      rw [select_listQuery hconditions, List.filter_congr (hsteady i hi)]
      exact hlegal i (Nat.lt_succ_of_le hi)
    exact ((lists_iff hanswers).mp (h answers hanswers)).2.2.1
  · rintro ⟨hsent, hconverted, hsteady, hunsplit⟩ answers hanswers
    have hlegal (i : ℕ) (hi : i ≤ lastPage table orgId filters clock size) :
        IsAnswer AuditLog.timestamp (matching table orgId filters clock) (answers i) := by
      obtain ⟨conditions, hconditions⟩ := Option.isSome_iff_exists.mp (hsent i hi)
      have hanswer := hanswers i hi conditions hconditions
      rwa [select_listQuery hconditions, List.filter_congr (hsteady i hi)] at hanswer
    refine (lists_iff hanswers).mpr ⟨hsent, hconverted, ?_, ?_⟩
    · exact hpages.mpr hunsplit answers fun i hi => hlegal i (Nat.le_of_lt_succ hi)
    · intro i hi
      rw [List.filter_congr (hsteady i hi), length_page, (hlegal i hi).1.length_eq]
      exact not_lt_iff_eq_lastPage size hi

/-- **When listing and export agree**: the queries can be sent and the rows converted, the window
holds the same rows for all pages, no page boundary parts rows of one time, and the export, which
has a window of its own and no range of status codes, selects the same rows. -/
theorem agree_iff (sends : Condition → Bool) (table : AuditTable) (orgId : String)
    (filters : AuditLogFilters) (clock : Clock) (size : PageSize) (format : AuditExportFormat)
    (startTime endTime : Option Datetime) (exportNow : Datetime) :
    (ListsAll sends table orgId filters clock size ∧
      ExportsAll sends table orgId filters clock ⟨format, startTime, endTime, some filters⟩
        exportNow) ↔
      Agreeable sends table orgId filters clock size ⟨format, startTime, endTime, some filters⟩
        exportNow := by
  constructor
  · rintro ⟨hlists, hexports⟩
    obtain ⟨hlistSent, hconverted, hsteady, hunsplit⟩ := listsAll_iff.mp hlists
    obtain ⟨hexportSent, hsameRows⟩ := (exportsAll_iff rfl hconverted).mp hexports
    exact ⟨hlistSent, hexportSent, hconverted, hsteady, hunsplit, hsameRows⟩
  · intro h
    exact ⟨listsAll_iff.mpr ⟨h.listSent, h.converted, h.steady, h.unsplit⟩,
      (exportsAll_iff rfl h.converted).mpr ⟨h.exportSent, h.sameRows⟩⟩

end

/-! ### Two rows of one time -/

/-- A row of the organization. -/
def exampleRow (id : String) : AuditLog where
  origin := id
  id := .str id
  timestamp := 1
  columns := [("user_id", .str "user"), ("org_id", .str "org"), ("action", .str "READ"),
    ("resource_type", .str "run"), ("resource_id", .null), ("http_method", .str "GET"),
    ("path", .str "/runs"), ("ip_address", .null), ("user_agent", .null), ("request_body", .null),
    ("response_summary", .null), ("status_code", .num (.finite 200)),
    ("duration_ms", .num (.finite 5)), ("error_message", .null), ("error_class", .null),
    ("is_streaming", .bool false), ("metadata", .obj [])]

def exampleTable : AuditTable where
  rows := [exampleRow "a", exampleRow "b"]
  nodup_keys := by
    simp [exampleRow]

/-- A filter that only bounds the time. -/
def exampleFilters : AuditLogFilters where
  orgId := "org"
  userId := none
  action := none
  resourceType := none
  resourceId := none
  startTime := some ⟨0, none⟩
  endTime := some ⟨2, none⟩
  statusCode := none
  statusCodeGte := none
  statusCodeLte := none
  isStreaming := none

def exampleClock : Clock := ⟨fun _ => 3, fun _ => le_refl _, 7⟩

/-- **A row on two pages**: two rows of one time, and pages of one row. The first query has them in
one order, the second in the other. -/
theorem agree_two_rows :
    ¬ ∀ (sends : Condition → Bool) (table : AuditTable) (orgId : String) (filters : AuditLogFilters)
      (clock : Clock) (size : PageSize) (format : AuditExportFormat)
      (startTime endTime : Option Datetime) (exportNow : Datetime),
      ListsAll sends table orgId filters clock size ∧
        ExportsAll sends table orgId filters clock ⟨format, startTime, endTime, some filters⟩
          exportNow := by
  intro h
  have hlists := (h (fun _ => true) exampleTable "org" exampleFilters exampleClock
    ⟨1, le_rfl, by decide⟩ .csv exampleFilters.startTime exampleFilters.endTime
    (exampleClock.now 0)).1
  have hmatching : matching exampleTable "org" exampleFilters exampleClock =
      exampleTable.rows := rfl
  have hunsplit := (listsAll_iff.mp hlists).2.2.2 1
  rw [hmatching] at hunsplit
  exact hunsplit 1 (by decide)

end AuditApi

end OpenLangGraph

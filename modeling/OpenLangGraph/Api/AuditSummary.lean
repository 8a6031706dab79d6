import OpenLangGraph.Api.AuditPages
import OpenLangGraph.Foundation.GroupBy

/-!
# The summary of the audit log

`get_audit_summary` of `api/audit.py`: the entries of an organization within some time, counted by
action, by type of resource, by user or by day.

## Summary and listing

The summary is made in the database by two queries of its own, and the listing by two others. For
one state of the table they tell the same: each item is what the listing shows if it is filtered by
the key of the item, with the times of its last row and of its first, and the items add up to the
unfiltered listing.

## Scope

As in the listing, the table is fixed, and whether the driver sends a value is an input. The day of
a time depends on the session, and is a parameter together with its text.

## Main definitions

* `AuditGroupBy`, `AuditSummaryResponse`, `getAuditSummary`
* `IsListing` — an answer of the listing to a filter
* `SummaryAgrees`

## Main results

* `summary_agrees`
-/

namespace OpenLangGraph

open AuditOutbox Pagination GroupBy

inductive AuditGroupBy
  | action
  | resourceType
  | userId
  | day
deriving DecidableEq

structure AuditSummaryItem where
  key : String
  count : ℕ
  earliest : Option ℤ
  latest : Option ℤ

structure AuditSummaryResponse where
  groupBy : AuditGroupBy
  items : List AuditSummaryItem
  totalCount : ℕ
  startTime : ℤ
  endTime : ℤ

/-- The value of a column by which rows are grouped. -/
inductive AuditGroupKey
  | text (value : Option String)
  | day (value : ℤ)
deriving DecidableEq

namespace AuditApi

/-- A calendar: `date_trunc('day', …)`, and a day as text. -/
structure Calendar where
  day : ℤ → ℤ
  text : ℤ → String

variable (calendar : Calendar)

/-- `_get_group_column` -/
def getGroupColumn : AuditGroupBy → AuditLog → AuditGroupKey
  | .action, row => .text (row.column "action").asStr
  | .resourceType, row => .text (row.column "resource_type").asStr
  | .userId, row => .text (row.column "user_id").asStr
  | .day, row => .day (calendar.day row.timestamp)

/-- `str(row.key) if row.key is not None else "unknown"` -/
def keyText : AuditGroupKey → String
  | .text value => value.getD "unknown"
  | .day value => calendar.text value

/-- The conditions of both queries. -/
def summaryConditions (orgId : String) (times : ℤ × ℤ) : List Condition :=
  [.orgId orgId, .timestampGe times.1, .timestampLe times.2]

/-- The item of a key, with the rows of this key. -/
def summaryItem (k : AuditGroupKey) (own : List AuditLog) : AuditSummaryItem where
  key := keyText calendar k
  count := own.length
  earliest := (own.map (·.timestamp)).min?
  latest := (own.map (·.timestamp)).max?

/-- `get_audit_summary`; `keys` are the keys in the order of the answer. -/
def getAuditSummary (sends : Condition → Bool) (orgId : String) (now : Datetime)
    (groupBy : AuditGroupBy) (startTime endTime : Option Datetime) (rows : List AuditLog)
    (keys : List AuditGroupKey) : Option AuditSummaryResponse := do
  let times ← window now startTime endTime
  if (summaryConditions orgId times).all sends then
    let selected := select (summaryConditions orgId times) rows
    some
      { groupBy
        items := keys.map fun k =>
          summaryItem calendar k (group (getGroupColumn calendar groupBy) selected k)
        totalCount := selected.length
        startTime := times.1
        endTime := times.2 }
  else none

/-! ### What the listing says -/

/-- The filter of a listing that has times only. -/
def timesOnly (orgId : String) (startTime endTime : Option Datetime) : AuditLogFilters where
  orgId := orgId
  userId := none
  action := none
  resourceType := none
  resourceId := none
  startTime := startTime
  endTime := endTime
  statusCode := none
  statusCodeGte := none
  statusCodeLte := none
  isStreaming := none

/-- The listing can answer this to a filter, with these rows one after the other. -/
def IsListing (sends : Condition → Bool) (orgId : String) (now : Datetime) (rows : List AuditLog)
    (params : AuditLogFilters) (answer : List AuditLog) (response : AuditLogListResponse) : Prop :=
  ∃ times limit offset, window now params.startTime params.endTime = some times ∧
    IsAnswer (·.timestamp) (select (listConditions orgId params times) rows) answer ∧
    listAuditLogs sends orgId now params rows answer limit offset = some response

/-- The number of rows, and the times of the last row and of the first. -/
def Matches (item : AuditSummaryItem) (answer : List AuditLog) (response : AuditLogListResponse) :
    Prop :=
  response.total = item.count ∧ answer.getLast?.map (·.timestamp) = item.earliest ∧
    answer.head?.map (·.timestamp) = item.latest

/-- The filter for a value of the column. A day is none, and an empty user is no filter. -/
def filterOf (orgId : String) (startTime endTime : Option Datetime) (value : String) :
    AuditGroupBy → Option AuditLogFilters
  | .action => (AuditAction.ofValue value).map fun action =>
      { timesOnly orgId startTime endTime with action := some action }
  | .resourceType => (AuditResourceType.ofValue value).map fun resourceType =>
      { timesOnly orgId startTime endTime with resourceType := some resourceType }
  | .userId =>
    if value = "" then none
    else some { timesOnly orgId startTime endTime with userId := some value }
  | .day => none

/-- What summary and listing say of each other. -/
structure SummaryAgrees (sends : Condition → Bool) (orgId : String) (now : Datetime)
    (startTime endTime : Option Datetime) (rows : List AuditLog)
    (summary : AuditSummaryResponse) : Prop where
  counts : (summary.items.map (·.count)).sum = summary.totalCount
  sorted : summary.items.Pairwise fun item item' => item'.count ≤ item.count
  /-- The whole listing. -/
  listed : ∀ answer response,
    IsListing sends orgId now rows (timesOnly orgId startTime endTime) answer response →
      response.total = summary.totalCount ∧
        answer.getLast?.map (·.timestamp) = (summary.items.filterMap (·.earliest)).min? ∧
        answer.head?.map (·.timestamp) = (summary.items.filterMap (·.latest)).max?
  /-- The listing with the key of an item. -/
  items : ∀ item ∈ summary.items,
    ∀ params ∈ filterOf orgId startTime endTime item.key summary.groupBy, ∀ answer response,
      IsListing sends orgId now rows params answer response → Matches item answer response
  /-- The listing with a value that no item has. -/
  missing : ∀ value, (∀ item ∈ summary.items, item.key ≠ value) →
    ∀ params ∈ filterOf orgId startTime endTime value summary.groupBy, ∀ answer response,
      IsListing sends orgId now rows params answer response → response.total = 0

/-! ### The rows of an item -/

theorem holds_summaryConditions (orgId : String) (times : ℤ × ℤ) (row : AuditLog) :
    (summaryConditions orgId times).all (Condition.holds row) =
      ((row.column "org_id").asStr == some orgId && inTimes (some times) row) := by
  simp [summaryConditions, Condition.holds, inTimes]

theorem select_timesOnly (orgId : String) (startTime endTime : Option Datetime) (times : ℤ × ℤ)
    (rows : List AuditLog) :
    select (listConditions orgId (timesOnly orgId startTime endTime) times) rows =
      select (summaryConditions orgId times) rows := by
  refine List.filter_congr fun row _ => ?_
  rw [holds_listConditions, holds_summaryConditions]
  simp [passes, inRange, timesOnly]

/-- The value of a member found by its value. -/
theorem value_of_ofValue {value : String} {action : AuditAction}
    (h : AuditAction.ofValue value = some action) : action.value = value :=
  of_decide_eq_true (List.find?_some (p := fun action : AuditAction => action.value = value) h)

theorem value_of_ofValue' {value : String} {resourceType : AuditResourceType}
    (h : AuditResourceType.ofValue value = some resourceType) : resourceType.value = value :=
  of_decide_eq_true (List.find?_some (p := fun r : AuditResourceType => r.value = value) h)

/-- A filter selects the group of its value. -/
theorem select_filterOf (calendar : Calendar) {orgId value : String}
    {startTime endTime : Option Datetime} {groupBy : AuditGroupBy} {params : AuditLogFilters}
    (h : filterOf orgId startTime endTime value groupBy = some params) (times : ℤ × ℤ)
    (rows : List AuditLog) :
    select (listConditions orgId params times) rows =
      group (getGroupColumn calendar groupBy) (select (summaryConditions orgId times) rows)
        (.text (some value)) := by
  rw [group, select, select, List.filter_filter]
  refine List.filter_congr fun row _ => ?_
  rw [holds_listConditions, holds_summaryConditions]
  cases groupBy with
  | action =>
    obtain ⟨action, haction, rfl⟩ := Option.map_eq_some_iff.mp h
    obtain rfl := value_of_ofValue haction
    simp [passes, inRange, timesOnly, getGroupColumn, beq_eq_decide, Bool.and_comm,
      Bool.and_left_comm]
  | resourceType =>
    obtain ⟨resourceType, hresourceType, rfl⟩ := Option.map_eq_some_iff.mp h
    obtain rfl := value_of_ofValue' hresourceType
    simp [passes, inRange, timesOnly, getGroupColumn, beq_eq_decide, Bool.and_assoc,
      Bool.and_comm]
  | userId =>
    rw [filterOf] at h
    split at h
    · cases h
    · rename_i hvalue
      cases h
      simp [passes, inRange, timesOnly, getGroupColumn, hvalue, beq_eq_decide, Bool.and_assoc,
        Bool.and_comm]
  | day => cases h

/-! ### The ends of a listing -/

variable {rows answer : List AuditLog}

/-- A listing begins with the latest row. -/
theorem head?_isAnswer (h : IsAnswer (·.timestamp) rows answer) :
    answer.head?.map (·.timestamp) = (rows.map (·.timestamp)).max? := by
  cases answer with
  | nil => rw [List.nil_perm.mp h.1]; rfl
  | cons first rest =>
    refine (List.max?_eq_some_iff.mpr ⟨?_, fun time htime => ?_⟩).symm
    · exact List.mem_map_of_mem (h.1.mem_iff.mp List.mem_cons_self)
    · obtain ⟨row, hrow, rfl⟩ := List.mem_map.mp htime
      rcases List.mem_cons.mp (h.1.mem_iff.mpr hrow) with rfl | hrest
      · exact le_refl _
      · exact (List.pairwise_cons.mp h.2).1 row hrest

/-- It ends with the earliest. -/
theorem getLast?_isAnswer (h : IsAnswer (·.timestamp) rows answer) :
    answer.getLast?.map (·.timestamp) = (rows.map (·.timestamp)).min? := by
  rcases List.eq_nil_or_concat answer with rfl | ⟨rest, last, rfl⟩
  · rw [List.nil_perm.mp h.1]
    rfl
  · have hsorted := h.2
    rw [List.concat_eq_append, List.pairwise_append] at hsorted
    rw [List.concat_eq_append, List.getLast?_concat]
    refine (List.min?_eq_some_iff.mpr ⟨?_, fun time htime => ?_⟩).symm
    · exact List.mem_map_of_mem (h.1.mem_iff.mp (by simp))
    · obtain ⟨row, hrow, rfl⟩ := List.mem_map.mp htime
      rcases List.mem_append.mp (List.concat_eq_append ▸ h.1.mem_iff.mpr hrow) with hrest | hlast
      · exact hsorted.2.2 row hrest last (List.mem_singleton_self _)
      · rw [List.mem_singleton.mp hlast]

theorem total_listAuditLogs {sends : Condition → Bool} {orgId : String} {now : Datetime}
    {params : AuditLogFilters} {times : ℤ × ℤ} {limit offset : ℕ} {response : AuditLogListResponse}
    (htimes : window now params.startTime params.endTime = some times)
    (h : listAuditLogs sends orgId now params rows answer limit offset = some response) :
    response.total = (select (listConditions orgId params times) rows).length := by
  obtain ⟨conditions, hconditions, h⟩ := Option.bind_eq_some_iff.mp h
  obtain ⟨entries, -, h⟩ := Option.bind_eq_some_iff.mp h
  cases h
  rw [listQuery, htimes] at hconditions
  obtain ⟨hsome, -⟩ := Option.filter_eq_some_iff.mp hconditions
  rw [← Option.some.inj hsome]

/-- What a listing shows of the rows that it selects. -/
theorem IsListing.spec {sends : Condition → Bool} {orgId : String} {now : Datetime}
    {params : AuditLogFilters} {times : ℤ × ℤ} {response : AuditLogListResponse}
    (htimes : window now params.startTime params.endTime = some times)
    (h : IsListing sends orgId now rows params answer response) :
    let own := select (listConditions orgId params times) rows
    response.total = own.length ∧
      answer.getLast?.map (·.timestamp) = (own.map (·.timestamp)).min? ∧
      answer.head?.map (·.timestamp) = (own.map (·.timestamp)).max? := by
  obtain ⟨times', limit, offset, htimes', hanswer, hresponse⟩ := h
  obtain rfl := Option.some.inj (htimes.symm.trans htimes')
  exact ⟨total_listAuditLogs htimes hresponse, getLast?_isAnswer hanswer, head?_isAnswer hanswer⟩

theorem times_filterOf {orgId value : String} {startTime endTime : Option Datetime}
    {groupBy : AuditGroupBy} {params : AuditLogFilters}
    (h : filterOf orgId startTime endTime value groupBy = some params) :
    params.startTime = startTime ∧ params.endTime = endTime := by
  cases groupBy with
  | action =>
    obtain ⟨action, -, rfl⟩ := Option.map_eq_some_iff.mp h
    exact ⟨rfl, rfl⟩
  | resourceType =>
    obtain ⟨resourceType, -, rfl⟩ := Option.map_eq_some_iff.mp h
    exact ⟨rfl, rfl⟩
  | userId =>
    rw [filterOf] at h
    split at h
    · cases h
    · cases h
      exact ⟨rfl, rfl⟩
  | day => cases h

/-- The columns are `NOT NULL`, and hold text. -/
def HasColumns (row : AuditLog) : Prop :=
  ∀ name ∈ ["user_id", "action", "resource_type"], ((row.column name).asStr).isSome = true

/-- A key that is no day is the text of its item. -/
theorem key_of_keyText {calendar : Calendar} {orgId value : String}
    {startTime endTime : Option Datetime} {groupBy : AuditGroupBy} {params : AuditLogFilters}
    (h : filterOf orgId startTime endTime value groupBy = some params) {row : AuditLog}
    (hrow : HasColumns row)
    (htext : keyText calendar (getGroupColumn calendar groupBy row) = value) :
    getGroupColumn calendar groupBy row = .text (some value) := by
  have hcolumn : ∀ name ∈ ["user_id", "action", "resource_type"],
      (row.column name).asStr.getD "unknown" = value → (row.column name).asStr = some value := by
    intro name hname hvalue
    obtain ⟨text, htext⟩ := Option.isSome_iff_exists.mp (hrow name hname)
    rw [htext] at hvalue ⊢
    exact congrArg some hvalue
  cases groupBy with
  | action => exact congrArg _ (hcolumn "action" (by simp) htext)
  | resourceType => exact congrArg _ (hcolumn "resource_type" (by simp) htext)
  | userId => exact congrArg _ (hcolumn "user_id" (by simp) htext)
  | day => cases h

/-- **Summary and listing agree.** -/
theorem summary_agrees {sends : Condition → Bool} {orgId : String} {now : Datetime}
    {groupBy : AuditGroupBy} {startTime endTime : Option Datetime} {times : ℤ × ℤ}
    {keys : List AuditGroupKey} {summary : AuditSummaryResponse} (calendar : Calendar)
    (hcolumns : ∀ row ∈ rows, HasColumns row)
    (htimes : window now startTime endTime = some times)
    (hkeys : IsRanking (getGroupColumn calendar groupBy)
      (select (summaryConditions orgId times) rows) keys)
    (h : getAuditSummary calendar sends orgId now groupBy startTime endTime rows keys =
      some summary) :
    SummaryAgrees sends orgId now startTime endTime rows summary := by
  rw [getAuditSummary, htimes, Option.bind_eq_bind, Option.bind_some] at h
  split at h
  · cases h
    refine
      { counts := ?_
        sorted := ?_
        listed := fun answer response hlisting => ?_
        items := fun item hitem params hparams answer response hlisting => ?_
        missing := fun value hvalue params hparams answer response hlisting => ?_ }
    · rw [List.map_map]
      exact sum_length_group hkeys.toIsGrouping
    · exact List.pairwise_map.mpr hkeys.sorted
    · have hspec := hlisting.spec htimes
      rw [select_timesOnly] at hspec
      rw [List.filterMap_map, List.filterMap_map]
      exact ⟨hspec.1, hspec.2.1.trans (min?_group hkeys.toIsGrouping _).symm,
        hspec.2.2.trans (max?_group hkeys.toIsGrouping _).symm⟩
    · obtain ⟨k, hk, rfl⟩ := List.mem_map.mp hitem
      obtain ⟨row, hrow, rfl⟩ := (hkeys.mem_iff k).mp hk
      have hkey := key_of_keyText hparams (hcolumns row (List.mem_of_mem_filter hrow)) rfl
      obtain ⟨hstart, hend⟩ := times_filterOf hparams
      have hspec := hlisting.spec (by rw [hstart, hend, htimes])
      rw [select_filterOf calendar hparams, ← hkey] at hspec
      exact hspec
    · obtain ⟨hstart, hend⟩ := times_filterOf hparams
      have hspec := hlisting.spec (by rw [hstart, hend, htimes])
      rw [hspec.1, select_filterOf calendar hparams, List.length_eq_zero_iff]
      refine List.filter_eq_nil_iff.mpr fun row hrow hkey => ?_
      have hmem : AuditGroupKey.text (some value) ∈ keys :=
        (hkeys.mem_iff _).mpr ⟨row, hrow, of_decide_eq_true hkey⟩
      exact hvalue _ (List.mem_map_of_mem hmem) rfl
  · cases h

/-- An entry of Ada. -/
def adaCreates : AuditLog where
  origin := "1"
  id := .str "1"
  timestamp := 5
  columns :=
    [("org_id", .str "acme"), ("user_id", .str "ada"), ("action", .str "CREATE"),
      ("resource_type", .str "thread")]

theorem summary_agrees_ada :
    SummaryAgrees (fun _ => true) "acme" ⟨9, some 0⟩ none none [adaCreates]
      ⟨.action, [⟨"CREATE", 1, some 5, some 5⟩], 1, 0, 9⟩ := by
  have htimes : window ⟨9, some 0⟩ none none = some (0, 9) := rfl
  have hkeys : IsRanking (getGroupColumn ⟨id, fun _ => ""⟩ .action)
      (select (summaryConditions "acme" (0, 9)) [adaCreates]) [.text (some "CREATE")] := by
    refine ⟨⟨List.nodup_singleton _, fun k => ?_⟩, List.pairwise_singleton _ _⟩
    show k ∈ [.text (some "CREATE")] ↔ ∃ row ∈ [adaCreates], _
    rw [List.mem_singleton]
    constructor
    · rintro rfl
      exact ⟨adaCreates, List.mem_singleton_self _, rfl⟩
    · rintro ⟨row, hrow, rfl⟩
      rw [List.mem_singleton.mp hrow]
      rfl
  refine summary_agrees ⟨id, fun _ => ""⟩ (fun row hrow => ?_) htimes hkeys rfl
  rw [List.mem_singleton.mp hrow, HasColumns]
  decide

end AuditApi

end OpenLangGraph

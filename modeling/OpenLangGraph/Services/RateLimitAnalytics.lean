import Mathlib.Algebra.Ring.Rat
import Mathlib.Data.List.Dedup
import Mathlib.Data.Option.Basic
import OpenLangGraph.Foundation.GroupBy
import OpenLangGraph.Models.RateLimitRules

/-!
# Rate limit analytics

`RateLimitAnalyticsService` of `services/rate_limit_analytics_service.py`: the reports on the table
`rate_limit_history`, which has a row for each check of a rule.

## One table, eight reports

Every report makes its own query, with conditions of its own and its own way of grouping. They are
about the same rows if they are asked for the same times: the numbers of the rules, of the users, of
the endpoints and of the hours add up to those of the organization, up to the rows without a rule, a
user or an endpoint, and the violations are the blocked checks.

## Scope

Times are in microseconds. The average is the exact one, which the service rounds to two digits.
The hour of a time depends on the session, and is a parameter, as is the order in which the database
answers. Times so early that a day cannot be subtracted are left out.

## Main definitions

* `RateLimitHistoryRow`, `RateLimitAnalytics`
* `getRuleAnalytics`, `getOrgSummary`, `getViolations`, `getViolationsCount`, `getRecentHits`
* `getTopUsersByUsage`, `getTopEndpointsByUsage`, `getHourlyTrend`
* `ReportsAgree`

## Main results

* `reports_agree`
-/

namespace OpenLangGraph

open PyString GroupBy

/-- A row of `rate_limit_history`. -/
structure RateLimitHistoryRow where
  orgId : Str
  ruleId : Option Str
  ruleName : Option Str
  timestamp : ℤ
  userId : Option Str
  apiKeyId : Option Str
  endpoint : Option Str
  allowed : Bool
  currentCount : ℕ
  limitValue : ℕ
  actionTaken : Option String
  ipAddress : Option Str
deriving DecidableEq

/-- `RateLimitAnalytics`, with `none` for an organization as a whole. -/
structure RateLimitAnalytics where
  ruleId : Option Str
  orgId : Str
  periodStart : ℤ
  periodEnd : ℤ
  totalChecks : ℕ
  totalAllowed : ℕ
  totalBlocked : ℕ
  uniqueUsers : ℕ
  peakUsage : ℕ
  peakTimestamp : Option ℤ
  avgUsagePercent : ℚ

structure RateLimitViolation where
  ruleId : Str
  orgId : Str
  timestamp : ℤ
  userId : Option Str
  apiKeyId : Option Str
  endpoint : Str
  currentCount : ℕ
  limit : ℕ
  actionTaken : RateLimitAction

structure RateLimitHit where
  ruleId : Str
  orgId : Str
  timestamp : ℤ
  allowed : Bool
  userId : Option Str
  endpoint : Option Str
  currentCount : ℕ
  limit : ℕ

/-- An entry of `get_top_users_by_usage`. -/
structure UserUsage where
  userId : Option Str
  totalRequests : ℕ
  violations : ℕ
  peakCount : ℕ

/-- An entry of `get_top_endpoints_by_usage`. -/
structure EndpointUsage where
  endpoint : Option Str
  totalRequests : ℕ
  violations : ℕ

/-- An entry of `get_hourly_trend`. -/
structure HourUsage where
  hour : ℤ
  totalRequests : ℕ
  violations : ℕ
  avgUsagePercent : ℚ

/-- An order in which the database returns the rows of a query that asks for none. -/
structure RowOrder where
  answer : List RateLimitHistoryRow → List RateLimitHistoryRow
  perm : ∀ rows, (answer rows).Perm rows

namespace RateLimitAnalyticsService

/-! ### Times -/

/-- `timedelta(hours=hours)` -/
def hoursBack (hours : ℕ) : ℤ := hours * 3600 * 1000000

/-- `period_deltas.get(period, timedelta(days=1))` -/
def periodDelta (period : String) : ℤ :=
  match period with
  | "hour" => hoursBack 1
  | "week" => hoursBack (7 * 24)
  | "month" => hoursBack (30 * 24)
  | _ => hoursBack 24

/-- The times of a report. -/
def window (now : ℤ) (startTime endTime : Option ℤ) (delta : ℤ) : ℤ × ℤ :=
  let endTime := endTime.getD now
  (startTime.getD (endTime - delta), endTime)

/-- The conditions that all reports but one have. -/
def isWithin (orgId : Str) (times : ℤ × ℤ) (row : RateLimitHistoryRow) : Bool :=
  row.orgId = orgId && times.1 ≤ row.timestamp && row.timestamp ≤ times.2

/-- `if rule_id: filters.append(RateLimitHistoryORM.rule_id == rule_id)` -/
def hasRule (ruleId : Option Str) (row : RateLimitHistoryRow) : Bool :=
  (truthy ruleId).all fun ruleId => row.ruleId = some ruleId

/-! ### Aggregates -/

/-- `func.avg(current_count * 100.0 / func.nullif(limit_value, 0))`, or 0. -/
def avgPercent (rows : List RateLimitHistoryRow) : ℚ :=
  let counted := rows.filter (·.limitValue ≠ 0)
  (counted.map fun row => (row.currentCount * 100 : ℚ) / row.limitValue).sum / counted.length

/-- `func.max(RateLimitHistoryORM.current_count)` -/
def peak (rows : List RateLimitHistoryRow) : Option ℕ := (rows.map (·.currentCount)).max?

/-- The common body of `get_rule_analytics` and `get_org_summary`, for the rows of `base_filter`. -/
def analyticsOf (order : RowOrder) (ruleId : Option Str) (orgId : Str) (times : ℤ × ℤ)
    (rows : List RateLimitHistoryRow) : RateLimitAnalytics where
  ruleId := ruleId
  orgId := orgId
  periodStart := times.1
  periodEnd := times.2
  totalChecks := rows.length
  totalAllowed := rows.countP (·.allowed)
  totalBlocked := rows.countP (!·.allowed)
  uniqueUsers := (rows.filterMap (·.userId)).dedup.length
  peakUsage := (peak rows).getD 0
  peakTimestamp :=
    (order.answer (rows.filter fun row => some row.currentCount = peak rows)).head?.map
      (·.timestamp)
  avgUsagePercent := avgPercent rows

/-! ### The reports -/

section

variable (rows : List RateLimitHistoryRow) (now : ℤ) (orgId : Str)

def getRuleAnalytics (order : RowOrder) (ruleId : Str) (startTime endTime : Option ℤ) :
    RateLimitAnalytics :=
  let times := window now startTime endTime (hoursBack 24)
  analyticsOf order (some ruleId) orgId times
    (rows.filter fun row => isWithin orgId times row && decide (row.ruleId = some ruleId))

def getOrgSummary (order : RowOrder) (period : String) (startTime endTime : Option ℤ) :
    RateLimitAnalytics :=
  let times := window now startTime endTime (periodDelta period)
  analyticsOf order none orgId times (rows.filter (isWithin orgId times))

/-- The conditions of a violation. -/
def isViolation (times : ℤ × ℤ) (ruleId : Option Str) (row : RateLimitHistoryRow) : Bool :=
  isWithin orgId times row && !row.allowed && hasRule ruleId row

/-- An entry of `get_violations`. -/
def toViolation (row : RateLimitHistoryRow) : RateLimitViolation where
  ruleId := (truthy row.ruleId).getD "unknown".toList
  orgId := row.orgId
  timestamp := row.timestamp
  userId := row.userId
  apiKeyId := row.apiKeyId
  endpoint := (truthy row.endpoint).getD "unknown".toList
  currentCount := row.currentCount
  limit := row.limitValue
  actionTaken :=
    if row.actionTaken = some "throttled" then .throttle
    else if row.actionTaken = some "logged" then .logOnly
    else .reject

/-- `get_violations`; `order` gives the rows by falling times. -/
def getViolations (order : RowOrder) (ruleId userId : Option Str) (startTime endTime : Option ℤ)
    (limit offset : ℕ) : List RateLimitViolation :=
  let times := window now startTime endTime (hoursBack 24)
  let selected := rows.filter fun row =>
    isViolation orgId times ruleId row &&
      (truthy userId).all fun userId => row.userId = some userId
  (((order.answer selected).drop offset).take limit).map toViolation

def getViolationsCount (ruleId : Option Str) (startTime endTime : Option ℤ) : ℕ :=
  rows.countP (isViolation orgId (window now startTime endTime (hoursBack 24)) ruleId)

/-- `get_recent_hits`, which has no times. -/
def getRecentHits (order : RowOrder) (ruleId : Option Str) (limit : ℕ) : List RateLimitHit :=
  ((order.answer (rows.filter fun row => row.orgId = orgId && hasRule ruleId row)).take limit).map
    fun row =>
      { ruleId := (truthy row.ruleId).getD "unknown".toList
        orgId := row.orgId
        timestamp := row.timestamp
        allowed := row.allowed
        userId := row.userId
        endpoint := row.endpoint
        currentCount := row.currentCount
        limit := row.limitValue }

/-- The rows of `get_top_users_by_usage`. -/
def userRows (ruleId : Option Str) (startTime endTime : Option ℤ) : List RateLimitHistoryRow :=
  rows.filter fun row =>
    isWithin orgId (window now startTime endTime (hoursBack 24)) row && row.userId.isSome &&
      hasRule ruleId row

/-- `get_top_users_by_usage`; `keys` are the users in the order of the answer. -/
def getTopUsersByUsage (keys : List (Option Str)) (ruleId : Option Str)
    (startTime endTime : Option ℤ) (limit : ℕ) : List UserUsage :=
  (keys.take limit).map fun userId =>
    let own := group (·.userId) (userRows rows now orgId ruleId startTime endTime) userId
    { userId
      totalRequests := own.length
      violations := own.countP (!·.allowed)
      peakCount := (peak own).getD 0 }

/-- The rows of `get_top_endpoints_by_usage`. -/
def endpointRows (startTime endTime : Option ℤ) : List RateLimitHistoryRow :=
  rows.filter fun row =>
    isWithin orgId (window now startTime endTime (hoursBack 24)) row && row.endpoint.isSome

/-- `get_top_endpoints_by_usage` -/
def getTopEndpointsByUsage (keys : List (Option Str)) (startTime endTime : Option ℤ)
    (limit : ℕ) : List EndpointUsage :=
  (keys.take limit).map fun endpoint =>
    let own := group (·.endpoint) (endpointRows rows now orgId startTime endTime) endpoint
    { endpoint
      totalRequests := own.length
      violations := own.countP (!·.allowed) }

/-- The rows of `get_hourly_trend`. -/
def trendRows (ruleId : Option Str) (hours : ℕ) : List RateLimitHistoryRow :=
  rows.filter fun row => isWithin orgId (now - hoursBack hours, now) row && hasRule ruleId row

/-- `get_hourly_trend`; `keys` are the hours in the order of the answer. -/
def getHourlyTrend (hourOf : ℤ → ℤ) (keys : List ℤ) (ruleId : Option Str) (hours : ℕ) :
    List HourUsage :=
  keys.map fun hour =>
    let own := group (fun row => hourOf row.timestamp) (trendRows rows now orgId ruleId hours) hour
    { hour
      totalRequests := own.length
      violations := own.countP (!·.allowed)
      avgUsagePercent := avgPercent own }

end

/-! ### Columns that may be empty -/

variable {rows : List RateLimitHistoryRow} {column : RateLimitHistoryRow → Option Str}
  {keys : List (Option Str)}

/-- The groups of a column make up the rows that have it. -/
theorem sum_countP_column (h : IsGrouping column (rows.filter (column · |>.isSome)) keys)
    (p : RateLimitHistoryRow → Bool) :
    (keys.map fun k => (group column (rows.filter (column · |>.isSome)) k).countP p).sum +
      rows.countP (fun row => p row && (column row).isNone) = rows.countP p := by
  have hnone : ∀ row, (column row).isNone = !(column row).isSome := fun row => by
    cases column row <;> rfl
  rw [sum_countP_group h, List.countP_filter, List.countP_eq_countP_filter_add rows p
    (column · |>.isSome), List.countP_filter, List.countP_filter]
  simp only [hnone]

/-- There are as many groups as values. -/
theorem length_column (h : IsGrouping column (rows.filter (column · |>.isSome)) keys) :
    keys.length = (rows.filterMap column).dedup.length := by
  have hperm : keys.Perm ((rows.filterMap column).dedup.map some) := by
    refine (List.perm_ext_iff_of_nodup h.nodup
      ((List.nodup_dedup _).map (Option.some_injective _))).mpr fun k => ?_
    rw [h.mem_iff, List.mem_map]
    constructor
    · rintro ⟨row, hrow, rfl⟩
      obtain ⟨hmem, hsome⟩ := List.mem_filter.mp hrow
      obtain ⟨value, hvalue⟩ := Option.isSome_iff_exists.mp hsome
      exact ⟨value, List.mem_dedup.mpr (List.mem_filterMap.mpr ⟨row, hmem, hvalue⟩), hvalue.symm⟩
    · rintro ⟨value, hvalue, rfl⟩
      obtain ⟨row, hmem, hrow⟩ := List.mem_filterMap.mp (List.mem_dedup.mp hvalue)
      exact ⟨row, List.mem_filter.mpr ⟨hmem, by rw [hrow]; rfl⟩, hrow⟩
  rw [hperm.length_eq, List.length_map]

/-- The groups of some values, and the rows that have none of them. -/
theorem sum_countP_values (column : RateLimitHistoryRow → Option Str) {values : List Str}
    (hnodup : values.Nodup) (hvalues : ∀ row ∈ rows, ∀ value ∈ column row, value ∈ values)
    (p : RateLimitHistoryRow → Bool) :
    (values.map fun value => (group column rows (some value)).countP p).sum +
      rows.countP (fun row => p row && (column row).isNone) = rows.countP p := by
  have hsum := sum_countP_group_add column rows (hnodup.map (Option.some_injective _)) p
  rw [List.map_map] at hsum
  rw [← hsum]
  refine congrArg _ (List.countP_congr fun row hrow => ?_)
  cases hvalue : column row with
  | none => simp
  | some value => simp [hvalues row hrow value hvalue]

/-! ### The reports agree -/

variable {now : ℤ} {orgId : Str} {order : RowOrder} {startTime endTime : Option ℤ}

/-- The rows of an organization, as the reports without a filter see them. -/
def orgRows (rows : List RateLimitHistoryRow) (now : ℤ) (orgId : Str)
    (startTime endTime : Option ℤ) : List RateLimitHistoryRow :=
  rows.filter (isWithin orgId (window now startTime endTime (hoursBack 24)))

theorem getOrgSummary_eq (order : RowOrder) :
    getOrgSummary rows now orgId order "day" startTime endTime =
      analyticsOf order none orgId (window now startTime endTime (hoursBack 24))
        (orgRows rows now orgId startTime endTime) := rfl

theorem getRuleAnalytics_eq (order : RowOrder) (ruleId : Str) :
    getRuleAnalytics rows now orgId order ruleId startTime endTime =
      analyticsOf order (some ruleId) orgId (window now startTime endTime (hoursBack 24))
        (group (·.ruleId) (orgRows rows now orgId startTime endTime) (some ruleId)) := by
  rw [getRuleAnalytics, group, orgRows, List.filter_filter]
  simp only [Bool.and_comm]

theorem userRows_eq : userRows rows now orgId none startTime endTime =
    (orgRows rows now orgId startTime endTime).filter (·.userId.isSome) := by
  rw [userRows, orgRows, List.filter_filter]
  refine List.filter_congr fun row _ => ?_
  simp [hasRule, truthy, Bool.and_comm]

theorem endpointRows_eq : endpointRows rows now orgId startTime endTime =
    (orgRows rows now orgId startTime endTime).filter (·.endpoint.isSome) := by
  rw [endpointRows, orgRows, List.filter_filter]
  refine List.filter_congr fun row _ => Bool.and_comm _ _

theorem getViolationsCount_none : getViolationsCount rows now orgId none startTime endTime =
    (orgRows rows now orgId startTime endTime).countP (!·.allowed) := by
  rw [getViolationsCount, orgRows, List.countP_filter]
  refine List.countP_congr fun row _ => ?_
  simp [isViolation, hasRule, truthy, Bool.and_comm]

theorem getViolationsCount_some {ruleId : Str} (h : ruleId ≠ []) :
    getViolationsCount rows now orgId (some ruleId) startTime endTime =
      (group (·.ruleId) (orgRows rows now orgId startTime endTime) (some ruleId)).countP
        (!·.allowed) := by
  rw [getViolationsCount, group, orgRows, List.filter_filter, List.countP_filter]
  refine List.countP_congr fun row _ => ?_
  simp only [isViolation, hasRule, truthy, Option.filter, decide_eq_true h, if_true,
    Option.all_some]
  cases row.allowed <;> simp [and_comm]

/-- What the reports on one table say of each other, asked for the same times at the same moment. -/
structure ReportsAgree (rows : List RateLimitHistoryRow) (now : ℤ) (orgId : Str) (order : RowOrder)
    (startTime endTime : Option ℤ) : Prop where
  /-- A check is allowed or blocked. -/
  checks : let summary := getOrgSummary rows now orgId order "day" startTime endTime
    summary.totalChecks = summary.totalAllowed + summary.totalBlocked
  /-- The rules, and the checks of rules that have been deleted. -/
  rules : ∀ ruleIds : List Str, ruleIds.Nodup →
    (∀ row ∈ orgRows rows now orgId startTime endTime, ∀ ruleId ∈ row.ruleId, ruleId ∈ ruleIds) →
      let summary := getOrgSummary rows now orgId order "day" startTime endTime
      let reports := ruleIds.map fun ruleId =>
        getRuleAnalytics rows now orgId order ruleId startTime endTime
      let unruled := (orgRows rows now orgId startTime endTime).filter (·.ruleId.isNone)
      (reports.map (·.totalChecks)).sum + unruled.length = summary.totalChecks ∧
        (reports.map (·.totalBlocked)).sum + unruled.countP (!·.allowed) = summary.totalBlocked ∧
        ∀ report ∈ reports, report.peakUsage ≤ summary.peakUsage
  /-- There was a check at the time of the peak. -/
  peak : let summary := getOrgSummary rows now orgId order "day" startTime endTime
    ∀ time ∈ summary.peakTimestamp, ∃ row ∈ orgRows rows now orgId startTime endTime,
      row.timestamp = time ∧ row.currentCount = summary.peakUsage
  /-- The violations are the blocked checks. -/
  violations :
    getViolationsCount rows now orgId none startTime endTime =
        (getOrgSummary rows now orgId order "day" startTime endTime).totalBlocked ∧
      ∀ ruleId, ruleId ≠ [] → getViolationsCount rows now orgId (some ruleId) startTime endTime =
        (getRuleAnalytics rows now orgId order ruleId startTime endTime).totalBlocked
  /-- A page has what the count says. -/
  pages : ∀ (ruleId : Option Str) (limit offset : ℕ),
    (getViolations rows now orgId order ruleId none startTime endTime limit offset).length =
      min limit (getViolationsCount rows now orgId ruleId startTime endTime - offset)
  /-- The users, if none is cut off, and the checks of nobody. -/
  users : ∀ (keys : List (Option Str)) (limit : ℕ), keys.length ≤ limit →
    IsRanking (·.userId) (userRows rows now orgId none startTime endTime) keys →
      let summary := getOrgSummary rows now orgId order "day" startTime endTime
      let shown := getTopUsersByUsage rows now orgId keys none startTime endTime limit
      let others := (orgRows rows now orgId startTime endTime).filter (·.userId.isNone)
      shown.length = summary.uniqueUsers ∧
        (shown.map (·.totalRequests)).sum + others.length = summary.totalChecks ∧
        (shown.map (·.violations)).sum + others.countP (!·.allowed) = summary.totalBlocked
  /-- Whoever is cut off has not made more requests than one who is shown. -/
  topUsers : ∀ (keys : List (Option Str)) (ruleId : Option Str) (limit : ℕ),
    IsRanking (·.userId) (userRows rows now orgId ruleId startTime endTime) keys →
      ∀ entry ∈ getTopUsersByUsage rows now orgId keys ruleId startTime endTime limit,
        ∀ userId ∈ keys, userId ∉ keys.take limit →
          (group (·.userId) (userRows rows now orgId ruleId startTime endTime) userId).length ≤
            entry.totalRequests
  /-- The endpoints, if none is cut off, and the checks of none. -/
  endpoints : ∀ (keys : List (Option Str)) (limit : ℕ), keys.length ≤ limit →
    IsRanking (·.endpoint) (endpointRows rows now orgId startTime endTime) keys →
      let summary := getOrgSummary rows now orgId order "day" startTime endTime
      let shown := getTopEndpointsByUsage rows now orgId keys startTime endTime limit
      let others := (orgRows rows now orgId startTime endTime).filter (·.endpoint.isNone)
      (shown.map (·.totalRequests)).sum + others.length = summary.totalChecks ∧
        (shown.map (·.violations)).sum + others.countP (!·.allowed) = summary.totalBlocked
  /-- The hours of the last hours. -/
  hours : ∀ (hourOf : ℤ → ℤ) (keys : List ℤ) (hours : ℕ),
    IsGrouping (fun row => hourOf row.timestamp) (trendRows rows now orgId none hours) keys →
      let summary := getOrgSummary rows now orgId order "day" (some (now - hoursBack hours)) none
      let trend := getHourlyTrend rows now orgId hourOf keys none hours
      (trend.map (·.totalRequests)).sum = summary.totalChecks ∧
        (trend.map (·.violations)).sum = summary.totalBlocked

theorem length_eq_countP (rows : List RateLimitHistoryRow) :
    rows.length = rows.countP fun _ => true := by simp

theorem peak_mono {rows' : List RateLimitHistoryRow} (h : rows' ⊆ rows) :
    (peak rows').getD 0 ≤ (peak rows).getD 0 := by
  cases hpeak' : peak rows' with
  | none => exact Nat.zero_le _
  | some m' =>
    obtain ⟨row, hrow, hm'⟩ := List.mem_map.mp (List.max?_mem hpeak')
    have hmem : m' ∈ rows.map (·.currentCount) := List.mem_map.mpr ⟨row, h hrow, hm'⟩
    cases hpeak : peak rows with
    | none =>
      rw [List.max?_eq_none_iff.mp hpeak] at hmem
      cases hmem
    | some m => exact (List.max?_eq_some_iff.mp hpeak).2 m' hmem

/-- **The reports agree.** -/
theorem reports_agree (rows : List RateLimitHistoryRow) (now : ℤ) (orgId : Str) (order : RowOrder)
    (startTime endTime : Option ℤ) : ReportsAgree rows now orgId order startTime endTime where
  checks := by
    show (orgRows rows now orgId startTime endTime).length = _ + _
    rw [length_eq_countP, List.countP_eq_countP_filter_add _ (fun _ => true) (·.allowed)]
    simp [getOrgSummary_eq, analyticsOf, ← List.countP_eq_length_filter]
  rules := fun ruleIds hnodup hrules => by
    have hsum := sum_countP_values (·.ruleId) hnodup hrules
    refine ⟨?_, ?_, fun report hreport => ?_⟩
    · have hchecks := hsum fun _ => true
      simpa [getRuleAnalytics_eq, getOrgSummary_eq, analyticsOf, Function.comp_def,
        List.countP_eq_length_filter] using hchecks
    · have hblocked := hsum (!·.allowed)
      simpa [getRuleAnalytics_eq, getOrgSummary_eq, analyticsOf, Function.comp_def,
        List.countP_filter] using hblocked
    · obtain ⟨ruleId, -, rfl⟩ := List.mem_map.mp hreport
      rw [getRuleAnalytics_eq, getOrgSummary_eq]
      exact peak_mono (List.filter_subset_self _)
  peak := fun time htime => by
    obtain ⟨row, hrow, rfl⟩ := Option.map_eq_some_iff.mp htime
    have hmem := (order.perm _).mem_iff.mp (List.mem_of_head? hrow)
    obtain ⟨hmem, hpeak⟩ := List.mem_filter.mp hmem
    have hpeak := of_decide_eq_true hpeak
    refine ⟨row, hmem, rfl, ?_⟩
    show row.currentCount = (RateLimitAnalyticsService.peak _).getD 0
    rw [← hpeak]
    rfl
  violations := ⟨getViolationsCount_none, fun ruleId hruleId => by
    rw [getViolationsCount_some hruleId, getRuleAnalytics_eq]
    rfl⟩
  pages := fun ruleId limit offset => by
    simp only [getViolations, getViolationsCount, List.length_map, List.length_take,
      List.length_drop, (order.perm _).length_eq, List.countP_eq_length_filter]
    simp [truthy]
  users := fun keys limit hlimit hkeys => by
    rw [userRows_eq] at hkeys
    have hsum := sum_countP_column hkeys.toIsGrouping
    refine ⟨?_, ?_, ?_⟩
    · simp only [getTopUsersByUsage, List.length_map, List.take_of_length_le hlimit]
      exact length_column hkeys.toIsGrouping
    · have hchecks := hsum fun _ => true
      simpa [getTopUsersByUsage, List.take_of_length_le hlimit, userRows_eq, getOrgSummary_eq,
        analyticsOf, Function.comp_def, List.countP_eq_length_filter] using hchecks
    · have hblocked := hsum (!·.allowed)
      simpa [getTopUsersByUsage, List.take_of_length_le hlimit, userRows_eq, getOrgSummary_eq,
        analyticsOf, Function.comp_def, List.countP_filter] using hblocked
  topUsers := fun keys ruleId limit hkeys entry hentry userId huser hnot => by
    obtain ⟨shown, hshown, rfl⟩ := List.mem_map.mp hentry
    exact hkeys.length_le hshown huser hnot
  endpoints := fun keys limit hlimit hkeys => by
    rw [endpointRows_eq] at hkeys
    have hsum := sum_countP_column hkeys.toIsGrouping
    refine ⟨?_, ?_⟩
    · have hchecks := hsum fun _ => true
      simpa [getTopEndpointsByUsage, List.take_of_length_le hlimit, endpointRows_eq,
        getOrgSummary_eq, analyticsOf, Function.comp_def, List.countP_eq_length_filter] using
        hchecks
    · have hblocked := hsum (!·.allowed)
      simpa [getTopEndpointsByUsage, List.take_of_length_le hlimit, endpointRows_eq,
        getOrgSummary_eq, analyticsOf, Function.comp_def, List.countP_filter] using hblocked
  hours := fun hourOf keys hours hkeys => by
    have hrows : trendRows rows now orgId none hours =
        orgRows rows now orgId (some (now - hoursBack hours)) none := by
      rw [trendRows, orgRows]
      refine List.filter_congr fun row _ => ?_
      simp [window, hasRule, truthy]
    rw [getOrgSummary_eq, ← hrows]
    refine ⟨?_, ?_⟩
    · simpa [getHourlyTrend, Function.comp_def, analyticsOf] using sum_length_group hkeys
    · simpa [getHourlyTrend, Function.comp_def, analyticsOf] using
        sum_countP_group hkeys (!·.allowed)

end RateLimitAnalyticsService

end OpenLangGraph

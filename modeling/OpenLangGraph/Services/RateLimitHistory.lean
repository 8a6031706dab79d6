import OpenLangGraph.Core.RateLimitCheck
import OpenLangGraph.Services.RateLimitAnalytics

/-!
# What the reports on rate limits tell

The table `rate_limit_history` over a run: `check_rate_limit` records what it has answered, the
deletion of a rule empties the column `rule_id` of its rows, and `cleanup_old_history` deletes rows.

## Violations are rejections

A request over the limit is rejected only under a rule whose action is `REJECT`. Under the other
actions `check_rate_limit` sets `allowed` again before it records, and every report takes the
blocked checks for the violations. So `get_violations` knows three actions, but never returns two of
them, and an overrun that is throttled or logged is in no report (`violations_are_rejections`).

## Scope

A check that cannot be recorded is answered all the same: `record_check` raises, or its rule has
been deleted meanwhile. Rules are their ids. The table is empty at the start.

## Main definitions

* `RateLimitHistory.State`, `Label`, `step`
* `RateLimitHistory.Answer.row` — what is recorded of a check

## Main results

* `checkRateLimit_rejects` — what is rejected
* `violations_are_rejections` — the violations of a run
-/

namespace OpenLangGraph

open Transition PyString RateLimitEnforcer RateLimitAnalyticsService

namespace RateLimitHistory

/-- A check, as it was answered. -/
structure Answer where
  request : Request
  ipAddress : Option Str
  result : RateLimitCheckResult
  actionTaken : Option String
  /-- The time of the row, if there is one. -/
  recordedAt : Option ℤ

/-- The row that `record_check` adds. -/
def Answer.row (answer : Answer) : Option RateLimitHistoryRow := do
  let rule ← answer.result.matchedRule
  let timestamp ← answer.recordedAt
  return {
    orgId := answer.request.orgId
    ruleId := some rule.ruleId
    ruleName := some rule.ruleName
    timestamp
    userId := answer.request.userId
    apiKeyId := answer.request.apiKeyId
    endpoint := some answer.request.endpoint
    allowed := answer.result.allowed
    currentCount := answer.result.currentCount
    limitValue := rule.requestsPerWindow
    actionTaken := answer.actionTaken
    ipAddress := answer.ipAddress }

/-- The counters, the rules, the table and the answers so far. The last are a record. -/
structure State where
  counters : Counters
  rules : List Str
  rows : List RateLimitHistoryRow
  answers : List Answer

inductive Label
  /-- `check_rate_limit`, and when `record_check` runs, unless it raises -/
  | check (c : Circumstances) (matchedRule : Option RateLimitRuleMatch) (request : Request)
      (ipAddress : Option Str) (recordedAt : Option ℤ)
  | createRule (ruleId : Str)
  | deleteRule (ruleId : Str)
  | cleanupOldHistory (orgId : Str) (now : ℤ) (retentionDays : ℕ)

/-- Before the first check. -/
def State.initial (counters : Counters) (rules : List Str) : State := ⟨counters, rules, [], []⟩

/-- The answer to a check, which is recorded if its rule is still there. -/
def answerOf (rules : List Str) (counters : Counters) (c : Circumstances)
    (matchedRule : Option RateLimitRuleMatch) (request : Request) (ipAddress : Option Str)
    (recordedAt : Option ℤ) : Answer where
  request := request
  ipAddress := ipAddress
  result := (checkRateLimit c matchedRule request counters).result
  actionTaken := (checkRateLimit c matchedRule request counters).actionTaken
  recordedAt := recordedAt.filter fun _ => matchedRule.all fun rule => rule.ruleId ∈ rules

/-- `ON DELETE SET NULL` -/
def setNull (ruleId : Str) (row : RateLimitHistoryRow) : RateLimitHistoryRow :=
  if row.ruleId = some ruleId then { row with ruleId := none } else row

/-- `datetime.now(UTC) - timedelta(days=retention_days)` -/
def cutoff (now : ℤ) (retentionDays : ℕ) : ℤ := now - hoursBack (retentionDays * 24)

def step (s : State) : Label → Option State
  | .check c matchedRule request ipAddress recordedAt =>
    let answer := answerOf s.rules s.counters c matchedRule request ipAddress recordedAt
    some
      { s with
        counters := (checkRateLimit c matchedRule request s.counters).counters
        rows := s.rows ++ answer.row.toList
        answers := s.answers ++ [answer] }
  | .createRule ruleId => some { s with rules := s.rules ++ [ruleId] }
  | .deleteRule ruleId =>
    some
      { s with
        rules := s.rules.filter (· ≠ ruleId)
        rows := s.rows.map (setNull ruleId) }
  | .cleanupOldHistory orgId now retentionDays =>
    some
      { s with
        rows := s.rows.filter fun row =>
          !(decide (row.orgId = orgId) && decide (row.timestamp < cutoff now retentionDays)) }

/-! ### What is rejected -/

/-- A request is rejected under a rule that says so. -/
theorem checkRateLimit_rejects {c : Circumstances} {matchedRule : Option RateLimitRuleMatch}
    {request : Request} {counters : Counters}
    (h : (checkRateLimit c matchedRule request counters).result.allowed = false) :
    ∃ rule, (checkRateLimit c matchedRule request counters).result.matchedRule = some rule ∧
      rule.action = .reject ∧
      (checkRateLimit c matchedRule request counters).actionTaken = some "rejected" := by
  cases matchedRule with
  | none => cases h
  | some rule =>
    have hallowed : ((counters.check (mainSetting rule) c.main (redisKey rule request)).2.2 &&
        (checkBurst c rule (redisKey rule request)
          (counters.check (mainSetting rule) c.main (redisKey rule request)).1).2.1) = false ∧
        rule.action = .reject := by
      simpa [checkRateLimit] using h
    refine ⟨rule, rfl, hallowed.2, ?_⟩
    simp only [checkRateLimit, hallowed.1, hallowed.2, actionTaken]
    rfl

/-- The answer comes from a check. -/
def Answer.IsGenuine (answer : Answer) : Prop :=
  answer.result.allowed = false →
    ∃ rule, answer.result.matchedRule = some rule ∧ rule.action = .reject ∧
      answer.actionTaken = some "rejected"

/-! ### What the table keeps -/

/-- A row without its rule. -/
def unruled (row : RateLimitHistoryRow) : RateLimitHistoryRow := { row with ruleId := none }

/-- The cleanups keep the rows of the organization from this time on. -/
def Label.keeps (orgId : Str) (start : ℤ) : Label → Bool
  | .cleanupOldHistory orgId' now retentionDays =>
    decide (orgId' ≠ orgId) || decide (cutoff now retentionDays ≤ start)
  | .check _ _ _ _ _ | .createRule _ | .deleteRule _ => true

/-- A row that a report from this time on is about. -/
def isSince (orgId : Str) (start : ℤ) (row : RateLimitHistoryRow) : Bool :=
  decide (row.orgId = orgId) && decide (start ≤ row.timestamp)

/-- The rows are those of the answers, without the rules that have been deleted. -/
structure Reflects (s : State) : Prop where
  genuine : ∀ answer ∈ s.answers, answer.IsGenuine
  rows : ∀ row ∈ s.rows,
    ∃ answer ∈ s.answers, ∃ recorded ∈ answer.row, unruled recorded = unruled row

/-- None is missing from this time on. -/
def IsComplete (orgId : Str) (start : ℤ) (s : State) : Prop :=
  (s.rows.filter (isSince orgId start)).map unruled =
    ((s.answers.filterMap Answer.row).filter (isSince orgId start)).map unruled

@[simp] theorem unruled_setNull (ruleId : Str) (row : RateLimitHistoryRow) :
    unruled (setNull ruleId row) = unruled row := by
  rw [setNull]
  split <;> rfl

theorem isSince_setNull (orgId ruleId : Str) (start : ℤ) (row : RateLimitHistoryRow) :
    isSince orgId start (setNull ruleId row) = isSince orgId start row := by
  rw [setNull]
  split <;> rfl

variable {s s' t : State} {label : Label} {labels : List Label} {orgId : Str} {start : ℤ}

theorem reflects_step (hs : Reflects s) (h : step s label = some s') : Reflects s' := by
  cases label with
  | check c matchedRule request ipAddress recordedAt =>
    cases h
    refine ⟨fun answer hanswer => ?_, fun row hrow => ?_⟩
    · rcases List.mem_append.mp hanswer with hold | hnew
      · exact hs.genuine answer hold
      · obtain rfl := List.mem_singleton.mp hnew
        exact checkRateLimit_rejects
    · rcases List.mem_append.mp hrow with hold | hnew
      · obtain ⟨answer, hanswer, hrecorded⟩ := hs.rows row hold
        exact ⟨answer, List.mem_append_left _ hanswer, hrecorded⟩
      · exact ⟨_, List.mem_append_right _ (List.mem_singleton_self _), row,
          Option.mem_toList.mp hnew, rfl⟩
  | createRule ruleId =>
    cases h
    exact ⟨hs.genuine, hs.rows⟩
  | deleteRule ruleId =>
    cases h
    refine ⟨hs.genuine, fun row hrow => ?_⟩
    obtain ⟨old, hold, rfl⟩ := List.mem_map.mp hrow
    rw [unruled_setNull]
    exact hs.rows old hold
  | cleanupOldHistory orgId now retentionDays =>
    cases h
    exact ⟨hs.genuine, fun row hrow => hs.rows row (List.mem_of_mem_filter hrow)⟩

theorem isComplete_step (hs : IsComplete orgId start s) (hlabel : label.keeps orgId start = true)
    (h : step s label = some s') : IsComplete orgId start s' := by
  cases label with
  | check c matchedRule request ipAddress recordedAt =>
    cases h
    rw [IsComplete] at hs ⊢
    rw [List.filterMap_append, List.filter_append, List.filter_append, List.map_append,
      List.map_append, hs]
    refine congrArg _ ?_
    cases hrow : (answerOf s.rules s.counters c matchedRule request ipAddress recordedAt).row <;>
      simp [hrow]
  | createRule ruleId =>
    cases h
    exact hs
  | deleteRule ruleId =>
    cases h
    rw [IsComplete] at hs ⊢
    rw [← hs, List.filter_map, List.map_map]
    have hsame : isSince orgId start ∘ setNull ruleId = isSince orgId start := by
      funext row
      exact isSince_setNull orgId ruleId start row
    rw [hsame]
    exact List.map_congr_left fun row _ => unruled_setNull ruleId row
  | cleanupOldHistory orgId' now retentionDays =>
    cases h
    rw [IsComplete] at hs ⊢
    rw [← hs, List.filter_filter]
    refine congrArg _ (List.filter_congr fun row _ => ?_)
    rw [Label.keeps, Bool.or_eq_true, decide_eq_true_eq, decide_eq_true_eq] at hlabel
    cases hsince : isSince orgId start row with
    | false => rfl
    | true =>
      rw [isSince, Bool.and_eq_true, decide_eq_true_eq, decide_eq_true_eq] at hsince
      rw [Bool.true_and, Bool.not_eq_true', Bool.and_eq_false_iff, decide_eq_false_iff_not,
        decide_eq_false_iff_not]
      rcases hlabel with hother | hkept
      · exact .inl fun hsame => hother (hsame.symm.trans hsince.1)
      · exact .inr (by omega)

variable {counters : Counters} {rules : List Str}

theorem reflects_exec (h : exec step (State.initial counters rules) labels = some t) :
    Reflects t :=
  exec_invariant (fun _ _ _ hs _ hstep => reflects_step hs hstep)
    ⟨fun _ hanswer => (List.not_mem_nil hanswer).elim, fun _ hrow => (List.not_mem_nil hrow).elim⟩
    (along_true _ _) h

theorem isComplete_exec (h : exec step (State.initial counters rules) labels = some t)
    (hkept : ∀ label ∈ labels, label.keeps orgId start = true) : IsComplete orgId start t := by
  have hinit : IsComplete orgId start (State.initial counters rules) := rfl
  exact exec_invariant (P := fun _ label => label.keeps orgId start = true)
    (fun _ _ _ hs hlabel hstep => isComplete_step hs hlabel hstep) hinit
    (along_of_forall _ hkept) h

/-! ### What is counted and listed -/

/-- What can be counted without the rules, counted in the answers. -/
theorem IsComplete.countP_eq (hs : IsComplete orgId start s) {p : RateLimitHistoryRow → Bool}
    (hp : ∀ row, p (unruled row) = p row) :
    s.rows.countP (fun row => p row && isSince orgId start row) =
      s.answers.countP fun answer => answer.row.any fun row =>
        p row && isSince orgId start row := by
  have hcount : ∀ rows : List RateLimitHistoryRow,
      rows.countP (fun row => p row && isSince orgId start row) =
        ((rows.filter (isSince orgId start)).map unruled).countP p := fun rows => by
    rw [List.countP_map, List.countP_filter]
    simp only [Function.comp_apply, hp]
  rw [hcount, hs, ← hcount, List.countP_filterMap]
  refine List.countP_congr fun answer _ => ?_
  cases answer.row <;> rfl

/-- A recorded check that was blocked within these times. -/
def Answer.isRejection (orgId : Str) (times : ℤ × ℤ) (answer : Answer) : Bool :=
  decide (answer.request.orgId = orgId) && !answer.result.allowed &&
    answer.recordedAt.any fun time => decide (times.1 ≤ time) && decide (time ≤ times.2)

theorem Answer.IsGenuine.isRejection_iff {answer : Answer} (hanswer : answer.IsGenuine)
    (times : ℤ × ℤ) :
    (answer.row.any fun row => (decide (row.timestamp ≤ times.2) && !row.allowed) &&
      isSince orgId times.1 row) = answer.isRejection orgId times := by
  cases hallowed : answer.result.allowed with
  | true =>
    have hrow : ∀ row ∈ answer.row, row.allowed = true := fun row hrow => by
      obtain ⟨rule, -, hrow⟩ := Option.bind_eq_some_iff.mp hrow
      obtain ⟨time, -, hrow⟩ := Option.bind_eq_some_iff.mp hrow
      cases hrow
      exact hallowed
    cases hr : answer.row with
    | none => simp [Answer.isRejection, hallowed]
    | some row => simp [Answer.isRejection, hallowed, hrow row hr]
  | false =>
    obtain ⟨rule, hrule, -⟩ := hanswer hallowed
    cases htime : answer.recordedAt with
    | none => simp [Answer.row, Answer.isRejection, hrule, htime]
    | some time =>
      have hrow := show answer.row = some _ by
        rw [Answer.row, hrule, htime]
        rfl
      rw [hrow, Answer.isRejection, hallowed, htime]
      simp only [Option.any_some, isSince]
      cases decide (time ≤ times.2) <;> simp

/-- **The violations of a run are its rejections.** No cleanup having taken rows of the
organization from the window, its blocked checks are the requests that were rejected and recorded
within the window. And whatever `get_violations` returns was a rejection under a rule that rejects:
it never returns another action. -/
theorem violations_are_rejections (h : exec step (State.initial counters rules) labels = some t)
    (order : RowOrder) (now : ℤ) (period : String) (startTime endTime : Option ℤ)
    (hkept : ∀ label ∈ labels,
      label.keeps orgId (window now startTime endTime (periodDelta period)).1 = true) :
    (getOrgSummary t.rows now orgId order period startTime endTime).totalBlocked =
        t.answers.countP
          (·.isRejection orgId (window now startTime endTime (periodDelta period))) ∧
      ∀ (ruleId userId : Option Str) (limit offset : ℕ), ∀ violation ∈
          getViolations t.rows now orgId order ruleId userId startTime endTime limit offset,
        violation.actionTaken = .reject ∧
          ∃ answer ∈ t.answers, answer.request.orgId = orgId ∧ answer.result.allowed = false ∧
            answer.recordedAt = some violation.timestamp ∧
            answer.request.userId = violation.userId ∧
            answer.result.currentCount = violation.currentCount ∧
            ∃ rule, answer.result.matchedRule = some rule ∧ rule.action = .reject ∧
              rule.requestsPerWindow = violation.limit := by
  have hs := reflects_exec h
  refine ⟨?_, fun ruleId userId limit offset violation hviolation => ?_⟩
  · have hcount := (isComplete_exec h hkept).countP_eq
      (p := fun row => decide (row.timestamp ≤ (window now startTime endTime
        (periodDelta period)).2) && !row.allowed) fun _ => rfl
    refine Eq.trans ?_ (hcount.trans (List.countP_congr fun answer hanswer => by
      rw [(hs.genuine answer hanswer).isRejection_iff]))
    show (t.rows.filter _).countP _ = _
    rw [List.countP_filter]
    refine List.countP_congr fun row _ => ?_
    simp [isWithin, isSince, and_assoc, and_comm, and_left_comm]
  · obtain ⟨row, hrow, rfl⟩ := List.mem_map.mp hviolation
    have hmem := (order.perm _).mem_iff.mp (List.mem_of_mem_drop (List.mem_of_mem_take hrow))
    obtain ⟨hmem, hselected⟩ := List.mem_filter.mp hmem
    simp only [isViolation, isWithin, Bool.and_eq_true, decide_eq_true_eq,
      Bool.not_eq_true'] at hselected
    obtain ⟨⟨⟨⟨⟨horg, -⟩, -⟩, hblocked⟩, -⟩, -⟩ := hselected
    obtain ⟨answer, hanswer, recorded, hrecorded, hsame⟩ := hs.rows row hmem
    obtain ⟨rule, hrule, hrecorded⟩ := Option.bind_eq_some_iff.mp hrecorded
    obtain ⟨time, htime, hrecorded⟩ := Option.bind_eq_some_iff.mp hrecorded
    obtain rfl := Option.some.inj hrecorded
    obtain ⟨horg', htimestamp, huser, hallowed, hcurrent, hlimit, haction⟩ :
        answer.request.orgId = row.orgId ∧ time = row.timestamp ∧
          answer.request.userId = row.userId ∧ answer.result.allowed = row.allowed ∧
          answer.result.currentCount = row.currentCount ∧
          rule.requestsPerWindow = row.limitValue ∧ answer.actionTaken = row.actionTaken :=
      ⟨congrArg (·.orgId) hsame, congrArg (·.timestamp) hsame, congrArg (·.userId) hsame,
        congrArg (·.allowed) hsame, congrArg (·.currentCount) hsame,
        congrArg (·.limitValue) hsame, congrArg (·.actionTaken) hsame⟩
    have hrejected : answer.result.allowed = false := hallowed.trans hblocked
    obtain ⟨rule', hrule', hreject, htaken⟩ := hs.genuine answer hanswer hrejected
    obtain rfl := Option.some.inj (hrule'.symm.trans hrule)
    refine ⟨?_, answer, hanswer, horg'.trans horg, hrejected,
      htime.trans (congrArg some htimestamp), huser, hcurrent, rule', hrule', hreject, hlimit⟩
    simp [toViolation, ← haction, htaken]

/-- Two requests at once, of which the second is rejected, and the deletion of the rule. -/
def rejectedSecond : List Label :=
  [.check (atOnce 1000 "a".toList) (some hourlyRule) aRequest none (some 1000000),
    .check (atOnce 1001 "b".toList) (some hourlyRule) aRequest none (some 1001000),
    .deleteRule "r".toList, .cleanupOldHistory "o".toList 2000000 1]

theorem violations_are_rejections_second :
    (getOrgSummary ((exec step (State.initial .empty ["r".toList]) rejectedSecond).get rfl).rows
        2000000 "o".toList ⟨id, fun _ => .refl _⟩ "hour" none none).totalBlocked =
      ((exec step (State.initial .empty ["r".toList]) rejectedSecond).get rfl).answers.countP
        (·.isRejection "o".toList (window 2000000 none none (periodDelta "hour"))) := by
  refine (violations_are_rejections (Option.some_get _).symm ⟨id, fun _ => .refl _⟩ 2000000 "hour"
    none none ?_).1
  decide

end RateLimitHistory

end OpenLangGraph

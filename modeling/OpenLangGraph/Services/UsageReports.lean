import Mathlib.Data.List.Induction
import OpenLangGraph.Services.QuotaService

/-!
# Usage as it is charged, and as it is reported

The requests that `RateLimitMiddleware` puts to the limiter, and the report that
`get_org_usage_stats` of `services/quota_service.py` makes of them.

## Two sets of counters

The limiter counts the requests of an organization under the type of their endpoint. The report
reads counters that `increment_usage` writes, which nothing calls. So it reports that nothing has
been used, and what it says of the next request it would say of the first.

## What counts as what

Streams and runs are reported as such, and all other requests as requests. These are of two types,
which the limiter counts, and limits, apart.

## Scope

The limiter uses Redis, and no command fails. The limits of an organization can be others for every
request.

## Main definitions

* `Request`, `serve`, `run` — the requests, with the middleware
* `chargedTo`, `countedFor` — what is charged
* `ReportsCharged` — what is asked of a report
* `startsAlike`

## Main results

* `charged_rateLimit` — what the middleware charges
* `counter_run`, `verdict_run` — the counters of the limiter in a window, and what it says
* `reports_charged_iff` — which requests are reported as they are charged
-/

namespace OpenLangGraph

namespace UsageReports

open PyString RateLimitMiddleware QuotaService RedisLimiter

/-! ### Requests -/

/-- A request, with the limits of the organizations as `get_org_limits` returns them then. -/
structure Request where
  scope : Scope
  now : ℕ
  orgLimits : Str → Option RateLimitMiddleware.OrgRateLimits

/-- The clock has so many ticks a second. -/
structure Setting (ε : Type) where
  second : ℕ
  unicode : UnicodeDb
  config : Config
  /-- what is behind the middleware -/
  endpoints : Scope → Except (RateLimitMiddleware.Failure ε) RateLimitMiddleware.Response

/-- `RATE_LIMIT_WINDOW` -/
def rateLimitWindow : ℕ := 3600

variable {ε : Type} (setting : Setting ε) (redis : Redis.Db Str ℕ) (request : Request)
  (requests : List Request)

/-- The services of the middleware. -/
def environment : Environment where
  unicode := setting.unicode
  config := setting.config
  isAvailable := true
  orgLimits := request.orgLimits
  checkLimit key limit :=
    let answer := (checkLimit setting.second redis key limit rateLimitWindow request.now).2
    (answer.allowed, answer.remaining, answer.resetAt)
  now := request.now / setting.second

/-- What becomes of a request. -/
def outcome : RateLimitMiddleware.Outcome ε :=
  rateLimit (environment setting redis request)
    (fun scope => ⟨[], setting.endpoints scope⟩) request.scope

/-- What a check leaves in Redis, whatever the limit is. -/
def charge (now : ℕ) (redis : Redis.Db Str ℕ) (key : Str) : Redis.Db Str ℕ :=
  Redis.store redis (counterKey key rateLimitWindow)
    (incrWithExpire now (rateLimitWindow * setting.second)
      (Redis.find redis (counterKey key rateLimitWindow)))

/-- Redis after a request. -/
def serve : Redis.Db Str ℕ :=
  (outcome setting redis request).charged.foldl (charge setting request.now) redis

/-- Redis after the requests, from an empty server on. -/
def run : Redis.Db Str ℕ := requests.foldl (serve setting) []

/-! ### What is charged -/

/-- The path of a request and its method. -/
def endpointType : EndpointType :=
  getEndpointType (request.scope.path.getD "/".toList) (request.scope.method.getD "GET".toList)

/-- The limiter is asked about the request. -/
def isLimited : Bool :=
  !(request.scope.type ≠ .http || shouldSkip (request.scope.path.getD "/".toList) ||
    !setting.config.enabled)

/-- The base key of the counter of a request. -/
def baseKey? : Option Str :=
  if isLimited setting request then getOrgRateLimitKey setting.unicode request.scope else none

def orgKey (orgId : Str) : Str := "org:".toList ++ orgId

/-- The type under which a request is charged to an organization. -/
def chargedTo (orgId : Str) : Option EndpointType :=
  if baseKey? setting request = some (orgKey orgId) then some (endpointType request) else none

end UsageReports

namespace RateLimitMiddleware

open PyString

/-- What an endpoint is reported as. -/
def EndpointType.resource : EndpointType → Str
  | .streaming => "streaming".toList
  | .runs => "runs".toList
  | .write | .read => "requests".toList

/-- The key of a counter. -/
def EndpointType.key (endpointType : EndpointType) (baseKey : Str) : Str :=
  endpointType.value ++ ":".toList ++ baseKey

end RateLimitMiddleware

namespace UsageReports

open PyString RateLimitMiddleware QuotaService RedisLimiter

variable {ε : Type} (setting : Setting ε) (redis : Redis.Db Str ℕ) (requests : List Request)
  (orgId : Str)

/-- How many requests of a type the limiter has counted against an organization. -/
def counted (endpointType : EndpointType) : ℕ :=
  requests.countP fun request => chargedTo setting request orgId = some endpointType

/-- How many requests that are reported as a resource it has counted. -/
def countedFor (resource : Str) : ℕ :=
  requests.countP fun request =>
    (chargedTo setting request orgId).any fun endpointType => endpointType.resource = resource

/-- The limiter lets the next request of this type pass. -/
def verdict (limits : Option RateLimitMiddleware.OrgRateLimits) (endpointType : EndpointType)
    (now : ℕ) : Bool :=
  !setting.config.enabled ||
    (checkLimit setting.second redis (endpointType.key (orgKey orgId))
      (getLimitForEndpoint setting.config (orgKey orgId) endpointType limits) rateLimitWindow
      now).2.allowed

/-- **What is charged is reported**: the report has the number of the requests that are charged, and
says of the next one what the limiter says. -/
def ReportsCharged (limits : Option RateLimitMiddleware.OrgRateLimits) (now : ℕ) : Prop :=
  ∃ stats,
    (Counters.mk setting.second (run setting requests)).getOrgUsageStats orgId now limits =
      some stats ∧
    ∀ result ∈ [stats.requests, stats.runs, stats.streaming],
      result.currentUsage = countedFor setting requests orgId result.resource ∧
        ∀ endpointType : EndpointType, endpointType.resource = result.resource →
          result.allowed =
            verdict setting (run setting requests) orgId limits endpointType now

/-- Without any request, the report and the limiter say the same of the next one. -/
def startsAlike (limits : RateLimitMiddleware.OrgRateLimits) (endpointType : EndpointType) : Bool :=
  (!limits.enabled || 0 < getLimitForResource limits endpointType.resource) =
    (!setting.config.enabled ||
      1 ≤ getLimitForEndpoint setting.config (orgKey orgId) endpointType (some limits))

variable {setting redis requests orgId} {request : Request} {now : ℕ}

/-! ### Keys -/

theorem notMem_value (endpointType : EndpointType) : ':' ∉ endpointType.value := by
  cases endpointType <;> decide

theorem value_injective {t u : EndpointType} (h : t.value = u.value) : t = u := by
  revert h
  cases t <;> cases u <;> decide

/-- A counter is of one type and of one base key. -/
theorem key_injective {t u : EndpointType} {a b : Str} (h : t.key a = u.key b) : t = u ∧ a = b := by
  have htake : ∀ (t : EndpointType) (a : Str),
      (t.value ++ ":".toList ++ a).takeWhile (· ≠ ':') = t.value := by
    intro t a
    have hall : ∀ c ∈ t.value, decide (c ≠ ':') = true := by
      intro c hc
      refine decide_eq_true ?_
      rintro rfl
      exact notMem_value t hc
    rw [List.append_assoc, List.takeWhile_append_of_pos hall]
    simp
  have hvalue : t.value = u.value := by
    rw [← htake t a, ← htake u b]
    exact congrArg (List.takeWhile (· ≠ ':')) h
  obtain rfl := value_injective hvalue
  exact ⟨rfl, List.append_cancel_left h⟩

/-! ### What the middleware charges -/

theorem charged_of_available {env : Environment} {app : App ε} {scope : Scope}
    (havailable : env.isAvailable = true) (happ : (app scope).charged = []) :
    (rateLimit env app scope).charged =
      if scope.type ≠ .http || shouldSkip (scope.path.getD "/".toList) || !env.config.enabled
        then []
      else ((getOrgRateLimitKey env.unicode scope).map (getEndpointType
        (scope.path.getD "/".toList) (scope.method.getD "GET".toList)).key).toList := by
  rw [rateLimit, havailable]
  dsimp only
  split
  · exact happ
  · rw [Bool.not_true, if_neg Bool.false_ne_true]
    cases getOrgRateLimitKey env.unicode scope with
    | none => rfl
    | some baseKey =>
      dsimp only
      split
      · rw [withHeaders, happ]
        rfl
      · rfl

/-- **What the middleware charges**: the counter of the request, if there is one. -/
theorem charged_rateLimit (setting : Setting ε) (redis : Redis.Db Str ℕ) (request : Request) :
    (outcome setting redis request).charged =
      ((baseKey? setting request).map (endpointType request).key).toList := by
  refine (charged_of_available rfl rfl).trans ?_
  rw [baseKey?, isLimited]
  cases hskip : request.scope.type ≠ .http ||
      shouldSkip (request.scope.path.getD "/".toList) || !setting.config.enabled with
  | true => exact if_pos hskip
  | false => exact if_neg (Bool.eq_false_iff.mp hskip)

theorem serve_eq (setting : Setting ε) (redis : Redis.Db Str ℕ) (request : Request) :
    serve setting redis request = match baseKey? setting request with
      | none => redis
      | some baseKey => charge setting request.now redis ((endpointType request).key baseKey) := by
  rw [serve, charged_rateLimit]
  cases baseKey? setting request <;> rfl

theorem chargedTo_eq_some_iff {t : EndpointType} :
    chargedTo setting request orgId = some t ↔
      baseKey? setting request = some (orgKey orgId) ∧ endpointType request = t := by
  rw [chargedTo, Option.ite_none_right_eq_some, Option.some.injEq]

/-- **A request** leaves alone the counters that are not its own. -/
theorem find_serve_of_ne {t : EndpointType} (h : chargedTo setting request orgId ≠ some t) :
    Redis.find (serve setting redis request) (counterKey (t.key (orgKey orgId)) rateLimitWindow) =
      Redis.find redis (counterKey (t.key (orgKey orgId)) rateLimitWindow) := by
  rw [serve_eq]
  cases hbase : baseKey? setting request with
  | none => rfl
  | some baseKey =>
    dsimp only
    rw [charge, Redis.find_store, if_neg]
    intro heq
    obtain ⟨htype, rfl⟩ := key_injective (counterKey_injective heq).1
    exact h (chargedTo_eq_some_iff.mpr ⟨hbase, htype.symm⟩)

/-- A request that is charged. -/
theorem find_serve_of_eq {t : EndpointType} (h : chargedTo setting request orgId = some t) :
    Redis.find (serve setting redis request) (counterKey (t.key (orgKey orgId)) rateLimitWindow) =
      some (incrWithExpire request.now (rateLimitWindow * setting.second)
        (Redis.find redis (counterKey (t.key (orgKey orgId)) rateLimitWindow))) := by
  obtain ⟨hbase, rfl⟩ := chargedTo_eq_some_iff.mp h
  rw [serve_eq, hbase]
  dsimp only
  rw [charge, Redis.find_store, if_pos rfl]

/-- The usage counters are not the limiter's. -/
theorem find_serve_usage (resource : Str) :
    Redis.find (serve setting redis request) (usageCacheKey orgId resource) =
      Redis.find redis (usageCacheKey orgId resource) := by
  rw [serve_eq]
  cases baseKey? setting request with
  | none => rfl
  | some baseKey =>
    dsimp only
    rw [charge, Redis.find_store, if_neg (usageCacheKey_ne _ _ _ _)]

/-! ### Runs -/

theorem run_append (requests : List Request) (request : Request) :
    run setting (requests ++ [request]) = serve setting (run setting requests) request :=
  List.foldl_concat _ _ _ _

/-- **Nobody writes the usage counters.** -/
theorem find_run_usage (requests : List Request) (resource : Str) :
    Redis.find (run setting requests) (usageCacheKey orgId resource) = none := by
  induction requests using List.reverseRecOn with
  | nil => rfl
  | append_singleton requests request ih => rw [run_append, find_serve_usage, ih]

/-- The requests come one after the other in one window. -/
structure InWindow (second start finish : ℕ) (requests : List Request) : Prop where
  from_start : ∀ request ∈ requests, start ≤ request.now
  in_order : requests.Pairwise fun a b => a.now ≤ b.now
  before_finish : ∀ request ∈ requests, request.now ≤ finish
  in_window : finish < start + rateLimitWindow * second

theorem InWindow.init {second start finish : ℕ} (h : InWindow second start finish
    (requests ++ [request])) : InWindow second start finish requests where
  from_start r hr := h.from_start r (List.mem_append_left _ hr)
  in_order := (List.pairwise_append.mp h.in_order).1
  before_finish r hr := h.before_finish r (List.mem_append_left _ hr)
  in_window := h.in_window

theorem counted_append (requests : List Request) (request : Request) (t : EndpointType) :
    counted setting (requests ++ [request]) orgId t = counted setting requests orgId t +
      if chargedTo setting request orgId = some t then 1 else 0 := by
  rw [counted, counted, List.countP_append, List.countP_singleton]
  simp only [decide_eq_true_eq]

/-- **In a window**, the counter of a type has the number of the requests that are charged, and it
lasts to the end. -/
theorem counter_run {start finish : ℕ} (t : EndpointType)
    (h : InWindow setting.second start finish requests) :
    match Redis.find (run setting requests) (counterKey (t.key (orgKey orgId)) rateLimitWindow) with
    | none => counted setting requests orgId t = 0
    | some r => r.value = counted setting requests orgId t ∧ 1 ≤ r.value ∧
        ∃ x, r.expiresAt = some x ∧ start + rateLimitWindow * setting.second ≤ x := by
  induction requests using List.reverseRecOn with
  | nil => rfl
  | append_singleton requests request ih =>
    have hold := ih h.init
    rw [run_append, counted_append]
    by_cases hcharged : chargedTo setting request orgId = some t
    · rw [find_serve_of_eq hcharged, if_pos hcharged]
      have hstart : start ≤ request.now := h.from_start request (by simp)
      have hfinish : request.now ≤ finish := h.before_finish request (by simp)
      have hwindow := h.in_window
      cases hfind : Redis.find (run setting requests)
          (counterKey (t.key (orgKey orgId)) rateLimitWindow) with
      | none =>
        rw [hfind] at hold
        rw [incrWithExpire, Redis.incr_of_not_live rfl]
        refine ⟨?_, Nat.le_refl 1, _, rfl, Nat.add_le_add_right hstart _⟩
        rw [hold]
        rfl
      | some r =>
        rw [hfind] at hold
        obtain ⟨hvalue, hpos, x, hx, hle⟩ := hold
        have hlive : Redis.live request.now (some r) = some r := by
          refine Redis.live_of_forall fun y hy => ?_
          obtain rfl := Option.some.inj (hx.symm.trans hy)
          omega
        have hne : ¬ r.value + 1 = 1 := by omega
        rw [incrWithExpire, Redis.incr_of_live hlive]
        dsimp only
        rw [if_neg hne]
        exact ⟨congrArg (· + 1) hvalue, Nat.le_add_left 1 _, x, hx, hle⟩
    · rw [find_serve_of_ne hcharged, if_neg hcharged, Nat.add_zero]
      exact hold

/-- What the limiter says of the next request in a window. -/
theorem verdict_run {start finish : ℕ} (h : InWindow setting.second start finish requests)
    (limits : Option RateLimitMiddleware.OrgRateLimits) (t : EndpointType) :
    verdict setting (run setting requests) orgId limits t finish = (!setting.config.enabled ||
      ((counted setting requests orgId t + 1 : ℕ) : ℤ) ≤
        getLimitForEndpoint setting.config (orgKey orgId) t limits) := by
  have hcounter := @counter_run _ setting requests orgId _ _ t h
  have hwindow := h.in_window
  rw [verdict]
  cases hfind : Redis.find (run setting requests)
      (counterKey (t.key (orgKey orgId)) rateLimitWindow) with
  | none =>
    rw [hfind] at hcounter
    have hlive : Redis.live finish (Redis.find (run setting requests)
        (counterKey (t.key (orgKey orgId)) rateLimitWindow)) = none := by
      rw [hfind]
      rfl
    rw [checkLimit_of_not_live hlive, hcounter]
    rfl
  | some r =>
    rw [hfind] at hcounter
    obtain ⟨hvalue, hpos, x, hx, hle⟩ := hcounter
    have hlive : Redis.live finish (Redis.find (run setting requests)
        (counterKey (t.key (orgKey orgId)) rateLimitWindow)) = some r := by
      rw [hfind]
      refine Redis.live_of_forall fun y hy => ?_
      obtain rfl := Option.some.inj (hx.symm.trans hy)
      omega
    rw [checkLimit_of_live hpos hlive, hvalue]
    rfl

/-! ### Reports -/

/-- What is reported. -/
def resources : List Str := ["requests", "runs", "streaming"].map String.toList

theorem resource_mem (t : EndpointType) : t.resource ∈ resources := by
  cases t <;> decide

/-- A report says what it says without any request. -/
theorem reportsCharged_some {limits : RateLimitMiddleware.OrgRateLimits} :
    ReportsCharged setting requests orgId (some limits) now ↔ ∀ resource ∈ resources,
      countedFor setting requests orgId resource = 0 ∧
        ∀ t : EndpointType, t.resource = resource →
          (!limits.enabled || 0 < getLimitForResource limits resource) =
            verdict setting (run setting requests) orgId (some limits) t now := by
  have hcheck : ∀ resource : Str,
      (((Counters.mk setting.second (run setting requests)).checkOrgQuota orgId resource now
          limits).currentUsage = countedFor setting requests orgId
            ((Counters.mk setting.second (run setting requests)).checkOrgQuota orgId resource now
              limits).resource ∧
        ∀ t : EndpointType, t.resource =
            ((Counters.mk setting.second (run setting requests)).checkOrgQuota orgId resource now
              limits).resource →
          ((Counters.mk setting.second (run setting requests)).checkOrgQuota orgId resource now
            limits).allowed = verdict setting (run setting requests) orgId (some limits) t now) ↔
      (countedFor setting requests orgId resource = 0 ∧ ∀ t : EndpointType, t.resource = resource →
        (!limits.enabled || 0 < getLimitForResource limits resource) =
          verdict setting (run setting requests) orgId (some limits) t now) := by
    intro resource
    obtain ⟨husage, hallowed⟩ := @checkOrgQuota_of_none
      (Counters.mk setting.second (run setting requests)) orgId resource now limits
      (find_run_usage requests resource)
    rw [husage, hallowed, checkOrgQuota_resource, eq_comm]
  constructor
  · rintro ⟨stats, hstats, hall⟩ resource hresource
    obtain rfl := Option.some.inj hstats
    rw [← hcheck]
    refine hall _ ?_
    simp only [resources, List.map_cons, List.map_nil, List.mem_cons, List.not_mem_nil,
      or_false] at hresource
    rcases hresource with rfl | rfl | rfl
    · exact List.mem_cons_self
    · exact List.mem_cons_of_mem _ List.mem_cons_self
    · exact List.mem_cons_of_mem _ (List.mem_cons_of_mem _ List.mem_cons_self)
  · intro hall
    refine ⟨_, rfl, fun result hresult => ?_⟩
    simp only [List.mem_cons, List.not_mem_nil, or_false] at hresult
    rcases hresult with rfl | rfl | rfl
    · exact (hcheck _).mpr (hall _ (by decide))
    · exact (hcheck _).mpr (hall _ (by decide))
    · exact (hcheck _).mpr (hall _ (by decide))

theorem countedFor_eq_zero_iff :
    (∀ resource ∈ resources, countedFor setting requests orgId resource = 0) ↔
      ∀ request ∈ requests, chargedTo setting request orgId = none := by
  constructor
  · intro h request hmem
    by_contra hne
    obtain ⟨t, ht⟩ := Option.ne_none_iff_exists'.mp hne
    have hnot := List.countP_eq_zero.mp (h t.resource (resource_mem t)) request hmem
    rw [ht] at hnot
    exact hnot (decide_eq_true rfl)
  · intro h resource _
    refine List.countP_eq_zero.mpr fun request hmem => ?_
    rw [h request hmem]
    exact Bool.false_ne_true

/-- Without a charged request, there is no counter. -/
theorem find_run_of_uncharged (h : ∀ request ∈ requests, chargedTo setting request orgId = none)
    (t : EndpointType) :
    Redis.find (run setting requests) (counterKey (t.key (orgKey orgId)) rateLimitWindow) =
      none := by
  induction requests using List.reverseRecOn with
  | nil => rfl
  | append_singleton requests request ih =>
    have hlast : chargedTo setting request orgId = none := h request (by simp)
    rw [run_append, find_serve_of_ne (hlast.trans_ne (Option.some_ne_none t).symm)]
    exact ih fun r hr => h r (List.mem_append_left _ hr)

theorem verdict_of_uncharged (h : ∀ request ∈ requests, chargedTo setting request orgId = none)
    (limits : RateLimitMiddleware.OrgRateLimits) (t : EndpointType) :
    verdict setting (run setting requests) orgId (some limits) t now =
      (!setting.config.enabled ||
        1 ≤ getLimitForEndpoint setting.config (orgKey orgId) t (some limits)) := by
  have hlive : Redis.live now (Redis.find (run setting requests)
      (counterKey (t.key (orgKey orgId)) rateLimitWindow)) = none := by
    rw [find_run_of_uncharged h t]
    rfl
  rw [verdict, checkLimit_of_not_live hlive]
  rfl

/-- **What is charged is reported** exactly if nothing is charged, the limits can be read, and the
report and the limiter say the same of a first request. -/
theorem reports_charged_iff (setting : Setting ε) (requests : List Request) (orgId : Str)
    (limits : Option RateLimitMiddleware.OrgRateLimits) (now : ℕ) :
    ReportsCharged setting requests orgId limits now ↔
      (∀ request ∈ requests, chargedTo setting request orgId = none) ∧
        ∃ l, limits = some l ∧ ∀ t, startsAlike setting orgId l t = true := by
  cases limits with
  | none =>
    refine iff_of_false ?_ ?_
    · rintro ⟨stats, hstats, -⟩
      cases hstats
    · rintro ⟨-, l, hl, -⟩
      cases hl
  | some l =>
    rw [reportsCharged_some, forall₂_and, countedFor_eq_zero_iff]
    refine and_congr_right fun huncharged => ?_
    constructor
    · intro h
      refine ⟨l, rfl, fun t => ?_⟩
      have hverdict := h t.resource (resource_mem t) t rfl
      rw [verdict_of_uncharged huncharged] at hverdict
      exact decide_eq_true hverdict
    · rintro ⟨l', hl', h⟩ resource - t rfl
      obtain rfl := Option.some.inj hl'
      rw [verdict_of_uncharged huncharged]
      exact of_decide_eq_true (h t)

/-- A server with the default limits. -/
def plainSetting : Setting Unit :=
  ⟨1, .ascii, ⟨true, true, 5000, 100, 500⟩, fun _ => .ok ⟨200, []⟩⟩

/-- A member of an organization starts a run. -/
def startsRun : Request where
  scope := ⟨.http, some "/runs".toList, some "POST".toList, [], none,
    some (.authenticated ⟨"alice".toList, true, some "o".toList⟩)⟩
  now := 100
  orgLimits _ := some ⟨10000, 1000, 200, true⟩

/-- **A run that is not reported.** -/
theorem run_not_reported :
    ¬ ReportsCharged plainSetting [startsRun] "o".toList (some ⟨10000, 1000, 200, true⟩) 200 := by
  rw [reportsCharged_some]
  intro h
  have hruns : countedFor plainSetting [startsRun] "o".toList "runs".toList = 0 :=
    (h "runs".toList (by decide)).1
  revert hruns
  decide

end UsageReports

end OpenLangGraph

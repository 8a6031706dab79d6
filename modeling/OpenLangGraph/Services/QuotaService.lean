import OpenLangGraph.Core.RedisLimiter
import OpenLangGraph.Middleware.RateLimit

/-!
# The usage of an organization

The part of `services/quota_service.py` that counts the usage of an organization in Redis, and
reports it. The limits of the organization are what `get_org_limits` returns; it raises where none
are cached, for want of a session.

## Main definitions

* `usageCacheKey`, `getWindowForResource`, `getLimitForResource`
* `getUsage`, `checkOrgQuota`, `getOrgUsageStats`

## Main results

* `usageCacheKey_ne` — no counter of the limiter is one of the usage
* `checkOrgQuota_of_none` — a report without a counter
-/

namespace OpenLangGraph

namespace QuotaService

open PyString RateLimitMiddleware

/-- `RATE_LIMIT_WINDOW_HOUR` -/
def rateLimitWindowHour : ℕ := 3600

/-- `_get_window_for_resource`: the same for every resource. -/
def getWindowForResource (_resource : Str) : ℕ := rateLimitWindowHour

/-- `_usage_cache_key` -/
def usageCacheKey (orgId resource : Str) : Str :=
  "rate_usage:org:".toList ++ orgId ++ ":".toList ++ resource ++ ":".toList ++
    decimalRepr (getWindowForResource resource)

/-- `_get_limit_for_resource` -/
def getLimitForResource (limits : RateLimitMiddleware.OrgRateLimits) (resource : Str) : ℕ :=
  if resource = "requests".toList then limits.requestsPerHour
  else if resource = "runs".toList then limits.runsPerHour
  else if resource = "streaming".toList then limits.streamingPerHour
  else limits.requestsPerHour

/-- The usage counters, on a clock with so many ticks a second. -/
structure Counters where
  second : ℕ
  redis : Redis.Db Str ℕ

/-- `QuotaCheckResult` -/
structure QuotaCheckResult where
  allowed : Bool
  currentUsage : ℕ
  limit : ℕ
  remaining : ℕ
  resetAt : Option ℕ
  resource : Str

/-- `OrgUsageStats` -/
structure OrgUsageStats where
  orgId : Str
  period : Str
  requests : QuotaCheckResult
  runs : QuotaCheckResult
  streaming : QuotaCheckResult
  resetAt : ℕ

namespace Counters

variable (counters : Counters) (orgId resource : Str) (now : ℕ)

/-- What Redis has of a resource. -/
def counter : Option (Redis.Entry ℕ) :=
  Redis.live now (Redis.find counters.redis (usageCacheKey orgId resource))

/-- `get_usage` -/
def getUsage : ℕ :=
  match counters.counter orgId resource now with
  | some r => r.value
  | none => 0

/-- `_get_reset_time`: `TTL` rounds to seconds. -/
def getResetTime : Option ℕ :=
  ((counters.counter orgId resource now).bind Redis.Entry.expiresAt).bind fun x =>
    let ttl := (x - now + counters.second / 2) / counters.second
    if 0 < ttl then some (now + ttl * counters.second) else none

/-- `check_org_quota`, once the limits are there. -/
def checkOrgQuota (limits : RateLimitMiddleware.OrgRateLimits) : QuotaCheckResult :=
  if !limits.enabled then ⟨true, 0, 0, 0, none, resource⟩
  else
    let limit := getLimitForResource limits resource
    let currentUsage := counters.getUsage orgId resource now
    { allowed := currentUsage < limit
      currentUsage
      limit
      remaining := limit - currentUsage
      resetAt := counters.getResetTime orgId resource now
      resource }

/-- `get_org_usage_stats`: it raises if the limits cannot be read. -/
def getOrgUsageStats (limits : Option RateLimitMiddleware.OrgRateLimits) : Option OrgUsageStats :=
  limits.map fun limits =>
    let requests := counters.checkOrgQuota orgId "requests".toList now limits
    let runs := counters.checkOrgQuota orgId "runs".toList now limits
    let streaming := counters.checkOrgQuota orgId "streaming".toList now limits
    let resetTimes := [requests, runs, streaming].filterMap QuotaCheckResult.resetAt
    { orgId
      period := "hour".toList
      requests
      runs
      streaming
      resetAt := resetTimes.min?.getD now }

end Counters

variable {counters : Counters} {orgId resource : Str} {now : ℕ}

/-- **The limiter counts elsewhere.** -/
theorem usageCacheKey_ne (orgId resource key : Str) (window : ℕ) :
    usageCacheKey orgId resource ≠ RedisLimiter.counterKey key window := by
  intro h
  have htake := congrArg (List.take 6) h
  have husage : (usageCacheKey orgId resource).take 6 = "rate_u".toList := rfl
  have hlimit : (RedisLimiter.counterKey key window).take 6 = "rate_l".toList := rfl
  rw [husage, hlimit] at htake
  revert htake
  decide

theorem checkOrgQuota_resource (limits : RateLimitMiddleware.OrgRateLimits) :
    (counters.checkOrgQuota orgId resource now limits).resource = resource := by
  rw [Counters.checkOrgQuota]
  split <;> rfl

/-- **Without a counter** nothing is reported, and the limit decides. -/
theorem checkOrgQuota_of_none (limits : RateLimitMiddleware.OrgRateLimits)
    (h : Redis.find counters.redis (usageCacheKey orgId resource) = none) :
    (counters.checkOrgQuota orgId resource now limits).currentUsage = 0 ∧
      (counters.checkOrgQuota orgId resource now limits).allowed =
        (!limits.enabled || 0 < getLimitForResource limits resource) := by
  have husage : counters.getUsage orgId resource now = 0 := by
    rw [Counters.getUsage, Counters.counter, h]
    rfl
  rw [Counters.checkOrgQuota]
  dsimp only
  rw [husage]
  cases limits.enabled
  · exact ⟨rfl, rfl⟩
  · exact ⟨rfl, rfl⟩

end QuotaService

end OpenLangGraph

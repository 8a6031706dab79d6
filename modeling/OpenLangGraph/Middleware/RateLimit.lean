import OpenLangGraph.Foundation.PyString

/-!
# The rate limit middleware

`RateLimitMiddleware` of `middleware/rate_limit.py`, and the functions of `core/rate_limiter.py`
that name the counter of a request.

## Who is charged

The key of the counter comes from `request.user`, which is what `AuthenticationMiddleware` has put
into the scope. Without it, `request.user` raises an `AssertionError`, and the default of
`getattr(request, "user", None)` is for an `AttributeError` only.

## Scope

An application is what becomes of a request: the counters of this middleware that are incremented,
and the response or the exception. The bodies of the responses are left out, and so are the messages
that carry them.

## Main definitions

* `Scope`, `LangGraphUser`, `App`
* `getOrgRateLimitKey`, `getEndpointType`, `getLimitForEndpoint`
* `rateLimit` — the middleware

## Main results

* `getOrgRateLimitKey_user` — the key of an authenticated user
* `zero_le_getLimitForEndpoint` — the limits of an organization are not negative
-/

open PyString

namespace OpenLangGraph

namespace RateLimitMiddleware

/-! ### Requests -/

/-- `LangGraphUser`, as far as the middlewares read it. -/
structure LangGraphUser where
  identity : Str
  isAuthenticated : Bool
  orgId : Option Str

/-- What `AuthenticationMiddleware` puts into the scope. -/
inductive ScopeUser
  | unauthenticated
  | authenticated (user : LangGraphUser)

/-- `scope["type"]` -/
inductive ScopeType
  | http
  | websocket
  | lifespan
deriving DecidableEq

/-- The ASGI scope of a request. -/
structure Scope where
  type : ScopeType
  path : Option Str
  method : Option Str
  headers : List (Str × Str)
  client : Option Str
  user : Option ScopeUser

/-- An exception: the one of `request.user`, or one of the endpoints. -/
inductive Failure (ε : Type)
  | assertionError
  | endpoint (e : ε)

/-- A response, with the numbers in its headers. -/
structure Response where
  statusCode : ℕ
  numbers : List (String × ℤ)

/-- What becomes of a request. -/
structure Outcome (ε : Type) where
  /-- the keys of the counters that the middleware increments -/
  charged : List Str
  response : Except (Failure ε) Response

abbrev App (ε : Type) := Scope → Outcome ε

/-! ### Keys -/

/-- `get_remote_address`: the last address of `X-Forwarded-For`, or the peer. -/
def getRemoteAddress (unicode : UnicodeDb) (scope : Scope) : Str :=
  let forwardedFor := (scope.headers.lookup "x-forwarded-for".toList).getD []
  let ips := ((splitSub ",".toList forwardedFor).map (strip unicode.isSpace)).reverse
  match if forwardedFor.isEmpty then none else ips.find? (!·.isEmpty) with
  | some ip => ip
  | none =>
    match scope.client.filter (!·.isEmpty) with
    | some host => host
    | none => "unknown".toList

/-- `get_org_rate_limit_key`; `none` is the `AssertionError` of `request.user`. -/
def getOrgRateLimitKey (unicode : UnicodeDb) (scope : Scope) : Option Str :=
  let ip := "ip:".toList ++ getRemoteAddress unicode scope
  scope.user.map fun
    | .unauthenticated => ip
    | .authenticated user =>
      if user.isAuthenticated then
        match user.orgId.filter (!·.isEmpty) with
        | some orgId => "org:".toList ++ orgId
        | none => if user.identity.isEmpty then ip else "user:".toList ++ user.identity
      else ip

/-- The user has an organization or an identity. -/
def LangGraphUser.isKnown (user : LangGraphUser) : Bool :=
  (user.orgId.filter (!·.isEmpty)).isSome || !user.identity.isEmpty

/-- The counter that is meant for a user. -/
def callerKey (user : LangGraphUser) : Str :=
  match user.orgId.filter (!·.isEmpty) with
  | some orgId => "org:".toList ++ orgId
  | none => "user:".toList ++ user.identity

/-! ### Paths -/

/-- `EXCLUDED_PATHS` -/
def excludedPaths : List Str :=
  ["/health", "/health/", "/docs", "/docs/", "/redoc", "/redoc/", "/openapi.json", "/metrics",
    "/metrics/", "/favicon.ico"].map String.toList

/-- `EXCLUDED_PREFIXES` -/
def excludedPrefixes : List Str := ["/static/", "/_next/"].map String.toList

/-- `_should_skip` -/
def shouldSkip (path : Str) : Bool :=
  path ∈ excludedPaths || excludedPrefixes.any (·.isPrefixOf path)

/-- `path.find(endpoint)` -/
def find (path endpoint : Str) : Option ℕ :=
  (List.range (path.length + 1)).find? fun i => endpoint.isPrefixOf (path.drop i)

/-- `_path_matches_endpoint` -/
def pathMatchesEndpoint (path endpoint : Str) : Bool :=
  if path.isEmpty || endpoint.isEmpty then false
  else if path = endpoint then true
  else if endsWith path endpoint &&
      ((endpoint.length < path.length && path[path.length - endpoint.length - 1]? = some '/') ||
        endpoint.head? = some '/') then true
  else
    match find path endpoint with
    | none => false
    | some idx => (idx = 0 || path[idx - 1]? = some '/') &&
        (idx + endpoint.length = path.length || path[idx + endpoint.length]? = some '/')

inductive EndpointType
  | streaming
  | runs
  | write
  | read
deriving DecidableEq

def EndpointType.value : EndpointType → Str
  | .streaming => "streaming".toList
  | .runs => "runs".toList
  | .write => "write".toList
  | .read => "read".toList

/-- `STREAMING_ENDPOINTS` -/
def streamingEndpoints : List Str := ["/runs/stream", "/runs/wait"].map String.toList

/-- `_get_endpoint_type` -/
def getEndpointType (path method : Str) : EndpointType :=
  if method = "GET".toList then .read
  else if method = "POST".toList && streamingEndpoints.any (pathMatchesEndpoint path) then
    .streaming
  else if method = "POST".toList && pathMatchesEndpoint path "/runs".toList then .runs
  else if method ∈ ["POST", "PUT", "DELETE", "PATCH"].map String.toList then .write
  else .read

/-! ### Limits -/

/-- The settings from the environment. -/
structure Config where
  enabled : Bool
  /-- `RATE_LIMIT_FALLBACK == "error"` -/
  fallbackError : Bool
  defaultPerHour : ℤ
  streamingPerHour : ℤ
  runsPerHour : ℤ

/-- `OrgRateLimits`; the fields are checked to be at least 0. -/
structure OrgRateLimits where
  requestsPerHour : ℕ
  runsPerHour : ℕ
  streamingPerHour : ℕ
  enabled : Bool

/-- `ENDPOINT_TYPE_LIMITS` -/
def Config.endpointTypeLimit (config : Config) : EndpointType → ℤ
  | .streaming => config.streamingPerHour
  | .runs => config.runsPerHour
  | .write => 2000
  | .read => config.defaultPerHour

/-- `_get_org_limit_for_type` -/
def OrgRateLimits.forType (limits : OrgRateLimits) : EndpointType → ℤ
  | .streaming => limits.streamingPerHour
  | .runs => limits.runsPerHour
  | .write => limits.requestsPerHour / 5
  | .read => limits.requestsPerHour

/-- `_get_limit_for_endpoint` -/
def getLimitForEndpoint (config : Config) (key : Str) (endpointType : EndpointType)
    (orgLimits : Option OrgRateLimits) : ℤ :=
  if "ip:".toList.isPrefixOf key then max 20 (config.endpointTypeLimit endpointType / 5)
  else
    match orgLimits.filter (·.enabled) with
    | some limits => limits.forType endpointType
    | none => config.endpointTypeLimit endpointType

/-- **The limits of an organization** are not negative, and may be 0. -/
theorem zero_le_getLimitForEndpoint (config : Config) (key : Str) (endpointType : EndpointType)
    (limits : OrgRateLimits) (henabled : limits.enabled = true) :
    0 ≤ getLimitForEndpoint config key endpointType (some limits) := by
  rw [getLimitForEndpoint, Option.filter_some, if_pos henabled]
  split
  · omega
  · cases endpointType <;> simp only [OrgRateLimits.forType] <;> omega

example : getLimitForEndpoint ⟨true, true, 5000, 100, 500⟩ "org:o".toList .write
    (some ⟨4, 0, 0, true⟩) = 0 := by decide

/-! ### The middleware -/

/-- The services that the middleware calls. -/
structure Environment where
  unicode : UnicodeDb
  config : Config
  /-- `rate_limiter.is_available` -/
  isAvailable : Bool
  /-- `_get_org_limits`, for the id of an organization -/
  orgLimits : Str → Option OrgRateLimits
  /-- `rate_limiter.check_limit` for a key and a limit: whether the request is allowed, what remains
  of the limit, and when the counter is reset -/
  checkLimit : Str → ℤ → Bool × ℤ × ℤ
  /-- `int(time.time())` -/
  now : ℤ

/-- `_get_org_limits` -/
def Environment.getOrgLimits (env : Environment) (baseKey : Str) : Option OrgRateLimits :=
  if "org:".toList.isPrefixOf baseKey then env.orgLimits (baseKey.drop 4) else none

/-- `send_with_headers` -/
def withHeaders {ε : Type} (limit remaining resetAt : ℤ) (outcome : Outcome ε) : Outcome ε :=
  { outcome with
    response := outcome.response.map fun response =>
      { response with
        numbers := response.numbers ++ [("X-RateLimit-Limit", limit),
          ("X-RateLimit-Remaining", remaining), ("X-RateLimit-Reset", resetAt)] } }

/-- `_send_rate_limit_exceeded` -/
def rateLimitExceeded (now limit remaining resetAt : ℤ) : Response :=
  { statusCode := 429
    numbers := [("x-ratelimit-limit", limit), ("x-ratelimit-remaining", remaining),
      ("x-ratelimit-reset", resetAt), ("retry-after", max 1 (resetAt - now))] }

/-- `_send_service_unavailable` -/
def serviceUnavailable : Response := ⟨503, [("retry-after", 30)]⟩

/-- `RateLimitMiddleware.__call__` -/
def rateLimit {ε : Type} (env : Environment) (app : App ε) : App ε := fun scope =>
  let path := scope.path.getD "/".toList
  if scope.type ≠ .http || shouldSkip path || !env.config.enabled then app scope
  else if !env.isAvailable then
    if env.config.fallbackError then ⟨[], .ok serviceUnavailable⟩ else app scope
  else
    match getOrgRateLimitKey env.unicode scope with
    | none => ⟨[], .error .assertionError⟩
    | some baseKey =>
      let endpointType := getEndpointType path (scope.method.getD "GET".toList)
      let key := endpointType.value ++ ":".toList ++ baseKey
      let limit := getLimitForEndpoint env.config baseKey endpointType (env.getOrgLimits baseKey)
      let (allowed, remaining, resetAt) := env.checkLimit key limit
      if allowed then
        let outcome := withHeaders limit remaining resetAt (app scope)
        { outcome with charged := key :: outcome.charged }
      else ⟨[key], .ok (rateLimitExceeded env.now limit remaining resetAt)⟩

/-! ### What the middleware does -/

variable {unicode : UnicodeDb} {scope : Scope} {user : LangGraphUser}

/-- **The key of an authenticated user** is the one that is meant for the user, once the user is in
the scope. -/
theorem getOrgRateLimitKey_user (huser : scope.user = some (.authenticated user))
    (hauthenticated : user.isAuthenticated = true) (hknown : user.isKnown = true) :
    getOrgRateLimitKey unicode scope = some (callerKey user) := by
  rw [LangGraphUser.isKnown] at hknown
  rw [getOrgRateLimitKey, huser, callerKey, Option.map_some]
  dsimp only
  rw [if_pos hauthenticated]
  cases horg : user.orgId.filter (!·.isEmpty) with
  | none =>
    rw [horg, Option.isSome_none, Bool.false_or, Bool.not_eq_true'] at hknown
    dsimp only
    rw [hknown, if_neg Bool.false_ne_true]
  | some orgId => rfl

/-- A middleware that is switched off passes the request on. -/
theorem rateLimit_of_disabled {ε : Type} {env : Environment} (app : App ε)
    (henabled : env.config.enabled = false) : rateLimit env app scope = app scope := by
  rw [rateLimit, henabled]
  dsimp only
  rw [Bool.not_false, Bool.or_true, if_pos rfl]

/-- Without a limiter, the middleware passes the request on, or answers it. -/
theorem rateLimit_of_unavailable {ε : Type} {env : Environment} (app : App ε)
    (havailable : env.isAvailable = false) :
    rateLimit env app scope = app scope ∨
      rateLimit env app scope = ⟨[], .ok serviceUnavailable⟩ := by
  rw [rateLimit, havailable]
  dsimp only
  split
  · exact .inl rfl
  · rw [Bool.not_false, if_pos rfl]
    split
    · exact .inr rfl
    · exact .inl rfl

/-- Without the authentication, the middleware raises. -/
theorem rateLimit_of_no_user {ε : Type} {env : Environment} (app : App ε)
    (hhttp : scope.type = .http) (hpath : shouldSkip (scope.path.getD "/".toList) = false)
    (henabled : env.config.enabled = true) (havailable : env.isAvailable = true)
    (huser : scope.user = none) :
    rateLimit env app scope = ⟨[], .error .assertionError⟩ := by
  rw [rateLimit, hhttp, hpath, henabled, havailable, getOrgRateLimitKey, huser]
  rfl

/-- With a key, the counter of the key is the only one that the middleware adds, and it raises what
the application raises. -/
theorem rateLimit_of_key {ε : Type} {env : Environment} {baseKey : Str} (app : App ε)
    (hkey : getOrgRateLimitKey env.unicode scope = some baseKey) :
    (∀ key ∈ (rateLimit env app scope).charged,
      (∃ endpointType : EndpointType, key = endpointType.value ++ ":".toList ++ baseKey) ∨
        key ∈ (app scope).charged) ∧
      ∀ e, (rateLimit env app scope).response = .error e → (app scope).response = .error e := by
  have hsame : (∀ key ∈ (app scope).charged,
      (∃ endpointType : EndpointType, key = endpointType.value ++ ":".toList ++ baseKey) ∨
        key ∈ (app scope).charged) ∧
      ∀ e, (app scope).response = .error e → (app scope).response = .error e :=
    ⟨fun _ => .inr, fun _ => id⟩
  rw [rateLimit, hkey]
  dsimp only
  split
  · exact hsame
  · split
    · split
      · exact ⟨by simp, by simp⟩
      · exact hsame
    · split
      · refine ⟨fun key h => ?_, fun e h => ?_⟩
        · rcases List.mem_cons.mp h with rfl | h
          · exact .inl ⟨_, rfl⟩
          · exact .inr h
        · cases hresponse : (app scope).response with
          | error e' => simpa [withHeaders, hresponse, Except.map] using h
          | ok response => simp [withHeaders, hresponse, Except.map] at h
      · exact ⟨fun key h => .inl ⟨_, List.mem_singleton.mp h⟩, by simp⟩

end RateLimitMiddleware

end OpenLangGraph

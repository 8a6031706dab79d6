import OpenLangGraph.Middleware.RateLimit

/-!
# The middleware stack

The five middlewares of `main.py` in the order in which they are added, and the application that
Starlette builds from them: the one that is added last is entered first.

## The order

The comment at the rate limit middleware says that it is executed after the authentication, so that
the limits of an organization apply. It is added after the authentication, and therefore executed
before it.

## Scope

What the audit middleware writes to its outbox, and what `DoubleEncodedJSONMiddleware` makes of a
body, does not show in an `Outcome`. `CORSMiddleware` may answer a request itself.

## Main definitions

* `Middlewares.buildMiddlewareStack`, `Middlewares.application`
* `Middlewares.ChargesCaller`

## Main results

* `Middlewares.charges_caller_iff` — when the caller is charged
* `Middlewares.charges_caller_of_order` — the caller is charged if the two are added the other way
-/

open PyString

namespace OpenLangGraph

open RateLimitMiddleware

namespace Middlewares

/-! ### The application -/

variable {ε : Type}

abbrev Middleware (ε : Type) := App ε → App ε

/-- What the middlewares and the endpoints ask the outside world. -/
structure World (ε : Type) where
  limiter : Environment
  /-- `LangGraphAuthBackend.authenticate`: an `AuthenticationError`, or a user, or nobody -/
  authenticate : Scope → Except String (Option LangGraphUser)
  /-- the answer of `CORSMiddleware` to a preflight request -/
  preflight : Scope → Option Response
  router : Scope → Except ε Response

/-- `AuthenticationMiddleware` of Starlette, with `on_auth_error`. -/
def authentication (world : World ε) : Middleware ε := fun app scope =>
  if scope.type = .http || scope.type = .websocket then
    match world.authenticate scope with
    | .error _ => ⟨[], .ok ⟨401, []⟩⟩
    | .ok none => app { scope with user := some .unauthenticated }
    | .ok (some user) => app { scope with user := some (.authenticated user) }
  else app scope

/-- `CORSMiddleware` of Starlette -/
def cors (world : World ε) : Middleware ε := fun app scope =>
  match world.preflight scope with
  | some response => ⟨[], .ok response⟩
  | none => app scope

/-- `DoubleEncodedJSONMiddleware` changes the body only. -/
def doubleEncodedJson : Middleware ε := fun app scope => app scope

/-- `AuditMiddleware` raises again what it has logged. -/
def audit : Middleware ε := fun app scope => app scope

/-- `app.add_middleware` -/
def addMiddleware (stack : List (Middleware ε)) (m : Middleware ε) : List (Middleware ε) :=
  m :: stack

/-- The middlewares in the order in which `main.py` adds them. -/
def added (world : World ε) : List (Middleware ε) :=
  [cors world, doubleEncodedJson, authentication world, rateLimit world.limiter, audit]

/-- `build_middleware_stack` of Starlette: `for cls in reversed(middleware): app = cls(app)` -/
def buildMiddlewareStack (stack : List (Middleware ε)) (router : App ε) : App ε :=
  stack.reverse.foldl (fun app m => m app) router

def endpoints (world : World ε) : App ε := fun scope =>
  ⟨[], (world.router scope).mapError .endpoint⟩

/-- The application for some middlewares that are added in this order. -/
def build (world : World ε) (middlewares : List (Middleware ε)) : App ε :=
  buildMiddlewareStack (middlewares.foldl addMiddleware []) (endpoints world)

/-- `app` of `main.py` -/
def application (world : World ε) : App ε := build world (added world)

/-! ### What is asked of the stack -/

/-- A request as the server passes it on, to a path that is not excluded. -/
structure IsLimited (scope : Scope) : Prop where
  type : scope.type = .http
  path : shouldSkip (scope.path.getD "/".toList) = false
  user : scope.user = none

/-- **The caller is charged**: nothing but an endpoint raises, and the counters that are incremented
are those of the user. -/
structure ChargesCaller (world : World ε) (app : App ε) (scope : Scope) : Prop where
  completes : ∀ e, (app scope).response = .error e → ∃ e', e = .endpoint e'
  caller : ∀ user, world.authenticate scope = .ok (some user) → user.isAuthenticated = true →
    user.isKnown = true → ∀ key ∈ (app scope).charged,
      ∃ endpointType : EndpointType, key = endpointType.value ++ ":".toList ++ callerKey user

/-! ### The order -/

variable {world : World ε} {scope : Scope}

/-- **The order of execution** is the reverse of the order in which the middlewares are added. -/
theorem application_eq (world : World ε) :
    application world = audit (rateLimit world.limiter (authentication world
      (doubleEncodedJson (cors world (endpoints world))))) := rfl

/-- An application that charges nobody, and in which only an endpoint raises. -/
def Clean (outcome : Outcome ε) : Prop :=
  outcome.charged = [] ∧ ∀ e, outcome.response = .error e → ∃ e', e = .endpoint e'

/-- What is inside of the two is clean. -/
theorem clean_inner (world : World ε) (scope : Scope) :
    Clean (doubleEncodedJson (cors world (endpoints world)) scope) := by
  rw [show doubleEncodedJson (cors world (endpoints world)) scope =
    cors world (endpoints world) scope from rfl, cors]
  cases world.preflight scope with
  | some response => exact ⟨rfl, fun e he => by cases he⟩
  | none =>
    refine ⟨rfl, fun e he => ?_⟩
    have he : (world.router scope).mapError .endpoint = .error e := he
    cases hrouter : world.router scope with
    | ok response =>
      rw [hrouter] at he
      cases he
    | error e' =>
      rw [hrouter] at he
      exact ⟨e', (Except.error.inj he).symm⟩

/-- So is the authentication. -/
theorem clean_authentication (world : World ε) (app : App ε) (happ : ∀ scope, Clean (app scope))
    (scope : Scope) : Clean (authentication world app scope) := by
  rw [authentication]
  split
  · split
    · exact ⟨rfl, fun e he => by cases he⟩
    · exact happ _
    · exact happ _
  · exact happ _

theorem chargesCaller_of_clean {app : App ε} (h : Clean (app scope)) :
    ChargesCaller world app scope := by
  refine ⟨h.2, fun _ _ _ _ key hkey => ?_⟩
  rw [h.1] at hkey
  cases hkey

/-- **When the caller is charged**: when requests are not limited at all. -/
theorem charges_caller_iff (world : World ε) (scope : Scope) (hscope : IsLimited scope) :
    ChargesCaller world (application world) scope ↔
      world.limiter.config.enabled = false ∨ world.limiter.isAvailable = false := by
  let inner := authentication world (doubleEncodedJson (cors world (endpoints world)))
  have hclean : Clean (inner scope) := clean_authentication world _ (clean_inner world) scope
  have happlication : application world scope = rateLimit world.limiter inner scope := rfl
  cases henabled : world.limiter.config.enabled with
  | false =>
    refine iff_of_true (chargesCaller_of_clean ?_) (.inl rfl)
    rw [happlication, rateLimit_of_disabled inner henabled]
    exact hclean
  | true =>
    cases havailable : world.limiter.isAvailable with
    | false =>
      refine iff_of_true (chargesCaller_of_clean ?_) (.inr rfl)
      rw [happlication]
      have hcases : rateLimit world.limiter inner scope = inner scope ∨
          rateLimit world.limiter inner scope = ⟨[], .ok serviceUnavailable⟩ :=
        rateLimit_of_unavailable inner havailable
      rcases hcases with h | h <;> rw [h]
      · exact hclean
      · exact ⟨rfl, fun e he => by cases he⟩
    | true =>
      refine iff_of_false (fun h => ?_) (by simp)
      have houtcome := rateLimit_of_no_user inner hscope.type hscope.path henabled havailable
        hscope.user
      obtain ⟨e', he'⟩ := h.completes .assertionError (congrArg Outcome.response houtcome)
      cases he'

/-- **If the rate limit middleware were added before the authentication**, the caller would be
charged. -/
theorem charges_caller_of_order (world : World ε) (scope : Scope) (hscope : IsLimited scope) :
    ChargesCaller world (build world [cors world, doubleEncodedJson, rateLimit world.limiter,
      authentication world, audit]) scope := by
  let inner := doubleEncodedJson (cors world (endpoints world))
  have hbuild : build world [cors world, doubleEncodedJson, rateLimit world.limiter,
      authentication world, audit] scope = authentication world (rateLimit world.limiter inner)
        scope := rfl
  have hlimited {scope' : Scope} {baseKey : Str}
      (hkey : getOrgRateLimitKey world.limiter.unicode scope' = some baseKey) :
      (∀ key ∈ (rateLimit world.limiter inner scope').charged, ∃ endpointType : EndpointType,
        key = endpointType.value ++ ":".toList ++ baseKey) ∧
      ∀ e, (rateLimit world.limiter inner scope').response = .error e →
        ∃ e', e = .endpoint e' := by
    obtain ⟨hcharged, hraises⟩ := rateLimit_of_key inner hkey
    obtain ⟨hnone, hendpoint⟩ := clean_inner world scope'
    refine ⟨fun key h => (hcharged key h).resolve_right fun h => ?_, fun e h =>
      hendpoint e (hraises e h)⟩
    rw [hnone] at h
    cases h
  have hauthentication : authentication world (rateLimit world.limiter inner) scope =
      match world.authenticate scope with
      | .error _ => ⟨[], .ok ⟨401, []⟩⟩
      | .ok none => rateLimit world.limiter inner { scope with user := some .unauthenticated }
      | .ok (some user) =>
        rateLimit world.limiter inner { scope with user := some (.authenticated user) } := by
    rw [authentication, if_pos (by simp [hscope.type])]
  rw [hauthentication] at hbuild
  cases hauth : world.authenticate scope with
  | error e =>
    rw [hauth] at hbuild
    exact chargesCaller_of_clean (hbuild ▸ ⟨rfl, by simp⟩)
  | ok user =>
    cases user with
    | none =>
      rw [hauth] at hbuild
      refine ⟨fun e he => ?_, fun user h => ?_⟩
      · exact (hlimited rfl).2 e (hbuild ▸ he)
      · cases hauth.symm.trans h
    | some user =>
      rw [hauth] at hbuild
      refine ⟨fun e he => ?_, fun user' h hauthenticated hknown key hkey => ?_⟩
      · exact (hlimited rfl).2 e (hbuild ▸ he)
      · obtain rfl := Option.some.inj (Except.ok.inj (hauth.symm.trans h))
        exact (hlimited (getOrgRateLimitKey_user rfl hauthenticated hknown)).1 key
          (hbuild ▸ hkey)

/-! ### Two requests -/

/-- Requests of Alice, a member of an organization. -/
def exampleWorld (enabled : Bool) : World Unit where
  limiter :=
    { unicode := .ascii, config := ⟨enabled, true, 5000, 100, 500⟩, isAvailable := true
      orgLimits := fun _ => none, checkLimit := fun _ limit => (true, limit - 1, 3600), now := 0 }
  authenticate := fun _ => .ok (some ⟨"alice".toList, true, some "acme".toList⟩)
  preflight := fun _ => none
  router := fun _ => .ok ⟨200, []⟩

def exampleScope : Scope :=
  ⟨.http, some "/threads".toList, some "GET".toList, [], some "10.0.0.1".toList, none⟩

theorem isLimited_exampleScope : IsLimited exampleScope := ⟨rfl, by decide, rfl⟩

theorem charges_caller_switched_off :
    ChargesCaller (exampleWorld false) (application (exampleWorld false)) exampleScope :=
  (charges_caller_iff (exampleWorld false) exampleScope isLimited_exampleScope).mpr (.inl rfl)

/-- **A request that fails**: nobody has authenticated it when its counter is looked for. -/
theorem caller_not_charged :
    ¬ ∀ (world : World Unit) (scope : Scope), IsLimited scope →
      ChargesCaller world (application world) scope := by
  intro h
  obtain ⟨e', he'⟩ :=
    (h (exampleWorld true) exampleScope isLimited_exampleScope).completes .assertionError rfl
  cases he'

end Middlewares

end OpenLangGraph

import OpenLangGraph.Utils.UrlValidator

/-!
# The one error of the URL gate

`validate_url_for_ssrf` announces `SSRFValidationError` and nothing else, and `is_safe_url` turns
that error, and only that one, into `False`. Three library functions on the way raise
`ValueError` for malformed text: the URL parser, the address parser and the `port` accessor. The
calls of the first two stand in a `try`; the accessor is read in the condition of an `if` at the
very end, after every check has passed, and only when `allow_any_port` is off.

So the two functions part from their contract at one place. A URL that fails an earlier check
never gets there, which is why the exact condition speaks about the URLs that pass them all.

## Main definitions

* `isSafeUrl`
* `FailsOneWay` — the contract of the two functions at an input
* `HostPasses` — a host passes the checks of its address

## Main results

* `checkHost_eq_ok_iff` — `HostPasses` is what `checkHost` decides
* `validateUrlForSsrf_cases` — everything the function can do
* `failsOneWay_iff` — the inputs at which the contract holds
-/

open PyString

namespace OpenLangGraph

namespace UrlValidator

/-- `is_safe_url` -/
def isSafeUrl (cfg : Config) (env : Env) (url : String) (requireHttps : Option Bool)
    (allowAnyPort : Bool) : Except PyException Bool :=
  match validateUrlForSsrf cfg env url requireHttps allowAnyPort with
  | .ok _ => .ok true
  | .error (.ssrfValidationError _) => .ok false
  | .error e => .error e

/-- The announced error is the only one that gets out of `validate_url_for_ssrf`, and
`is_safe_url` returns a boolean that says whether there was one. -/
structure FailsOneWay (cfg : Config) (env : Env) (url : String) (requireHttps : Option Bool)
    (allowAnyPort : Bool) : Prop where
  only : ∀ e, validateUrlForSsrf cfg env url requireHttps allowAnyPort = .error e →
    ∃ s, e = .ssrfValidationError s
  answers : ∃ b, isSafeUrl cfg env url requireHttps allowAnyPort = .ok b ∧
    (b = true ↔ ∃ r, validateUrlForSsrf cfg env url requireHttps allowAnyPort = .ok r)

/-- The second half of the contract is the first one seen from `is_safe_url`. -/
theorem failsOneWay_of_only {cfg : Config} {env : Env} {url : String}
    {requireHttps : Option Bool} {allowAnyPort : Bool}
    (h : ∀ e, validateUrlForSsrf cfg env url requireHttps allowAnyPort = .error e →
      ∃ s, e = .ssrfValidationError s) :
    FailsOneWay cfg env url requireHttps allowAnyPort := by
  refine ⟨h, ?_⟩
  rw [isSafeUrl]
  cases hv : validateUrlForSsrf cfg env url requireHttps allowAnyPort with
  | ok r => exact ⟨true, rfl, by simp⟩
  | error e =>
    obtain ⟨s, rfl⟩ := h e hv
    exact ⟨false, rfl, by simp⟩

/-! ### The checks of the host -/

/-- What a host has to be to pass: a literal outside the blocked ranges, or a name that does not
look internal and that the resolver, when it is asked, knows an address of. -/
def HostPasses (cfg : Config) (env : Env) (hostname : Str) : Prop :=
  match IpAddress.ofString hostname with
  | some ip => ∀ r ∈ blockedIpRanges, r.contains ip = false
  | none => looksLikeInternalHostname (env.unicode.lower hostname) = false ∧
      (cfg.ssrfSkipDnsCheck = true ∨ (env.getaddrinfo hostname).getD [] ≠ [])

theorem checkHost_eq_ok_iff {cfg : Config} {env : Env} {url : String} {hostname : Str} :
    checkHost cfg env url hostname = .ok () ↔ HostPasses cfg env hostname := by
  rw [HostPasses]
  cases h : IpAddress.ofString hostname with
  | some ip => exact checkHost_literal h
  | none =>
    cases hdns : cfg.ssrfSkipDnsCheck with
    | false => simpa using checkHost_name hdns h
    | true =>
      rw [checkHost, checkLiteral]
      simp only [h, hdns, if_true, true_or, and_true]
      cases looksLikeInternalHostname (env.unicode.lower hostname) <;> simp

/-- A host that is turned down is turned down with the announced error. -/
theorem checkHost_error {cfg : Config} {env : Env} {url : String} {hostname : Str}
    {e : PyException} (h : checkHost cfg env url hostname = .error e) :
    ∃ s, e = .ssrfValidationError s := by
  rw [checkHost] at h
  split at h
  · cases h
  · exact ⟨_, (Except.error.inj h).symm⟩
  · -- the address parser's own error is caught, and what follows raises nothing else
    split at h
    · exact ⟨_, (Except.error.inj h).symm⟩
    · split at h
      · cases h
      · split at h
        · exact ⟨_, (Except.error.inj h).symm⟩
        · rw [checkResolvedIps_eq_ok] at h
          cases h

/-! ### The function -/

/-- A URL that passes every other check is at the mercy of its port. -/
theorem validateUrlForSsrf_of_screened {cfg : Config} {env : Env} {url : String}
    {requireHttps : Option Bool} {parsed : Url.Parsed} {hostname : Str}
    (hs : Screened cfg env url requireHttps true parsed hostname)
    (hpass : HostPasses cfg env hostname) {message : String}
    (hport : parsed.port = .error message) :
    validateUrlForSsrf cfg env url requireHttps false = .error (.valueError message) := by
  have hhttps : (requireHttps.getD cfg.federationRequireHttps &&
      decide (env.unicode.lower parsed.scheme ≠ "https".toList)) = false := by
    by_cases hreq : requireHttps.getD cfg.federationRequireHttps = true
    · rw [hreq, Bool.true_and, decide_eq_false_iff_not]
      exact not_not.mpr (hs.https hreq)
    · rw [Bool.eq_false_iff.mpr hreq, Bool.false_and]
  have hcheck : checkHost cfg env url hostname = .ok () := checkHost_eq_ok_iff.mpr hpass
  rw [validateUrlForSsrf]
  simp only [if_neg hs.nonempty, if_neg (Nat.not_lt.mpr hs.short), hs.parses,
    if_neg (not_not.mpr hs.scheme), hhttps, hs.host, if_neg hs.name, hcheck, hport,
    Bool.false_eq_true, if_false]

/-- The function returns its argument, raises the announced error, or lets the error of the
`port` accessor out of a URL that has passed everything else. -/
theorem validateUrlForSsrf_cases (cfg : Config) (env : Env) (url : String)
    (requireHttps : Option Bool) (allowAnyPort : Bool) :
    validateUrlForSsrf cfg env url requireHttps allowAnyPort = .ok url ∨
    (∃ s, validateUrlForSsrf cfg env url requireHttps allowAnyPort =
      .error (.ssrfValidationError s)) ∨
    ∃ parsed hostname message,
      Screened cfg env url requireHttps true parsed hostname ∧ HostPasses cfg env hostname ∧
        allowAnyPort = false ∧ parsed.port = .error message ∧
        validateUrlForSsrf cfg env url requireHttps allowAnyPort =
          .error (.valueError message) := by
  cases hv : validateUrlForSsrf cfg env url requireHttps allowAnyPort with
  | ok r =>
    obtain ⟨rfl, -⟩ := validateUrlForSsrf_eq_ok_iff.mp hv
    exact .inl rfl
  | error e =>
    refine .inr ?_
    have announced (s : SSRFValidationError) (hs : PyException.ssrfValidationError s = e) :
        ∃ s, Except.error (ε := PyException) (α := String) e =
          .error (.ssrfValidationError s) := ⟨s, by rw [hs]⟩
    rw [validateUrlForSsrf] at hv
    simp only at hv
    split at hv <;> rename_i hne
    · exact .inl (announced _ (Except.error.inj hv))
    split at hv <;> rename_i hshort
    · exact .inl (announced _ (Except.error.inj hv))
    split at hv <;> rename_i parsed hparse
    · exact .inl (announced _ (Except.error.inj hv))
    split at hv <;> rename_i hscheme
    · exact .inl (announced _ (Except.error.inj hv))
    split at hv <;> rename_i hhttps
    · exact .inl (announced _ (Except.error.inj hv))
    split at hv <;> rename_i hhost
    · exact .inl (announced _ (Except.error.inj hv))
    rename_i hostname
    split at hv <;> rename_i hname
    · exact .inl (announced _ (Except.error.inj hv))
    split at hv <;> rename_i hcheck
    · obtain ⟨s, hs⟩ := checkHost_error hcheck
      exact .inl (announced s (hs.symm.trans (Except.error.inj hv)))
    split at hv <;> rename_i hany
    · cases hv
    split at hv <;> rename_i message hport
    · have hhttps' (hreq : requireHttps.getD cfg.federationRequireHttps = true) :
          env.unicode.lower parsed.scheme = "https".toList := by
        rw [hreq, Bool.true_and, decide_eq_true_eq, not_not] at hhttps
        exact hhttps
      have hscreened : Screened cfg env url requireHttps true parsed hostname :=
        ⟨hne, Nat.not_lt.mp hshort, hparse, not_not.mp hscheme, hhttps', hhost, hname, .inl rfl⟩
      exact .inr ⟨parsed, hostname, message, hscreened, checkHost_eq_ok_iff.mp hcheck,
        Bool.eq_false_iff.mpr hany, hport, by rw [Except.error.inj hv]⟩
    · cases hv

/-- **The contract of the gate.** It holds exactly where ports are not looked at, and at the URLs
that fail a check before the port or have a port that can be read. -/
theorem failsOneWay_iff (cfg : Config) (env : Env) (url : String) (requireHttps : Option Bool)
    (allowAnyPort : Bool) :
    FailsOneWay cfg env url requireHttps allowAnyPort ↔
      allowAnyPort = true ∨ ∀ parsed hostname,
        Screened cfg env url requireHttps true parsed hostname → HostPasses cfg env hostname →
          ∃ p, parsed.port = .ok p := by
  constructor
  · intro hone
    by_cases hany : allowAnyPort = true
    · exact .inl hany
    refine .inr fun parsed hostname hs hpass => ?_
    cases hport : parsed.port with
    | ok p => exact ⟨p, rfl⟩
    | error message =>
      have hvalue := validateUrlForSsrf_of_screened hs hpass hport
      rw [Bool.eq_false_iff.mpr hany] at hone
      obtain ⟨s, hs⟩ := hone.only _ hvalue
      cases hs
  · intro hcond
    refine failsOneWay_of_only fun e he => ?_
    obtain hok | ⟨s, herror⟩ | ⟨parsed, hostname, message, hs, hpass, hany, hport, -⟩ :=
      validateUrlForSsrf_cases cfg env url requireHttps allowAnyPort
    · cases hok.symm.trans he
    · exact ⟨s, (Except.error.inj (herror.symm.trans he)).symm⟩
    · obtain hany' | hports := hcond
      · cases hany.symm.trans hany'
      · obtain ⟨p, hp⟩ := hports parsed hostname hs hpass
        cases hport.symm.trans hp

/-- A port that is out of range gets past every check and out of both functions. -/
theorem port_out_of_range :
    ¬ ∀ (cfg : Config) (env : Env) (url : String) (requireHttps : Option Bool)
      (allowAnyPort : Bool), FailsOneWay cfg env url requireHttps allowAnyPort := by
  intro h
  have hone := h ⟨true, false⟩ ⟨.ascii, fun _ => none⟩ "https://93.184.216.34:99999" none false
  have hvalue : validateUrlForSsrf ⟨true, false⟩ ⟨.ascii, fun _ => none⟩
      "https://93.184.216.34:99999" none false =
        .error (.valueError "Port out of range 0-65535") := by rfl
  obtain ⟨s, hs⟩ := hone.only _ hvalue
  cases hs

end UrlValidator

end OpenLangGraph

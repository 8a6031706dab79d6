import OpenLangGraph.Foundation.Url
import Mathlib.Data.List.Dedup

/-!
# URL validation against SSRF

The model of `utils/url_validator.py`. Federation fetches agent cards and calls agents at URLs it
is given, and `validate_url_for_ssrf` is the gate in front of those requests: it is meant to let
no URL through whose host denotes an internal address.

## Exceptions

`SSRFValidationError` is a subclass of `ValueError`, and the function relies on both the
distinction (around the literal check) and the lack of one (around each resolved address). So a
`PyException` keeps the class, and an `except` clause is a test of the class, in the source's
order.

## What the world decides

The resolver is a field of `Env`: `getaddrinfo host` is the list of the address strings
`sockaddr[0]` of its answer, or `none` when it raises. It may return anything.

## Main definitions

* `validateUrlForSsrf` and the functions it calls
* `denotes` — the addresses a host stands for
* `Unchecked` — a blocked address that the check as written does not see

## Main results

* `validateUrlForSsrf_eq_ok_iff` — when the function returns
* `not_blocked_of_ipv4Mapped` — no blocked range contains an IPv4-mapped address
* `validateUrlForSsrf_sound_iff` — the gate is sound exactly where no address goes unchecked
-/

open PyString

namespace OpenLangGraph

namespace UrlValidator

/-- The two settings read from the process environment. -/
structure Config where
  /-- `FEDERATION_REQUIRE_HTTPS` -/
  federationRequireHttps : Bool
  /-- `SSRF_SKIP_DNS_CHECK` -/
  ssrfSkipDnsCheck : Bool

/-- The world outside the function. -/
structure Env where
  unicode : UnicodeDb
  getaddrinfo : Str → Option (List String)

/-! ### Blocked ranges and names -/

private def v4 (text : String) (a b c d prefixlen : ℕ)
    (h : IpAddress.ofOctets a b c d &&& netmask 32 prefixlen = IpAddress.ofOctets a b c d) :
    IpNetwork := .v4 ⟨_, prefixlen, text, h⟩

/-- `BLOCKED_IP_RANGES` -/
def blockedIpRanges : List IpNetwork := [
  -- RFC 1918: private IPv4
  v4 "10.0.0.0/8" 10 0 0 0 8 (by decide),
  v4 "172.16.0.0/12" 172 16 0 0 12 (by decide),
  v4 "192.168.0.0/16" 192 168 0 0 16 (by decide),
  -- loopback
  v4 "127.0.0.0/8" 127 0 0 0 8 (by decide),
  .v6 ⟨1#128, 128, "::1/128", by decide⟩,
  -- link-local
  v4 "169.254.0.0/16" 169 254 0 0 16 (by decide),
  .v6 ⟨0xfe80#128 <<< 112, 10, "fe80::/10", by decide⟩,
  -- RFC 6598: carrier-grade NAT
  v4 "100.64.0.0/10" 100 64 0 0 10 (by decide),
  -- RFC 5737: documentation
  v4 "192.0.2.0/24" 192 0 2 0 24 (by decide),
  v4 "198.51.100.0/24" 198 51 100 0 24 (by decide),
  v4 "203.0.113.0/24" 203 0 113 0 24 (by decide),
  -- "this" network
  v4 "0.0.0.0/8" 0 0 0 0 8 (by decide),
  -- broadcast
  v4 "255.255.255.255/32" 255 255 255 255 32 (by decide)]

/-- `BLOCKED_HOSTNAMES` -/
def blockedHostnames : List Str :=
  ["localhost", "localhost.localdomain", "local", "metadata.google.internal", "169.254.169.254",
    "metadata", "kubernetes.default.svc", "kubernetes.default", "kubernetes"].map String.toList

/-- `ALLOWED_SCHEMES` -/
def allowedSchemes : List Str := ["http".toList, "https".toList]

/-- The patterns of `_looks_like_internal_hostname`. -/
def internalPatterns : List Str :=
  [".internal", ".local", ".localhost", ".localdomain", ".intranet", ".corp", ".private",
    ".cluster.local", ".svc.cluster.local", ".ec2.internal", ".compute.internal",
    ".docker.internal", "host.docker.internal"].map String.toList

/-- `_looks_like_internal_hostname` -/
def looksLikeInternalHostname (hostname : Str) : Bool :=
  internalPatterns.any fun pattern =>
    endsWith hostname pattern || hostname = lstrip (fun c => c = '.') pattern

/-! ### Exceptions -/

/-- `SSRFValidationError` -/
structure SSRFValidationError where
  message : String
  /-- The rejected URL, cut off after 100 characters. -/
  url : Option String
  reason : Option String
deriving DecidableEq

/-- The exceptions that meet in `validate_url_for_ssrf`. -/
inductive PyException
  | ssrfValidationError (e : SSRFValidationError)
  | valueError (message : String)
deriving DecidableEq

/-- `isinstance(e, ValueError)`: `SSRFValidationError` is a subclass. -/
def PyException.isValueError : PyException → Bool
  | .ssrfValidationError _ => true
  | .valueError _ => true

/-- `SSRFValidationError(message, url=url, reason=reason)` -/
def ssrfError (message url reason : String) : PyException :=
  .ssrfValidationError
    { message
      url := if url = "" then none else some (String.ofList (url.toList.take 100))
      reason := some reason }

/-! ### The address check -/

/-- `for blocked_range in BLOCKED_IP_RANGES: if ip in blocked_range: raise …` -/
def rejectBlocked (ip : IpAddress) (error : IpNetwork → PyException) : Except PyException Unit :=
  match blockedIpRanges.find? fun r => r.contains ip with
  | some blockedRange => .error (error blockedRange)
  | none => .ok ()

/-- `_resolve_hostname_sync`: the distinct address strings, or `None` if there are none or the
resolver raised. -/
def resolveHostnameSync (env : Env) (hostname : Str) : Option (List String) :=
  match env.getaddrinfo hostname with
  | none => none
  | some results => if results.dedup = [] then none else some results.dedup

/-- The body of the `try` for one resolved address. -/
def checkResolvedIp (url : String) (hostname : Str) (resolvedIp : String) :
    Except PyException Unit :=
  match IpAddress.ofString resolvedIp.toList with
  | none =>
    .error (.valueError ("'" ++ resolvedIp ++ "' does not appear to be an IPv4 or IPv6 address"))
  | some ip => rejectBlocked ip fun blockedRange =>
    ssrfError ("Hostname " ++ String.ofList hostname ++ " resolves to blocked IP " ++ resolvedIp ++
      " (" ++ blockedRange.text ++ ")") url "resolved_ip_blocked"

/-- The loop over the resolved addresses, with its `except ValueError: continue`. -/
def checkResolvedIps (url : String) (hostname : Str) : List String → Except PyException Unit
  | [] => .ok ()
  | resolvedIp :: rest =>
    match checkResolvedIp url hostname resolvedIp with
    | .ok () => checkResolvedIps url hostname rest
    | .error e => if e.isValueError then checkResolvedIps url hostname rest else .error e

/-- The body of the outer `try`: the host as an IP literal. -/
def checkLiteral (url : String) (hostname : Str) : Except PyException Unit :=
  match IpAddress.ofString hostname with
  | none =>
    .error (.valueError ("'" ++ String.ofList hostname ++
      "' does not appear to be an IPv4 or IPv6 address"))
  | some ip => rejectBlocked ip fun blockedRange =>
    ssrfError ("IP in blocked range (" ++ blockedRange.text ++ "): " ++ String.ofList hostname)
      url "blocked_ip_range"

/-- The outer `try` with both of its `except` clauses. -/
def checkHost (cfg : Config) (env : Env) (url : String) (hostname : Str) :
    Except PyException Unit :=
  match checkLiteral url hostname with
  | .ok () => .ok ()
  | .error (.ssrfValidationError e) => .error (.ssrfValidationError e)
  | .error (.valueError _) =>
    if looksLikeInternalHostname (env.unicode.lower hostname) then
      .error (ssrfError ("Hostname looks like internal resource: " ++ String.ofList hostname) url
        "internal_hostname")
    else if cfg.ssrfSkipDnsCheck then .ok ()
    else
      match resolveHostnameSync env hostname with
      | none =>
        .error (ssrfError ("DNS resolution failed for hostname: " ++ String.ofList hostname) url
          "dns_resolution_failed")
      | some resolvedIps => checkResolvedIps url hostname resolvedIps

/-! ### The function -/

/-- `validate_url_for_ssrf` -/
def validateUrlForSsrf (cfg : Config) (env : Env) (url : String) (requireHttps : Option Bool)
    (allowAnyPort : Bool) : Except PyException String :=
  let requireHttps := requireHttps.getD cfg.federationRequireHttps
  if url = "" then .error (ssrfError "URL must be a non-empty string" url "empty")
  else if url.length > 2048 then
    .error (ssrfError "URL too long (max 2048 chars)" url "too_long")
  else
    match Url.urlparse env.unicode url.toList with
    | .error e => .error (ssrfError ("Failed to parse URL: " ++ e) url "parse_error")
    | .ok parsed =>
      let scheme := env.unicode.lower parsed.scheme
      if scheme ∉ allowedSchemes then
        .error (ssrfError ("Invalid URL scheme: " ++ String.ofList scheme ++
          ". Allowed: frozenset(\x7b'http', 'https'\x7d)") url "invalid_scheme")
      else if requireHttps && scheme ≠ "https".toList then
        .error (ssrfError
          "URL must use HTTPS (set FEDERATION_REQUIRE_HTTPS=false to allow HTTP)" url
          "https_required")
      else
        match parsed.hostname env.unicode with
        | none => .error (ssrfError "No hostname in URL" url "no_hostname")
        | some hostname =>
          if env.unicode.lower hostname ∈ blockedHostnames then
            .error (ssrfError ("Blocked hostname: " ++ String.ofList hostname) url
              "blocked_hostname")
          else
            match checkHost cfg env url hostname with
            | .error e => .error e
            | .ok () =>
              -- the port is only looked at when it may matter, and a bad one raises here
              if allowAnyPort then .ok url
              else
                match parsed.port with
                | .error e => .error (.valueError e)
                | .ok _ => .ok url

/-- The URL passes every check other than those of its host as an address. -/
structure Screened (cfg : Config) (env : Env) (url : String) (requireHttps : Option Bool)
    (allowAnyPort : Bool) (parsed : Url.Parsed) (hostname : Str) : Prop where
  nonempty : url ≠ ""
  short : url.length ≤ 2048
  parses : Url.urlparse env.unicode url.toList = .ok parsed
  scheme : env.unicode.lower parsed.scheme ∈ allowedSchemes
  https : requireHttps.getD cfg.federationRequireHttps = true →
    env.unicode.lower parsed.scheme = "https".toList
  host : parsed.hostname env.unicode = some hostname
  name : env.unicode.lower hostname ∉ blockedHostnames
  port : allowAnyPort = true ∨ ∃ p, parsed.port = .ok p

/-- The function returns exactly when the URL is screened and its host passes; it then returns
the URL it was given. -/
theorem validateUrlForSsrf_eq_ok_iff {cfg : Config} {env : Env} {url : String}
    {requireHttps : Option Bool} {allowAnyPort : Bool} {r : String} :
    validateUrlForSsrf cfg env url requireHttps allowAnyPort = .ok r ↔
      r = url ∧ ∃ parsed hostname,
        Screened cfg env url requireHttps allowAnyPort parsed hostname ∧
          checkHost cfg env url hostname = .ok () := by
  constructor
  · intro h
    rw [validateUrlForSsrf] at h
    simp only at h
    split at h <;> rename_i hne
    · cases h
    split at h <;> rename_i hshort
    · cases h
    split at h <;> rename_i parsed hparse
    · cases h
    split at h <;> rename_i hscheme
    · cases h
    split at h <;> rename_i hhttps
    · cases h
    split at h <;> rename_i hhost
    · cases h
    rename_i hostname
    split at h <;> rename_i hname
    · cases h
    split at h <;> rename_i hcheck
    · cases h
    have hhttps' (hreq : requireHttps.getD cfg.federationRequireHttps = true) :
        env.unicode.lower parsed.scheme = "https".toList := by
      rw [hreq, Bool.true_and, decide_eq_true_eq, not_not] at hhttps
      exact hhttps
    have hscreened (hport : allowAnyPort = true ∨ ∃ p, parsed.port = .ok p) :
        Screened cfg env url requireHttps allowAnyPort parsed hostname :=
      ⟨hne, Nat.not_lt.mp hshort, hparse, not_not.mp hscheme, hhttps', hhost, hname, hport⟩
    split at h <;> rename_i hport
    · exact ⟨(Except.ok.inj h).symm, parsed, hostname, hscreened (.inl hport), hcheck⟩
    · split at h <;> rename_i p hp
      · cases h
      · exact ⟨(Except.ok.inj h).symm, parsed, hostname, hscreened (.inr ⟨p, hp⟩), hcheck⟩
  · rintro ⟨rfl, parsed, hostname, hs, hcheck⟩
    have hhttps : (requireHttps.getD cfg.federationRequireHttps &&
        decide (env.unicode.lower parsed.scheme ≠ "https".toList)) = false := by
      by_cases hreq : requireHttps.getD cfg.federationRequireHttps = true
      · rw [hreq, Bool.true_and, decide_eq_false_iff_not]
        exact not_not.mpr (hs.https hreq)
      · rw [Bool.eq_false_iff.mpr hreq, Bool.false_and]
    rw [validateUrlForSsrf]
    simp only [if_neg hs.nonempty, if_neg (Nat.not_lt.mpr hs.short), hs.parses,
      if_neg (not_not.mpr hs.scheme), hhttps, hs.host, if_neg hs.name, hcheck]
    rcases hs.port with h | ⟨p, hp⟩
    · simp [h]
    · cases allowAnyPort <;> simp [hp]

/-! ### What the address checks see -/

theorem rejectBlocked_eq_ok_iff {ip : IpAddress} {error : IpNetwork → PyException} :
    rejectBlocked ip error = .ok () ↔ ∀ r ∈ blockedIpRanges, r.contains ip = false := by
  rw [rejectBlocked]
  cases h : blockedIpRanges.find? fun r => r.contains ip with
  | some r =>
    have hr := List.find?_some h
    have hmem := List.mem_of_find?_eq_some h
    simp only [reduceCtorEq, false_iff]
    exact fun hall => by simp [hall r hmem] at hr
  | none => simpa using h

/-- The loop never rejects: the clause that skips unreadable addresses also catches the error
raised for a blocked one. -/
theorem checkResolvedIps_eq_ok (url : String) (hostname : Str) (ips : List String) :
    checkResolvedIps url hostname ips = .ok () := by
  induction ips with
  | nil => rfl
  | cons ip ips ih =>
    rw [checkResolvedIps]
    cases checkResolvedIp url hostname ip with
    | ok _ => exact ih
    | error e =>
      have he : e.isValueError = true := by cases e <;> rfl
      simp only [he, if_true]
      exact ih

theorem resolveHostnameSync_eq_none_iff {env : Env} {hostname : Str} :
    resolveHostnameSync env hostname = none ↔ (env.getaddrinfo hostname).getD [] = [] := by
  rw [resolveHostnameSync]
  cases env.getaddrinfo hostname with
  | none => simp
  | some results => by_cases h : results = [] <;> simp [h]

theorem checkHost_literal {cfg : Config} {env : Env} {url : String} {hostname : Str}
    {ip : IpAddress} (h : IpAddress.ofString hostname = some ip) :
    checkHost cfg env url hostname = .ok () ↔ ∀ r ∈ blockedIpRanges, r.contains ip = false := by
  have hlit : checkLiteral url hostname = rejectBlocked ip fun blockedRange =>
      ssrfError ("IP in blocked range (" ++ blockedRange.text ++ "): " ++ String.ofList hostname)
        url "blocked_ip_range" := by
    simp [checkLiteral, h]
  rw [← rejectBlocked_eq_ok_iff, ← hlit]
  rw [checkHost]
  rcases hc : checkLiteral url hostname with e | ⟨⟩
  · rw [hlit, rejectBlocked] at hc
    split at hc
    · cases hc
      simp [ssrfError]
    · cases hc
  · simp

/-- With the resolver consulted, a name passes as soon as it does not look internal and the
resolver answers at all. -/
theorem checkHost_name {cfg : Config} {env : Env} {url : String} {hostname : Str}
    (hdns : cfg.ssrfSkipDnsCheck = false) (h : IpAddress.ofString hostname = none) :
    checkHost cfg env url hostname = .ok () ↔
      looksLikeInternalHostname (env.unicode.lower hostname) = false ∧
        (env.getaddrinfo hostname).getD [] ≠ [] := by
  rw [checkHost, checkLiteral]
  simp only [h, hdns, Bool.false_eq_true, if_false]
  cases looksLikeInternalHostname (env.unicode.lower hostname) with
  | true => simp
  | false =>
    simp only [Bool.false_eq_true, if_false, true_and, ne_eq]
    rw [← resolveHostnameSync_eq_none_iff]
    cases resolveHostnameSync env hostname with
    | none => simp
    | some ips => simp [checkResolvedIps_eq_ok]

/-! ### Soundness -/

/-- The address lies in a blocked range, an IPv4-mapped one counting as the address it carries. -/
def Blocked (ip : IpAddress) : Prop := ∃ r ∈ blockedIpRanges, r.contains ip.carried = true

instance (ip : IpAddress) : Decidable (Blocked ip) :=
  inferInstanceAs (Decidable (∃ r ∈ blockedIpRanges, r.contains ip.carried = true))

/-- The addresses a host stands for: itself if it is a literal, and otherwise those the resolver
answers with. -/
def denotes (env : Env) (hostname : Str) : List IpAddress :=
  match IpAddress.ofString hostname with
  | some ip => [ip]
  | none => ((env.getaddrinfo hostname).getD []).filterMap fun s => IpAddress.ofString s.toList

/-- The host the URL names. -/
def urlHost (env : Env) (url : String) : Option Str :=
  match Url.urlparse env.unicode url.toList with
  | .error _ => none
  | .ok parsed => parsed.hostname env.unicode

/-- No address that the host of the URL stands for is blocked. -/
def HostSafe (env : Env) (url : String) : Prop :=
  ∀ hostname, urlHost env url = some hostname → ∀ ip ∈ denotes env hostname, ¬ Blocked ip

/-- The hosts whose blocked addresses the function does not see: literals that carry a blocked
IPv4 address, and names that resolve to a blocked address, unless the name alone gives them
away. -/
def Unchecked (env : Env) (hostname : Str) : Prop :=
  match IpAddress.ofString hostname with
  | some ip => ∃ carried, ip.ipv4Mapped = some carried ∧
      ∃ r ∈ blockedIpRanges, r.contains (.v4 carried) = true
  | none => looksLikeInternalHostname (env.unicode.lower hostname) = false ∧
      ∃ ip ∈ denotes env hostname, Blocked ip

theorem urlHost_of_screened {cfg : Config} {env : Env} {url : String} {requireHttps : Option Bool}
    {allowAnyPort : Bool} {parsed : Url.Parsed} {hostname : Str}
    (h : Screened cfg env url requireHttps allowAnyPort parsed hostname) :
    urlHost env url = some hostname := by
  simp only [urlHost, h.parses, h.host]

/-- Whether the high 96 bits tell the network from `::ffff:0:0/96`. -/
def apartFromMapped : IpNetwork → Bool
  | .v4 _ => true
  | .v6 b => 0xFFFF#128 &&& netmask 128 b.prefixlen >>> 32 != b.address >>> 32

/-- **The mapped blind spot.** No blocked range contains an IPv4-mapped address, whatever it
carries: the IPv4 ranges are of the other family, and the IPv6 ranges lie elsewhere. -/
theorem not_blocked_of_ipv4Mapped {ip : IpAddress} {carried : BitVec 32}
    (h : ip.ipv4Mapped = some carried) : ∀ r ∈ blockedIpRanges, r.contains ip = false := by
  have hapart : ∀ r ∈ blockedIpRanges, apartFromMapped r = true := by decide
  intro r hr
  cases ip with
  | v4 ip => simp [IpAddress.ipv4Mapped] at h
  | v6 ip scope =>
    have hmapped : ip >>> 32 = 0xFFFF#128 := by
      by_contra hne
      simp [IpAddress.ipv4Mapped, hne] at h
    cases r with
    | v4 b => rfl
    | v6 b =>
      have hb := hapart _ hr
      by_contra hin
      have hin : ip &&& netmask 128 b.prefixlen = b.address := by
        simpa [IpNetwork.contains, NetworkBlock.contains] using hin
      have hhigh : 0xFFFF#128 &&& netmask 128 b.prefixlen >>> 32 = b.address >>> 32 := by
        rw [← hmapped, ← BitVec.ushiftRight_and_distrib, hin]
      simp [apartFromMapped, hhigh] at hb

/-- A literal that passes the check is blocked only through the address it carries. -/
theorem literal_blocked_iff {ip : IpAddress} (h : ∀ r ∈ blockedIpRanges, r.contains ip = false) :
    Blocked ip ↔ ∃ carried, ip.ipv4Mapped = some carried ∧
      ∃ r ∈ blockedIpRanges, r.contains (.v4 carried) = true := by
  rw [Blocked, IpAddress.carried]
  cases hm : ip.ipv4Mapped with
  | some carried => simp
  | none =>
    simp only [reduceCtorEq, false_and, exists_false, iff_false, not_exists, not_and]
    exact fun r hr => by simp [h r hr]

/-- A host that passes has a blocked address exactly when that address goes unchecked. -/
theorem blocked_iff_unchecked {cfg : Config} {env : Env} {url : String} {hostname : Str}
    (hdns : cfg.ssrfSkipDnsCheck = false) (hcheck : checkHost cfg env url hostname = .ok ()) :
    (∃ ip ∈ denotes env hostname, Blocked ip) ↔ Unchecked env hostname := by
  rw [Unchecked]
  cases h : IpAddress.ofString hostname with
  | some ip =>
    have hip := (checkHost_literal h).mp hcheck
    simp only [denotes, h, List.mem_singleton, exists_eq_left]
    exact literal_blocked_iff hip
  | none =>
    have hname := ((checkHost_name hdns h).mp hcheck).1
    simp [hname]

/-- A host with an unchecked address passes. -/
theorem checkHost_of_unchecked {cfg : Config} {env : Env} {hostname : Str} (url : String)
    (hdns : cfg.ssrfSkipDnsCheck = false) (hun : Unchecked env hostname) :
    checkHost cfg env url hostname = .ok () := by
  rw [Unchecked] at hun
  cases h : IpAddress.ofString hostname with
  | some ip =>
    simp only [h] at hun
    obtain ⟨carried, hmapped, -⟩ := hun
    exact (checkHost_literal h).mpr (not_blocked_of_ipv4Mapped hmapped)
  | none =>
    simp only [h] at hun
    obtain ⟨hname, ip, hip, -⟩ := hun
    refine (checkHost_name hdns h).mpr ⟨hname, fun hnil => ?_⟩
    simp [denotes, h, hnil] at hip

/-- **Where the gate is sound.** With the DNS check on, a URL that is let through has no blocked
address exactly when the URL fails another check or its host has no unchecked address. -/
theorem validateUrlForSsrf_sound_iff (cfg : Config) (env : Env) (url : String)
    (requireHttps : Option Bool) (allowAnyPort : Bool) (hdns : cfg.ssrfSkipDnsCheck = false) :
    ((∃ r, validateUrlForSsrf cfg env url requireHttps allowAnyPort = .ok r) →
        HostSafe env url) ↔
      ∀ parsed hostname, Screened cfg env url requireHttps allowAnyPort parsed hostname →
        ¬ Unchecked env hostname := by
  constructor
  · intro hsafe parsed hostname hs hun
    have hcheck := checkHost_of_unchecked url hdns hun
    obtain ⟨ip, hip, hblocked⟩ := (blocked_iff_unchecked hdns hcheck).mpr hun
    have hok := validateUrlForSsrf_eq_ok_iff.mpr ⟨rfl, parsed, hostname, hs, hcheck⟩
    exact hsafe ⟨url, hok⟩ hostname (urlHost_of_screened hs) ip hip hblocked
  · rintro hcond ⟨r, hok⟩ hostname hhost ip hip hblocked
    obtain ⟨-, parsed, hostname', hs, hcheck⟩ := validateUrlForSsrf_eq_ok_iff.mp hok
    obtain rfl : hostname' = hostname :=
      Option.some.inj ((urlHost_of_screened hs).symm.trans hhost)
    exact hcond parsed hostname' hs ((blocked_iff_unchecked hdns hcheck).mp ⟨ip, hip, hblocked⟩)

/-- The gate guards the public host of a card at the settings of a deployment. -/
theorem validateUrlForSsrf_sound_public :
    HostSafe ⟨.ascii, fun _ => some ["93.184.216.34"]⟩ "https://a.example/card" := by
  have hok : validateUrlForSsrf ⟨true, false⟩ ⟨.ascii, fun _ => some ["93.184.216.34"]⟩
      "https://a.example/card" none false = .ok "https://a.example/card" := by rfl
  refine (validateUrlForSsrf_sound_iff ⟨true, false⟩ _ _ none false rfl).mpr ?_ ⟨_, hok⟩
  intro parsed hostname hs
  have hhost : hostname = "a.example".toList :=
    Option.some.inj ((urlHost_of_screened hs).symm.trans (by decide))
  rw [hhost]
  exact fun hun => absurd hun.2 (by decide)

/-- A public name that resolves to a private address is let through. -/
theorem validateUrlForSsrf_not_sound :
    ¬ ∀ (cfg : Config) (env : Env) (url : String) (requireHttps : Option Bool)
      (allowAnyPort : Bool), cfg.ssrfSkipDnsCheck = false →
        (∃ r, validateUrlForSsrf cfg env url requireHttps allowAnyPort = .ok r) →
          HostSafe env url := by
  intro h
  have hok : validateUrlForSsrf ⟨true, false⟩ ⟨.ascii, fun _ => some ["10.0.0.1"]⟩
      "https://a.example/card" none false = .ok "https://a.example/card" := by rfl
  exact h _ _ _ _ _ rfl ⟨_, hok⟩ "a.example".toList (by decide)
    (.v4 (IpAddress.ofOctets 10 0 0 1)) (by decide) (by decide)

end UrlValidator

end OpenLangGraph

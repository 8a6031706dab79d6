import OpenLangGraph.Middleware.DoubleEncodedJson
import OpenLangGraph.Services.CustomEndpoints

/-!
# From the sender of a webhook to its verification

A sender signs the bytes that it sends. Between the socket and `_verify_webhook_signature` stands
`DoubleEncodedJSONMiddleware`, and what is verified is the body as the endpoint reads it. The other
middlewares leave body and headers alone.

## What the middleware changes

A body that is JSON text is written anew, whatever its content type, and the content type becomes
`application/json`. The new body is that of the sender only if the sender has spelled it like
`json.dumps`: with a blank after each colon and comma, with escapes for everything outside ASCII,
and with each member once.

## Main definitions

* `IsSigned` — the header carries the signature of the body
* `Delivered` — the request is accepted behind the middleware
* `arrivesIntact` — the body and the header reach the endpoint

## Main results

* `delivered_iff_arrivesIntact` — which signed requests are accepted
* `rejects_compact_json` — one that is not
-/

namespace OpenLangGraph

open PyString DoubleEncodedJson

variable {ν : Type*}

/-! ### The request -/

/-- The header carries the HMAC of the body, with its timestamp if it has one, which is recent. -/
def IsSigned (env : WebhookEnvironment) (config : WebhookSignatureConfig) (secret headerValue : Str)
    (body : Bytes) : Prop :=
  let parsed := parseSignatureHeader env.unicode.toUnicodeDb headerValue
  parsed.2 = some (env.hmac.hexdigest secret (signedPayload parsed.1 body)) ∧
    IsRecent env config.toleranceSeconds parsed.1

/-- Two bodies that would be signed with one digest under this header are the same. -/
def NoCollision (env : WebhookEnvironment) (secret headerValue : Str) (body body' : Bytes) : Prop :=
  let timestamp := (parseSignatureHeader env.unicode.toUnicodeDb headerValue).1
  env.hmac.hexdigest secret (signedPayload timestamp body') =
      env.hmac.hexdigest secret (signedPayload timestamp body) → body' = body

/-- Behind the middleware the request is accepted. -/
def Delivered (codec : JsonCodec ν) (env : WebhookEnvironment) (config : WebhookSignatureConfig)
    (scope : HttpScope) (chunks : List Bytes) (last : Bytes) : Prop :=
  ∃ body, delivered codec scope (chunked chunks last) = .body body ∧
    verifyWebhookSignature env (some config) body
      (scope.headersAfter codec (chunks.flatten ++ last)) = .ok ()

/-- The body is not written anew, or to what it was in the last message, and then the signature does
not stand in a header of the content type that is replaced. -/
def arrivesIntact (codec : JsonCodec ν) (env : WebhookEnvironment) (config : WebhookSignatureConfig)
    (scope : HttpScope) (chunks : List Bytes) (last : Bytes) : Bool :=
  if scope.isWrapped && !(chunks.flatten ++ last).isEmpty then
    match rewriteBody codec (chunks.flatten ++ last) with
    | .ok newBody => newBody = last &&
        (scope.contentType = applicationJson || env.unicode.lower config.header ≠ contentTypeName)
    | .error .valueError => true
    | .error .other => false
  else true

variable {codec : JsonCodec ν} {env : WebhookEnvironment} {config : WebhookSignatureConfig}
  {scope : HttpScope} {secret headerValue : Str} {chunks : List Bytes} {last : Bytes}

/-! ### The headers -/

/-- Other headers are kept. -/
theorem lookup_replaced {name : Str} (h : name ≠ contentTypeName) (headers : List (Str × Str)) :
    (headers.filter (·.1 ≠ contentTypeName) ++ [(contentTypeName, applicationJson)]).lookup name =
      headers.lookup name := by
  rw [List.lookup_append]
  have hlast : [(contentTypeName, applicationJson)].lookup name = none := by
    simp [List.lookup_cons, beq_eq_false_iff_ne.mpr h]
  rw [hlast, Option.or_none]
  induction headers with
  | nil => rfl
  | cons header headers ih =>
    obtain ⟨name', value⟩ := header
    by_cases hname : name' = contentTypeName
    · rw [List.filter_cons_of_neg (by simp [hname]), ih, List.lookup_cons,
        beq_eq_false_iff_ne.mpr (hname ▸ h)]
    · rw [List.filter_cons_of_pos (by simp [hname]), List.lookup_cons, List.lookup_cons, ih]

/-- The content type is replaced. -/
theorem lookup_contentType_replaced (headers : List (Str × Str)) :
    (headers.filter (·.1 ≠ contentTypeName) ++ [(contentTypeName, applicationJson)]).lookup
      contentTypeName = some applicationJson := by
  rw [List.lookup_append]
  have hnone : (headers.filter (·.1 ≠ contentTypeName)).lookup contentTypeName = none := by
    rw [List.lookup_eq_none_iff]
    intro header hheader
    simpa using Ne.symm (by simpa using (List.mem_filter.mp hheader).2)
  rw [hnone, Option.none_or]
  simp

/-! ### The verification -/

/-- What is accepted is what is signed. -/
theorem verifyWebhookSignature_iff_isSigned {headers : List (Str × Str)} {body : Bytes}
    (halgorithm : config.algorithm = hmacSha256Name)
    (hsecret : truthy (env.getenv config.secretEnv) = some secret)
    (hheader : truthy (headers.lookup (env.unicode.lower config.header)) = some headerValue) :
    verifyWebhookSignature env (some config) body headers = .ok () ↔
      IsSigned env config secret headerValue body := by
  rw [verifyWebhookSignature_eq_ok_iff]
  constructor
  · rintro ⟨headerValue', secret', signature, hheader', hsecret', hsignature, hverify⟩
    obtain rfl := Option.some.inj (hheader.symm.trans hheader')
    obtain rfl := Option.some.inj (hsecret.symm.trans hsecret')
    obtain ⟨-, hrecent, hdigest⟩ := verifySignature_eq_ok_iff.mp hverify
    exact ⟨hdigest ▸ (Option.filter_eq_some_iff.mp hsignature).1, hrecent⟩
  · rintro ⟨hsignature, hrecent⟩
    refine ⟨headerValue, secret, _, hheader, hsecret, ?_,
      verifySignature_eq_ok_iff.mpr ⟨halgorithm, hrecent, rfl⟩⟩
    rw [hsignature]
    exact truthy_eq_some_iff.mpr ⟨rfl, hexdigest_ne_nil _ _⟩

/-- The content type that the middleware sets is no signature: it is too short. -/
theorem not_isSigned_applicationJson (body : Bytes) :
    ¬ IsSigned env config secret applicationJson body := by
  rintro ⟨hsignature, -⟩
  have hparse : parseSignatureHeader env.unicode.toUnicodeDb applicationJson =
      (none, some (strip env.unicode.isSpace applicationJson)) := by
    rw [parseSignatureHeader, if_neg (by decide), if_neg (by decide)]
  rw [hparse] at hsignature
  have hlength := env.hmac.length_hexdigest secret (signedPayload none body)
  rw [← Option.some.inj hsignature] at hlength
  have hle := length_strip_le env.unicode.isSpace applicationJson
  have hshort : applicationJson.length = 16 := by decide
  omega

/-! ### Delivery -/

theorem delivered_iff_of_body {body : Bytes} {headers : List (Str × Str)}
    (hdelivered : delivered codec scope (chunked chunks last) = .body body)
    (hheaders : scope.headersAfter codec (chunks.flatten ++ last) = headers) :
    Delivered codec env config scope chunks last ↔
      verifyWebhookSignature env (some config) body headers = .ok () := by
  rw [Delivered, hdelivered, hheaders]
  constructor
  · rintro ⟨body', hbody, h⟩
    rwa [Drained.body.inj hbody]
  · exact fun h => ⟨body, rfl, h⟩

/-- A body that is written anew. -/
theorem delivered_iff_of_newBody {newBody : Bytes}
    (halgorithm : config.algorithm = hmacSha256Name)
    (hsecret : truthy (env.getenv config.secretEnv) = some secret)
    (hheader : truthy (scope.headers.lookup (env.unicode.lower config.header)) = some headerValue)
    (hwrapped : (scope.isWrapped && !(chunks.flatten ++ last).isEmpty) = true)
    (hnew : rewriteBody codec (chunks.flatten ++ last) = .ok newBody) :
    Delivered codec env config scope chunks last ↔
      IsSigned env config secret headerValue (chunks.flatten ++ newBody) ∧
        (scope.contentType = applicationJson ∨
          env.unicode.lower config.header ≠ contentTypeName) := by
  have hdelivered : delivered codec scope (chunked chunks last) =
      .body (chunks.flatten ++ newBody) := by
    rw [delivered_chunked, lastRead, if_pos hwrapped, hnew]
  by_cases hjson : scope.contentType = applicationJson
  · have hheaders : scope.headersAfter codec (chunks.flatten ++ last) = scope.headers := by
      rw [HttpScope.headersAfter, hwrapped, hnew]
      exact if_neg (not_not.mpr hjson)
    rw [delivered_iff_of_body hdelivered hheaders,
      verifyWebhookSignature_iff_isSigned halgorithm hsecret hheader]
    exact (and_iff_left (.inl hjson)).symm
  · have hheaders : scope.headersAfter codec (chunks.flatten ++ last) =
        scope.headers.filter (·.1 ≠ contentTypeName) ++ [(contentTypeName, applicationJson)] := by
      rw [HttpScope.headersAfter, hwrapped, hnew]
      exact if_pos hjson
    rw [delivered_iff_of_body hdelivered hheaders]
    by_cases hname : env.unicode.lower config.header = contentTypeName
    · have htype : truthy ((scope.headers.filter (·.1 ≠ contentTypeName) ++
          [(contentTypeName, applicationJson)]).lookup (env.unicode.lower config.header)) =
            some applicationJson := by
        rw [hname, lookup_contentType_replaced]
        exact truthy_eq_some_iff.mpr ⟨rfl, by decide⟩
      rw [verifyWebhookSignature_iff_isSigned halgorithm hsecret htype]
      exact iff_of_false (not_isSigned_applicationJson _) fun h => h.2.elim hjson (· hname)
    · rw [verifyWebhookSignature_iff_isSigned halgorithm hsecret
        (by rw [lookup_replaced hname]; exact hheader)]
      exact (and_iff_left (.inr hname)).symm

/-- **Delivery.** A request that carries the signature of its body is accepted behind the middleware
exactly if body and header arrive intact, unless the body that is written anew happens to have the
digest of another one. -/
theorem delivered_iff_arrivesIntact (chunks : List Bytes) (last : Bytes)
    (halgorithm : config.algorithm = hmacSha256Name)
    (hsecret : truthy (env.getenv config.secretEnv) = some secret)
    (hheader : truthy (scope.headers.lookup (env.unicode.lower config.header)) = some headerValue)
    (hsigned : IsSigned env config secret headerValue (chunks.flatten ++ last))
    (hcollision : ∀ newBody, rewriteBody codec (chunks.flatten ++ last) = .ok newBody →
      NoCollision env secret headerValue (chunks.flatten ++ last) (chunks.flatten ++ newBody)) :
    Delivered codec env config scope chunks last ↔
      arrivesIntact codec env config scope chunks last = true := by
  rw [arrivesIntact]
  have hunchanged (hdelivered : delivered codec scope (chunked chunks last) =
        .body (chunks.flatten ++ last))
      (hheaders : scope.headersAfter codec (chunks.flatten ++ last) = scope.headers) :
      Delivered codec env config scope chunks last :=
    (delivered_iff_of_body hdelivered hheaders).mpr
      ((verifyWebhookSignature_iff_isSigned halgorithm hsecret hheader).mpr hsigned)
  by_cases hwrapped : (scope.isWrapped && !(chunks.flatten ++ last).isEmpty) = true
  · rw [if_pos hwrapped]
    cases hnew : rewriteBody codec (chunks.flatten ++ last) with
    | ok newBody =>
      rw [delivered_iff_of_newBody halgorithm hsecret hheader hwrapped hnew]
      simp only [Bool.and_eq_true, Bool.or_eq_true, decide_eq_true_eq]
      refine and_congr_left fun _ => ⟨fun h => ?_, ?_⟩
      · have hdigest := Option.some.inj (h.1.symm.trans hsigned.1)
        exact List.append_cancel_left (hcollision newBody hnew hdigest)
      · rintro rfl
        exact hsigned
    | error e =>
      cases e with
      | valueError =>
        refine iff_of_true (hunchanged (delivered_of_valueError hnew) ?_) rfl
        rw [HttpScope.headersAfter, hwrapped, hnew]
      | other =>
        refine iff_of_false ?_ Bool.false_ne_true
        rintro ⟨body, hbody, -⟩
        rw [delivered_chunked, lastRead, if_pos hwrapped, hnew] at hbody
        exact Drained.noConfusion hbody
  · rw [if_neg hwrapped]
    refine iff_of_true (hunchanged ?_ ?_) rfl
    · rw [delivered_chunked, lastRead, if_neg hwrapped]
    · rw [HttpScope.headersAfter, Bool.eq_false_iff.mpr hwrapped]

/-! ### Two spellings -/

/-- `{"a":1}` -/
def compactBody : Bytes := [123, 34, 97, 34, 58, 49, 125]

/-- `{"a": 1}`, as `json.dumps` writes it. -/
def spacedBody : Bytes := [123, 34, 97, 34, 58, 32, 49, 125]

/-- A codec that knows these two texts. -/
def twoSpellings : JsonCodec Unit where
  loadsBytes body :=
    if body = compactBody ∨ body = spacedBody then .ok () else .error .valueError
  loads _ := .error .valueError
  asStr _ := none
  dumps _ := .ok spacedBody

/-- Their HMACs with the secret `s`. -/
def spellingsHmac : HmacSha256 :=
  knownDigests
    [(compactBody, "37beaf650f70b40ec9706929c2e9d835cbd63729988f48781e6383a147215f07".toList),
      (spacedBody, "949bcc317b02bd1bb67ed8ab506dc02639b2f4d1b137997641bcd66d30bae32b".toList)]
    (by decide)

def spellingsEnvironment : WebhookEnvironment := ⟨.ascii, fun _ => some ['s'], spellingsHmac, 0⟩

def signedHeader (body : Bytes) : Str := sha256Prefix ++ spellingsHmac.hexdigest ['s'] body

def signedScope (body : Bytes) : HttpScope :=
  ⟨"POST".toList, [(contentTypeName, applicationJson), ("x-signature".toList, signedHeader body)]⟩

theorem lookup_signedHeader (body : Bytes) :
    truthy ((signedScope body).headers.lookup
      (spellingsEnvironment.unicode.lower sampleConfig.header)) = some (signedHeader body) := by
  have hlower : spellingsEnvironment.unicode.lower sampleConfig.header = "x-signature".toList := by
    decide
  have hne : ("x-signature".toList == contentTypeName) = false := by decide
  rw [hlower, signedScope, List.lookup_cons, hne]
  simp only [List.lookup_cons_self]
  exact truthy_eq_some_iff.mpr ⟨rfl, List.cons_ne_nil _ _⟩

theorem algorithm_sampleConfig : sampleConfig.algorithm = hmacSha256Name := rfl

theorem getenv_spellings :
    truthy (spellingsEnvironment.getenv sampleConfig.secretEnv) = some ['s'] :=
  rfl

theorem parseSignatureHeader_signedHeader (body : Bytes) :
    parseSignatureHeader spellingsEnvironment.unicode.toUnicodeDb (signedHeader body) =
      (none, some (spellingsHmac.hexdigest ['s'] body)) :=
  parseSignatureHeader_sha256 spellingsEnvironment _ ['s'] body

theorem isSigned_signedHeader (body : Bytes) :
    IsSigned spellingsEnvironment sampleConfig ['s'] (signedHeader body) body := by
  rw [IsSigned, parseSignatureHeader_signedHeader]
  exact ⟨rfl, fun t ht => absurd ht (Option.not_mem_none t)⟩

/-- The spelling of `json.dumps` arrives. -/
theorem delivered_iff_arrivesIntact_spaced :
    Delivered twoSpellings spellingsEnvironment sampleConfig (signedScope spacedBody) []
      spacedBody := by
  have hintact : arrivesIntact twoSpellings spellingsEnvironment sampleConfig
      (signedScope spacedBody) [] spacedBody = true := by decide
  refine (delivered_iff_arrivesIntact [] spacedBody algorithm_sampleConfig getenv_spellings
    (lookup_signedHeader spacedBody)
    (isSigned_signedHeader spacedBody) ?_).mpr hintact
  intro newBody hnew _
  exact (Except.ok.inj hnew).symm

/-- The other one does not. -/
theorem rejects_compact_json :
    ¬ ∀ (codec : JsonCodec Unit) (env : WebhookEnvironment) (config : WebhookSignatureConfig)
      (scope : HttpScope) (secret headerValue : Str) (last : Bytes),
      config.algorithm = hmacSha256Name → truthy (env.getenv config.secretEnv) = some secret →
      truthy (scope.headers.lookup (env.unicode.lower config.header)) = some headerValue →
      IsSigned env config secret headerValue last → Delivered codec env config scope [] last := by
  intro h
  have hdelivered := h twoSpellings spellingsEnvironment sampleConfig (signedScope compactBody)
    ['s'] (signedHeader compactBody) compactBody rfl getenv_spellings
    (lookup_signedHeader compactBody) (isSigned_signedHeader compactBody)
  have hwrapped : ((signedScope compactBody).isWrapped &&
      !(([] : List Bytes).flatten ++ compactBody).isEmpty) = true := by decide
  obtain ⟨⟨hspaced, -⟩, -⟩ := (delivered_iff_of_newBody algorithm_sampleConfig getenv_spellings
    (lookup_signedHeader compactBody) hwrapped rfl).mp hdelivered
  rw [parseSignatureHeader_signedHeader] at hspaced
  exact absurd (congrArg List.head? (Option.some.inj hspaced)) (by decide)

end OpenLangGraph

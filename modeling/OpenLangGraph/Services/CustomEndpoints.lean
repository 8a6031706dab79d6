import OpenLangGraph.Foundation.PercentEncoding
import Mathlib.Data.List.MinMax
import Mathlib.Data.List.Infix

/-!
# The signatures of webhooks

A webhook endpoint accepts a request whose signature header carries the HMAC of its body. A header
may also carry a timestamp, and then the HMAC is that of the timestamp, a dot and the body.

## The two readings of a signed text

Nothing in a header says that the sender has used a timestamp. A signature over `"1700000000.x"` is
one of the body `x` at that time, and one of the body `1700000000.x` at no time at all. The second
reading has no timestamp that could be too old.

## What an attacker can present

Any header and any body, but no HMAC of a text that the sender has not signed: this is `Unforged`.
The HMAC itself is a parameter of which only the form of its result is known.

## Main definitions

* `parseSignatureHeader`, `verifyWebhookSignature`
* `SignedMessage`, `Unforged`, `Authentic`

## Main results

* `authentic_of_carriesTimestamp` — a header with a timestamp authenticates body and time
* `exists_accepted_without_timestamp` — every message that has been sent can be presented as another
  one, at any time
-/

namespace OpenLangGraph

open PyString PercentEncoding

/-! ### The verification -/

/-- `CustomEndpointWebhookSignatureConfig`. -/
structure WebhookSignatureConfig where
  header : Str
  secretEnv : Str
  algorithm : Str
  toleranceSeconds : Option ℤ

def hexDigits : Str := "0123456789abcdef".toList

/-- `hmac.new(secret.encode("utf-8"), payload, hashlib.sha256).hexdigest()` -/
structure HmacSha256 where
  hexdigest : Str → List UInt8 → Str
  length_hexdigest : ∀ (secret : Str) (payload : List UInt8), (hexdigest secret payload).length = 64
  mem_hexdigest : ∀ (secret : Str) (payload : List UInt8),
    (hexdigest secret payload).all hexDigits.contains = true

/-- What the verification asks the outside world. -/
structure WebhookEnvironment where
  unicode : UnicodeDigits
  /-- `os.getenv` -/
  getenv : Str → Option Str
  hmac : HmacSha256
  /-- `int(time.time())` -/
  now : ℤ

inductive WebhookError
  /-- an `HTTPException` -/
  | http (statusCode : ℕ) (detail : String)
  /-- `hmac.compare_digest` takes strings of ASCII characters only -/
  | typeError
  deriving DecidableEq

def sha256Prefix : Str := "sha256=".toList

def timestampPrefix : Str := "t=".toList

def v1Prefix : Str := "v1=".toList

/-- One part of a header: the timestamp and the signature so far, and after it. -/
def readPart (acc : Option Str × Option Str) (part : Str) : Option Str × Option Str :=
  if timestampPrefix.isPrefixOf part then (some (part.drop 2), acc.2)
  else if v1Prefix.isPrefixOf part then (acc.1, some (part.drop 3))
  else if sha256Prefix.isPrefixOf part then (acc.1, some (part.drop 7))
  else acc

/-- `_parse_signature_header`: the timestamp and the signature. -/
def parseSignatureHeader (U : UnicodeDb) (headerValue : Str) : Option Str × Option Str :=
  if timestampPrefix <:+: headerValue ∨ v1Prefix <:+: headerValue then
    ((splitSub [','] headerValue).map (strip U.isSpace)).foldl readPart (none, none)
  else if sha256Prefix.isPrefixOf headerValue then (none, some (headerValue.drop 7))
  else (none, some (strip U.isSpace headerValue))

/-- `_enforce_timestamp_tolerance`. -/
def enforceTimestampTolerance (env : WebhookEnvironment) (timestamp : Str)
    (toleranceSeconds : Option ℤ) : Except WebhookError Unit :=
  match toleranceSeconds with
  | none => .ok ()
  | some tolerance =>
    match env.unicode.int timestamp with
    | none => .error (.http 400 "Invalid webhook timestamp")
    | some value =>
      if (env.now - value).natAbs > tolerance then
        .error (.http 401 "Webhook signature timestamp outside tolerance")
      else .ok ()

/-- The text of which the signature is to be the HMAC. -/
def signedPayload (timestamp : Option Str) (rawBody : List UInt8) : List UInt8 :=
  match truthy timestamp with
  | some timestamp => encodeUtf8 timestamp ++ encodeUtf8 ['.'] ++ rawBody
  | none => rawBody

/-- The end of the verification: `hmac.compare_digest`. -/
def compareDigest (expected signature : Str) : Except WebhookError Unit :=
  if signature.any fun c => 128 ≤ c.toNat then .error .typeError
  else if expected = signature then .ok ()
  else .error (.http 401 "Invalid webhook signature")

def hmacSha256Name : Str := "hmac-sha256".toList

/-- The verification of a header with a signature. -/
def verifySignature (env : WebhookEnvironment) (config : WebhookSignatureConfig) (secret : Str)
    (rawBody : List UInt8) (timestamp : Option Str) (signature : Str) :
    Except WebhookError Unit :=
  if config.algorithm ≠ hmacSha256Name then
    .error (.http 400
      ("Unsupported webhook signature algorithm '" ++ String.ofList config.algorithm ++ "'"))
  else
    (match truthy timestamp with
      | some timestamp => enforceTimestampTolerance env timestamp config.toleranceSeconds
      | none => .ok ()).bind fun _ =>
    compareDigest (env.hmac.hexdigest secret (signedPayload timestamp rawBody)) signature

/-- `_verify_webhook_signature`, for the headers with their names in lower case. -/
def verifyWebhookSignature (env : WebhookEnvironment) (config : Option WebhookSignatureConfig)
    (rawBody : List UInt8) (headers : List (Str × Str)) : Except WebhookError Unit :=
  match config with
  | none => .error (.http 500 "Webhook signature configuration is missing")
  | some config =>
    match truthy (headers.lookup (env.unicode.lower config.header)) with
    | none => .error (.http 401 "Missing webhook signature header")
    | some headerValue =>
      match truthy (env.getenv config.secretEnv) with
      | none => .error (.http 500
          ("Webhook secret env '" ++ String.ofList config.secretEnv ++ "' is not set"))
      | some secret =>
        let (timestamp, signature) := parseSignatureHeader env.unicode.toUnicodeDb headerValue
        match truthy signature with
        | none => .error (.http 401 "Invalid webhook signature header")
        | some signature => verifySignature env config secret rawBody timestamp signature

/-! ### What is accepted -/

/-- A timestamp that is given is recent. -/
def IsRecent (env : WebhookEnvironment) (tolerance : Option ℤ) (timestamp : Option Str) : Prop :=
  ∀ t ∈ truthy timestamp, ∀ seconds ∈ tolerance,
    ∃ value, env.unicode.int t = some value ∧ (env.now - value).natAbs ≤ seconds

variable {env : WebhookEnvironment} {config : WebhookSignatureConfig} {rawBody : List UInt8}
  {headers : List (Str × Str)}

theorem enforceTimestampTolerance_eq_ok_iff {timestamp : Str} {tolerance : Option ℤ} :
    enforceTimestampTolerance env timestamp tolerance = .ok () ↔ ∀ seconds ∈ tolerance,
      ∃ value, env.unicode.int timestamp = some value ∧ (env.now - value).natAbs ≤ seconds := by
  rcases tolerance with _ | seconds
  · simp [enforceTimestampTolerance]
  · rw [enforceTimestampTolerance]
    cases env.unicode.int timestamp with
    | none => simp
    | some value => simp

/-- A digest is compared as it is: its digits are ASCII characters. -/
theorem compareDigest_eq_ok_iff {secret : Str} {payload : List UInt8} {signature : Str} :
    compareDigest (env.hmac.hexdigest secret payload) signature = .ok () ↔
      env.hmac.hexdigest secret payload = signature := by
  constructor
  · intro h
    rw [compareDigest] at h
    split at h
    · cases h
    · split at h
      · assumption
      · cases h
  · rintro rfl
    have hall : (hexDigits.all fun c => c.toNat < 128) = true := by decide
    have hascii : ((env.hmac.hexdigest secret payload).any fun c => 128 ≤ c.toNat) = false := by
      rw [List.any_eq_false]
      intro c hc
      have hhex := List.all_eq_true.mp (env.hmac.mem_hexdigest secret payload) c hc
      have hlt := List.all_eq_true.mp hall c (List.contains_iff_mem.mp hhex)
      simp only [decide_eq_true_eq] at hlt ⊢
      omega
    rw [compareDigest, hascii, if_neg Bool.false_ne_true, if_pos rfl]

theorem verifySignature_eq_ok_iff {secret : Str} {timestamp : Option Str} {signature : Str} :
    verifySignature env config secret rawBody timestamp signature = .ok () ↔
      config.algorithm = hmacSha256Name ∧ IsRecent env config.toleranceSeconds timestamp ∧
        env.hmac.hexdigest secret (signedPayload timestamp rawBody) = signature := by
  rw [verifySignature]
  by_cases halgorithm : config.algorithm = hmacSha256Name
  · rw [if_neg (not_not.mpr halgorithm), ← compareDigest_eq_ok_iff]
    simp only [halgorithm, true_and, IsRecent]
    cases truthy timestamp with
    | none => simp [Except.bind]
    | some t =>
      simp only [Option.mem_some_iff, forall_eq']
      rw [← enforceTimestampTolerance_eq_ok_iff]
      cases enforceTimestampTolerance env t config.toleranceSeconds with
      | ok u => simp [Except.bind]
      | error e => simp [Except.bind]
  · rw [if_pos halgorithm]
    simp [halgorithm]

/-- **Acceptance.** -/
theorem verifyWebhookSignature_eq_ok_iff :
    verifyWebhookSignature env (some config) rawBody headers = .ok () ↔
      ∃ headerValue secret signature,
        truthy (headers.lookup (env.unicode.lower config.header)) = some headerValue ∧
        truthy (env.getenv config.secretEnv) = some secret ∧
        truthy (parseSignatureHeader env.unicode.toUnicodeDb headerValue).2 = some signature ∧
        verifySignature env config secret rawBody
          (parseSignatureHeader env.unicode.toUnicodeDb headerValue).1 signature = .ok () := by
  rw [verifyWebhookSignature]
  cases truthy (headers.lookup (env.unicode.lower config.header)) with
  | none => simp
  | some headerValue =>
    cases truthy (env.getenv config.secretEnv) with
    | none => simp
    | some secret =>
      simp only [Option.some.injEq, exists_and_left, exists_eq_left']
      cases truthy (parseSignatureHeader env.unicode.toUnicodeDb headerValue).2 with
      | none => simp
      | some signature => simp

/-! ### The sender and the attacker -/

/-- A message that the sender has signed, with the time if it is signed along. -/
structure SignedMessage where
  timestamp : Option ℤ
  body : List UInt8

/-- The text of which the sender has made the HMAC. -/
def SignedMessage.payload (m : SignedMessage) : List UInt8 :=
  signedPayload (m.timestamp.map intRepr) m.body

/-- HMAC is not forged: if the signature of the header is the HMAC of what is verified, then the
sender has signed this text. -/
def Unforged (env : WebhookEnvironment) (secret : Str) (signed : List SignedMessage)
    (headerValue : Str) (rawBody : List UInt8) : Prop :=
  let parsed := parseSignatureHeader env.unicode.toUnicodeDb headerValue
  parsed.2 = some (env.hmac.hexdigest secret (signedPayload parsed.1 rawBody)) →
    ∃ m ∈ signed, m.payload = signedPayload parsed.1 rawBody

/-- The sender has signed this body, at a time within the tolerance. -/
def Authentic (now tolerance : ℤ) (signed : List SignedMessage) (rawBody : List UInt8) : Prop :=
  ∃ m ∈ signed, m.body = rawBody ∧ ∃ time ∈ m.timestamp, (now - time).natAbs ≤ tolerance

/-- The header has a timestamp, and no message that was signed without one reads as this timestamp
and the body. -/
def carriesTimestamp (U : UnicodeDb) (signed : List SignedMessage) (headerValue : Str)
    (rawBody : List UInt8) : Bool :=
  let timestamp := (parseSignatureHeader U headerValue).1
  (truthy timestamp).isSome &&
    signed.all fun m => m.timestamp.isSome || m.body ≠ signedPayload timestamp rawBody

theorem signedPayload_of_truthy {timestamp : Option Str} {t : Str} (h : truthy timestamp = some t)
    (rawBody : List UInt8) :
    signedPayload timestamp rawBody = encodeUtf8 t ++ encodeUtf8 ['.'] ++ rawBody := by
  rw [signedPayload, h]

theorem intRepr_ne_nil (n : ℤ) : intRepr n ≠ [] := by
  rw [intRepr]
  split
  · exact List.cons_ne_nil _ _
  · exact Nat.toDigits_ne_nil

theorem truthy_intRepr (n : ℤ) : truthy (some (intRepr n)) = some (intRepr n) := by
  rw [truthy, Option.filter_some, if_pos (decide_eq_true (intRepr_ne_nil n))]

theorem dot_not_mem_intRepr (n : ℤ) : '.' ∉ intRepr n := by
  have hdigits : '.' ∉ decimalRepr n.natAbs :=
    fun h => absurd (isDigit_of_mem_decimalRepr h) (by decide)
  rw [intRepr]
  split
  · exact List.not_mem_cons_of_ne_of_not_mem (by decide) hdigits
  · exact hdigits

/-- A number has no dot. -/
theorem dot_not_mem_of_int {U : UnicodeDigits} {s : Str} {n : ℤ} (h : U.int s = some n) :
    '.' ∉ s := by
  intro hdot
  have hdecimal : U.decimal '.' = none := U.decimal_ascii '.' (by decide) (by decide)
  have hspace : U.isSpace '.' = false := (U.isSpace_ascii '.' (by decide)).trans (by decide)
  have hmem := U.mem_of_int h '.' hdot
  simp [hdecimal, hspace] at hmem

/-- A text splits into a number and a body in one way only. -/
theorem split_unique {s t : Str} {body body' : List UInt8} (hs : '.' ∉ s) (ht : '.' ∉ t)
    (h : encodeUtf8 s ++ encodeUtf8 ['.'] ++ body = encodeUtf8 t ++ encodeUtf8 ['.'] ++ body') :
    s = t ∧ body = body' := by
  have hdot : encodeUtf8 ['.'] = [UInt8.ofNat '.'.toNat] := rfl
  rw [hdot, List.append_assoc, List.append_assoc, List.singleton_append,
    List.singleton_append] at h
  obtain ⟨hst, hbody⟩ := append_cons_inj_left
    (fun hmem => hs (mem_of_mem_encodeUtf8 (by decide) hmem))
    (fun hmem => ht (mem_of_mem_encodeUtf8 (by decide) hmem)) h
  exact ⟨encodeUtf8_injective hst, hbody⟩

/-- **Authenticity.** A header that carries a timestamp is accepted only with a body that the sender
has signed, at a time within the tolerance. -/
theorem authentic_of_carriesTimestamp {tolerance : ℤ} {secret headerValue : Str}
    {signed : List SignedMessage} (htolerance : config.toleranceSeconds = some tolerance)
    (hsecret : env.getenv config.secretEnv = some secret)
    (hheader : headers.lookup (env.unicode.lower config.header) = some headerValue)
    (hunforged : Unforged env secret signed headerValue rawBody)
    (htimestamp : carriesTimestamp env.unicode.toUnicodeDb signed headerValue rawBody = true)
    (haccept : verifyWebhookSignature env (some config) rawBody headers = .ok ()) :
    Authentic env.now tolerance signed rawBody := by
  obtain ⟨headerValue', secret', signature, hvalue, hsecret', hsignature, hverify⟩ :=
    verifyWebhookSignature_eq_ok_iff.mp haccept
  rw [hheader] at hvalue
  rw [hsecret] at hsecret'
  obtain ⟨rfl, -⟩ := truthy_eq_some_iff.mp hvalue
  obtain ⟨rfl, -⟩ := truthy_eq_some_iff.mp hsecret'
  obtain ⟨-, hrecent, hdigest⟩ := verifySignature_eq_ok_iff.mp hverify
  rw [carriesTimestamp, Bool.and_eq_true, List.all_eq_true] at htimestamp
  obtain ⟨hsome, hsigned⟩ := htimestamp
  obtain ⟨t, ht⟩ := Option.isSome_iff_exists.mp hsome
  obtain ⟨time, htime, hclose⟩ := hrecent t ht tolerance htolerance
  have hsome' := (Option.filter_eq_some_iff.mp hsignature).1
  obtain ⟨m, hm, hpayload⟩ := hunforged (hdigest ▸ hsome')
  refine ⟨m, hm, ?_⟩
  cases hstamp : m.timestamp with
  | none =>
    -- the text was signed without a timestamp, and reads as one with it
    have hbody : m.body = m.payload := by rw [SignedMessage.payload, hstamp]; rfl
    have hno := hsigned m hm
    simp [hstamp, hbody.trans hpayload] at hno
  | some n =>
    rw [SignedMessage.payload, hstamp, Option.map_some,
      signedPayload_of_truthy (truthy_intRepr n), signedPayload_of_truthy ht] at hpayload
    obtain ⟨rfl, hbody⟩ := split_unique (dot_not_mem_intRepr n) (dot_not_mem_of_int htime) hpayload
    obtain rfl : n = time := Option.some.inj ((env.unicode.int_intRepr n).symm.trans htime)
    exact ⟨hbody, n, rfl, hclose⟩

/-! ### Without a timestamp -/

theorem hexdigest_ne_nil (secret : Str) (payload : List UInt8) :
    env.hmac.hexdigest secret payload ≠ [] := by
  have hlength := env.hmac.length_hexdigest secret payload
  exact List.ne_nil_of_length_pos (by omega)

/-- A header that names the algorithm has no timestamp. -/
theorem parseSignatureHeader_sha256 (env : WebhookEnvironment) (U : UnicodeDb) (secret : Str)
    (payload : List UInt8) :
    parseSignatureHeader U (sha256Prefix ++ env.hmac.hexdigest secret payload) =
      (none, some (env.hmac.hexdigest secret payload)) := by
  have hmem : ∀ c ∈ sha256Prefix ++ env.hmac.hexdigest secret payload, c ≠ 't' ∧ c ≠ 'v' := by
    intro c hc
    rcases List.mem_append.mp hc with hc | hc
    · have hall : (sha256Prefix.all fun c => c ≠ 't' && c ≠ 'v') = true := by decide
      simpa using List.all_eq_true.mp hall c hc
    · have hall : (hexDigits.all fun c => c ≠ 't' && c ≠ 'v') = true := by decide
      have hhex := List.all_eq_true.mp (env.hmac.mem_hexdigest secret payload) c hc
      simpa using List.all_eq_true.mp hall c (List.contains_iff_mem.mp hhex)
  have ht : ¬ timestampPrefix <:+: sha256Prefix ++ env.hmac.hexdigest secret payload :=
    fun h => (hmem 't' (h.subset (by decide))).1 rfl
  have hv : ¬ v1Prefix <:+: sha256Prefix ++ env.hmac.hexdigest secret payload :=
    fun h => (hmem 'v' (h.subset (by decide))).2 rfl
  rw [parseSignatureHeader, if_neg (not_or.mpr ⟨ht, hv⟩),
    if_pos (List.isPrefixOf_iff_prefix.mpr (List.prefix_append _ _))]
  rfl

/-- The bodies that a message is signed with are shorter than the text that is signed. -/
theorem SignedMessage.length_lt_payload {m : SignedMessage} {n : ℤ} (h : m.timestamp = some n) :
    m.body.length < m.payload.length := by
  have hdot : (encodeUtf8 ['.']).length = 1 := rfl
  rw [SignedMessage.payload, h, Option.map_some, signedPayload_of_truthy (truthy_intRepr n),
    List.length_append, List.length_append, hdot]
  omega

/-- **Replay.** Whatever the sender has signed, if anything, an attacker can present a text that the
sender has signed as the body of a request without a timestamp. It is accepted at every time, and
the sender has not signed it as a body with a timestamp. -/
theorem exists_accepted_without_timestamp {secret : Str} {signed : List SignedMessage}
    (hsecret : truthy (env.getenv config.secretEnv) = some secret)
    (halgorithm : config.algorithm = hmacSha256Name) (hsigned : signed ≠ []) :
    ∃ headerValue rawBody, Unforged env secret signed headerValue rawBody ∧
      (∀ now, verifyWebhookSignature { env with now } (some config) rawBody
        [(env.unicode.lower config.header, headerValue)] = .ok ()) ∧
      ∀ now tolerance, ¬ Authentic now tolerance signed rawBody := by
  obtain ⟨m, hargmax⟩ := Option.ne_none_iff_exists'.mp
    (mt List.argmax_eq_none.mp hsigned : List.argmax (fun m => m.payload.length) signed ≠ none)
  have hm := List.argmax_mem hargmax
  have hparse := parseSignatureHeader_sha256 env env.unicode.toUnicodeDb secret m.payload
  obtain ⟨headerValue, hvalue⟩ :
      ∃ value, value = sha256Prefix ++ env.hmac.hexdigest secret m.payload := ⟨_, rfl⟩
  rw [← hvalue] at hparse
  refine ⟨headerValue, m.payload, ?_, fun now => ?_, ?_⟩
  · intro _
    rw [hparse]
    exact ⟨m, hm, rfl⟩
  · refine verifyWebhookSignature_eq_ok_iff.mpr ⟨headerValue, secret,
      env.hmac.hexdigest secret m.payload, ?_, hsecret, ?_,
      verifySignature_eq_ok_iff.mpr ⟨halgorithm, ?_, ?_⟩⟩
    · exact truthy_eq_some_iff.mpr ⟨by simp [optOrEmpty], hvalue ▸ List.cons_ne_nil _ _⟩
    · rw [hparse]
      exact truthy_eq_some_iff.mpr ⟨rfl, hexdigest_ne_nil _ _⟩
    · rw [hparse]
      exact fun t ht => absurd ht (Option.not_mem_none t)
    · rw [hparse]
      rfl
  · rintro now tolerance ⟨m', hm', hbody, time, htime, -⟩
    have hle := List.le_of_mem_argmax hm' (Option.mem_def.mpr hargmax)
    have hlt := SignedMessage.length_lt_payload htime
    rw [hbody] at hlt
    omega

/-! ### One message -/

/-- The digests of some texts. -/
def knownDigests (known : List (List UInt8 × Str))
    (h : known.all fun e => e.2.length = 64 && e.2.all hexDigits.contains) : HmacSha256 where
  hexdigest _ payload := (known.lookup payload).getD (List.replicate 64 '0')
  length_hexdigest _ payload := by
    cases hlookup : known.lookup payload with
    | none => simp
    | some digest =>
      obtain ⟨l, l', rfl, -⟩ := List.lookup_eq_some_iff.mp hlookup
      simp_all
  mem_hexdigest _ payload := by
    cases hlookup : known.lookup payload with
    | none => decide
    | some digest =>
      obtain ⟨l, l', rfl, -⟩ := List.lookup_eq_some_iff.mp hlookup
      simp_all

/-- The HMACs of `1.` and `1.x` with the secret `s`. -/
def sampleHmac : HmacSha256 :=
  knownDigests
    [([49, 46], "7845f55296e832a0ffeb7b3aa8d5dc4dc995a2d0de16b76379cff0f81f072e1a".toList),
      ([49, 46, 120], "82e21d3835959d69636bc0eb5dc175351c881f8e1358e14feb992898de41fce6".toList)]
    (by decide)

def sampleEnvironment (now : ℤ) : WebhookEnvironment :=
  ⟨.ascii, fun _ => some ['s'], sampleHmac, now⟩

def sampleConfig : WebhookSignatureConfig :=
  ⟨"x-signature".toList, "SECRET".toList, hmacSha256Name, some 300⟩

def sampleHeader : Str := "t=1,v1=".toList ++ sampleHmac.hexdigest ['s'] [49, 46, 120]

/-- A body `x`, signed at the time 1 and received at the time 2. -/
theorem authentic_of_carriesTimestamp_one : Authentic 2 300 [⟨some 1, [120]⟩] [120] :=
  @authentic_of_carriesTimestamp (sampleEnvironment 2) sampleConfig [120]
    [("x-signature".toList, sampleHeader)] 300 ['s'] sampleHeader [⟨some 1, [120]⟩] rfl rfl rfl
    (fun _ => ⟨⟨some 1, [120]⟩, List.mem_singleton_self _, by decide⟩) (by decide) (by decide)

/-- An empty body was signed at the time 1. Much later the signed text `1.` is accepted as a body of
its own. -/
theorem accepts_replay :
    ¬ ∀ (env : WebhookEnvironment) (config : WebhookSignatureConfig) (tolerance : ℤ)
      (secret headerValue : Str) (signed : List SignedMessage) (rawBody : List UInt8)
      (headers : List (Str × Str)), config.toleranceSeconds = some tolerance →
      env.getenv config.secretEnv = some secret →
      headers.lookup (env.unicode.lower config.header) = some headerValue →
      Unforged env secret signed headerValue rawBody →
      verifyWebhookSignature env (some config) rawBody headers = .ok () →
      Authentic env.now tolerance signed rawBody := by
  intro h
  obtain ⟨headerValue, rawBody, hunforged, haccept, hnot⟩ :=
    @exists_accepted_without_timestamp (sampleEnvironment 1000000) sampleConfig ['s']
      [⟨some 1, []⟩] rfl rfl (List.cons_ne_nil _ _)
  exact hnot _ _ (h _ sampleConfig 300 ['s'] headerValue _ rawBody _ rfl rfl (by simp) hunforged
    (haccept 1000000))

end OpenLangGraph

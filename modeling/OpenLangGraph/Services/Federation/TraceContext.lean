import OpenLangGraph.Services.Federation.ContextPropagation

/-!
# The trace and the baggage of a call

A call carries its trace in the `traceparent` header and its baggage in the `baggage` header. What
the receiver reads from them is what the sender has put there: the identifiers and the flags of the
trace, the span of the sender as the parent, and every item of the baggage.

## The separators

`to_headers` puts quoted keys and values between `=` and `,`, and quoted text has no separators and
no white space. So the header falls apart into the items as they were written, and stripping them
changes nothing. The limits of `from_headers` count characters after unquoting, but the size of the
whole header before it.

## Main definitions

* `IsTraced` — the contexts that keep to the formats and the limits

## Main results

* `validateTraceparent_traceparent` — the trace is read back
* `parseBaggage_baggageItems` — the baggage is read back
* `fromHeaders_toHeaders` — both
-/

namespace OpenLangGraph

namespace ContextPropagation

open PyString PercentEncoding

/-! ### Hexadecimal digits -/

/-- The digits in the alphabet of the identifiers, and what holds of them. -/
theorem isHexChar_spec {c : Char} (hc : isHexChar c = true) :
    c.toNat < 128 ∧ c.toLower = c ∧ c ≠ '-' ∧ c ≠ '\n' := by
  have hascii : c.toNat < 128 := by
    rw [isHexChar, Bool.or_eq_true, Bool.and_eq_true, decide_eq_true_eq, decide_eq_true_eq] at hc
    rcases hc with hdigit | ⟨-, hf⟩
    · rw [Char.isDigit, Bool.and_eq_true, decide_eq_true_eq, decide_eq_true_eq] at hdigit
      have hle : c.toNat ≤ 57 := UInt32.le_iff_toNat_le.mp hdigit.2
      omega
    · have hle : c.toNat ≤ 102 := UInt32.le_iff_toNat_le.mp (Char.le_def.mp hf)
      omega
  have hall : ∀ n < 128, isHexChar (Char.ofNat n) = true → (Char.ofNat n).toLower = Char.ofNat n ∧
      Char.ofNat n ≠ '-' ∧ Char.ofNat n ≠ '\n' := by decide +kernel
  have hspec := hall c.toNat hascii
  rw [Char.ofNat_toNat] at hspec
  exact ⟨hascii, hspec hc⟩

/-- The flags are written as two digits, and read back. -/
theorem ofHex_formatHex {n : ℤ} (hn : 0 ≤ n) (hn' : n < 256) :
    (formatHex n).length = 2 ∧ (formatHex n).all isHexChar = true ∧
      (ofHex (formatHex n) : ℤ) = n := by
  have hall : ∀ m < 256, (formatHex (m : ℕ)).length = 2 ∧
      (formatHex (m : ℕ)).all isHexChar = true ∧ ofHex (formatHex (m : ℕ)) = m := by decide +kernel
  obtain ⟨m, rfl⟩ := Int.eq_ofNat_of_zero_le hn
  obtain ⟨hlength, hhex, hvalue⟩ := hall m (by omega)
  exact ⟨hlength, hhex, congrArg Int.ofNat hvalue⟩

/-! ### The traceparent header -/

/-- The contexts of a trace: identifiers of lower-case hexadecimal digits that are not all zero,
flags of one byte, and a baggage that keeps to the limits of the receiver. -/
structure IsTraced (ctx : DistributedExecutionContext Str) : Prop where
  length_traceId : ctx.traceId.length = 32
  hex_traceId : ctx.traceId.all isHexChar = true
  traceId_ne : ctx.traceId ≠ List.replicate 32 '0'
  length_spanId : ctx.spanId.length = 16
  hex_spanId : ctx.spanId.all isHexChar = true
  spanId_ne : ctx.spanId ≠ List.replicate 16 '0'
  traceFlags_nonneg : 0 ≤ ctx.traceFlags
  traceFlags_lt : ctx.traceFlags < 256
  nodup_keys : (ctx.baggage.map Prod.fst).Nodup
  length_baggage : ctx.baggage.length ≤ maxBaggageItems
  length_key : ∀ item ∈ ctx.baggage, item.1.length ≤ 256
  length_value : ∀ item ∈ ctx.baggage, item.2.length ≤ 4096
  length_header : (List.intercalate [','] (ctx.baggageItems id)).length ≤ maxBaggageSize

theorem traceparent_eq_intercalate {ν : Type} (ctx : DistributedExecutionContext ν) :
    ctx.traceparent =
      List.intercalate ['-'] [['0', '0'], ctx.traceId, ctx.spanId, formatHex ctx.traceFlags] := by
  simp [DistributedExecutionContext.traceparent, List.intercalate]

/-- Four groups of hexadecimal digits with dashes between them match. -/
theorem matchTraceparent_intercalate {version traceId spanId flags : Str}
    (hversion : version.length = 2) (htrace : traceId.length = 32) (hspan : spanId.length = 16)
    (hflags : flags.length = 2)
    (hhex : (version ++ traceId ++ spanId ++ flags).all isHexChar = true) :
    matchTraceparent (List.intercalate ['-'] [version, traceId, spanId, flags]) =
      some (version, traceId, spanId, flags) := by
  have hchar : ∀ group ∈ [version, traceId, spanId, flags], ∀ c ∈ group, isHexChar c = true := by
    simp only [List.all_append, Bool.and_eq_true, List.all_eq_true] at hhex
    obtain ⟨⟨⟨h₁, h₂⟩, h₃⟩, h₄⟩ := hhex
    simpa using ⟨h₁, h₂, h₃, h₄⟩
  have hdash : ∀ group ∈ [version, traceId, spanId, flags], '-' ∉ group := fun group hgroup hmem =>
    (isHexChar_spec (hchar group hgroup _ hmem)).2.2.1 rfl
  have hlast : (List.intercalate ['-'] [version, traceId, spanId, flags]).getLast? ≠ some '\n' := by
    intro hlast
    rcases mem_intercalate (List.mem_of_getLast? hlast) with hmem | ⟨group, hgroup, hmem⟩
    · exact absurd hmem (by decide)
    · exact (isHexChar_spec (hchar group hgroup _ hmem)).2.2.2 rfl
  rw [matchTraceparent, if_neg hlast,
    List.splitOn_intercalate '-' hdash (List.cons_ne_nil _ _)]
  exact if_pos ⟨hversion, htrace, hspan, hflags, hhex⟩

/-- **The trace** is read back. -/
theorem validateTraceparent_traceparent (U : UnicodeDb) {ctx : DistributedExecutionContext Str}
    (h : IsTraced ctx) : validateTraceparent U ctx.traceparent =
      some (ctx.traceId, ctx.spanId, ctx.traceFlags) := by
  obtain ⟨hflags, hhex, hvalue⟩ := ofHex_formatHex h.traceFlags_nonneg h.traceFlags_lt
  have hlength : ctx.traceparent.length = 55 := by
    simp [DistributedExecutionContext.traceparent, h.length_traceId, h.length_spanId, hflags]
  have hall : (['0', '0'] ++ ctx.traceId ++ ctx.spanId ++ formatHex ctx.traceFlags).all isHexChar =
      true := by
    rw [List.all_append, List.all_append, List.all_append, h.hex_traceId, h.hex_spanId, hhex]
    decide
  have hchar : ∀ c ∈ ctx.traceparent, c.toNat < 128 ∧ c.toLower = c := by
    intro c hc
    rw [traceparent_eq_intercalate] at hc
    rcases mem_intercalate hc with rfl | ⟨group, hgroup, hc⟩
    · decide
    · have hmem : c ∈ ['0', '0'] ++ ctx.traceId ++ ctx.spanId ++ formatHex ctx.traceFlags := by
        simp only [List.mem_cons, List.not_mem_nil, or_false] at hgroup
        rcases hgroup with rfl | rfl | rfl | rfl <;>
          simp only [List.mem_append, hc, true_or, or_true]
      have hspec := isHexChar_spec (List.all_eq_true.mp hall c hmem)
      exact ⟨hspec.1, hspec.2.1⟩
  have hlower : U.lower ctx.traceparent = ctx.traceparent := by
    rw [U.lower_ascii _ fun c hc => (hchar c hc).1]
    exact (List.map_congr_left fun c hc => (hchar c hc).2).trans (List.map_id _)
  have hne : ¬ (ctx.traceparent = [] ∨ 100 < ctx.traceparent.length) := by
    rintro (hnil | hlong)
    · rw [hnil] at hlength
      exact absurd hlength (by decide)
    · omega
  rw [validateTraceparent, if_neg hne, hlower, traceparent_eq_intercalate,
    matchTraceparent_intercalate rfl h.length_traceId h.length_spanId hflags hall]
  dsimp only
  rw [if_neg (by decide), if_neg h.traceId_ne, if_neg h.spanId_ne, hvalue]

/-! ### The baggage header -/

/-- A quoted string has no white space and none of the separators of the header. -/
theorem mem_quote_spec {s : Str} {c : Char} (hc : c ∈ quote s) :
    c.toNat < 128 ∧ isAsciiSpace c = false ∧ c ≠ ',' ∧ c ≠ '=' := by
  have hall : (('%' :: safe).all fun c =>
      c.toNat < 128 && !isAsciiSpace c && c ≠ ',' && c ≠ '=') = true := by decide +kernel
  have hspec := List.all_eq_true.mp hall c (List.mem_cons.mpr (mem_quote hc))
  simpa [and_assoc] using hspec

/-- An item is split where it was joined. -/
theorem partition_item (k v : Str) :
    partition '=' (quote k ++ '=' :: quote v) = (quote k, true, quote v) :=
  partition_append (fun h => (mem_quote_spec h).2.2.2 rfl) _

/-- Stripping an item changes nothing. -/
theorem strip_item (U : UnicodeTables) (k v : Str) :
    strip U.isSpace (quote k ++ '=' :: quote v) = quote k ++ '=' :: quote v := by
  refine strip_of_forall fun c hc => ?_
  obtain ⟨hascii, hspace⟩ : c.toNat < 128 ∧ isAsciiSpace c = false := by
    rw [List.mem_append, List.mem_cons] at hc
    rcases hc with hc | rfl | hc
    · exact ⟨(mem_quote_spec hc).1, (mem_quote_spec hc).2.1⟩
    · decide
    · exact ⟨(mem_quote_spec hc).1, (mem_quote_spec hc).2.1⟩
  rw [U.isSpace_ascii c hascii, hspace]

/-- The loop over the items, for the items that were written. -/
theorem readBaggage_items (U : UnicodeTables) {items : List (Str × Str)}
    (hkey : ∀ item ∈ items, item.1.length ≤ 256)
    (hvalue : ∀ item ∈ items, item.2.length ≤ 4096) (n : ℕ) (baggage : List (Str × Str))
    (hn : n + items.length ≤ maxBaggageItems) (hnodup : ((baggage ++ items).map Prod.fst).Nodup) :
    readBaggage U.toUnicodeDb id n baggage
      (items.map fun item => quote item.1 ++ '=' :: quote item.2) = baggage ++ items := by
  induction items generalizing n baggage with
  | nil => exact (List.append_nil _).symm
  | cons item items ih =>
    rw [List.length_cons] at hn
    have hk : (unquote (quote item.1)).take 256 = item.1 := by
      rw [unquote_quote]
      exact List.take_of_length_le (hkey item List.mem_cons_self)
    have hv : (unquote (quote item.2)).take 4096 = item.2 := by
      rw [unquote_quote]
      exact List.take_of_length_le (hvalue item List.mem_cons_self)
    have hnew : item.1 ∉ baggage.map Prod.fst := by
      intro hmem
      rw [List.map_append, List.nodup_append] at hnodup
      exact hnodup.2.2 item.1 hmem item.1 (by simp) rfl
    rw [List.map_cons, readBaggage, if_neg (by omega), strip_item, partition_item]
    dsimp only
    rw [hk, hv, id_eq, PyDict.set_of_notMem hnew, ih (fun i hi => hkey i (.tail _ hi))
      (fun i hi => hvalue i (.tail _ hi)) (n + 1) _ (by omega) (by simpa using hnodup)]
    simp

/-- **The baggage** is read back. -/
theorem parseBaggage_baggageItems (U : UnicodeTables) {ctx : DistributedExecutionContext Str}
    (h : IsTraced ctx) (hne : ctx.baggage ≠ []) :
    parseBaggage U.toUnicodeDb id (List.intercalate [','] (ctx.baggageItems id)) =
      ctx.baggage := by
  have hitems : ctx.baggageItems id ≠ [] := List.map_eq_nil_iff.not.mpr hne
  have hcomma : ∀ item ∈ ctx.baggageItems id, ',' ∉ item := by
    intro item hitem hmem
    obtain ⟨kv, -, rfl⟩ := List.mem_map.mp hitem
    rw [List.mem_append, List.mem_cons] at hmem
    rcases hmem with hmem | heq | hmem
    · exact (mem_quote_spec hmem).2.2.1 rfl
    · exact absurd heq (by decide)
    · exact (mem_quote_spec hmem).2.2.1 rfl
  have hheader : List.intercalate [','] (ctx.baggageItems id) ≠ [] := by
    obtain ⟨s, item, hitem, heq⟩ := exists_append_of_intercalate [','] hitems
    obtain ⟨kv, -, rfl⟩ := List.mem_map.mp hitem
    rw [heq]
    simp
  rw [parseBaggage, if_pos ⟨hheader, h.length_header⟩, List.splitOn_intercalate ',' hcomma hitems]
  exact readBaggage_items U h.length_key h.length_value 0 [] (by simpa using h.length_baggage)
    h.nodup_keys

/-! ### Both headers -/

/-- **The trace context** that is read from the headers is the one that was sent, with its span as
the parent. -/
theorem fromHeaders_toHeaders (U : UnicodeTables) (drawn : Drawn)
    (ctx : DistributedExecutionContext Str) (h : IsTraced ctx) :
    (fromHeaders U.toUnicodeDb id drawn (ctx.toHeaders id)).traceId = ctx.traceId ∧
      (fromHeaders U.toUnicodeDb id drawn (ctx.toHeaders id)).traceFlags = ctx.traceFlags ∧
      (fromHeaders U.toUnicodeDb id drawn (ctx.toHeaders id)).baggage = ctx.baggage ∧
      (fromHeaders U.toUnicodeDb id drawn (ctx.toHeaders id)).parentSpanId = some ctx.spanId := by
  obtain ⟨htraceparent, -, hbaggage, -⟩ := ctx.get_toHeaders id
  have htrace : validateTraceparent U.toUnicodeDb
      (header U.toUnicodeDb (ctx.toHeaders id) traceparentHeader) =
        some (ctx.traceId, ctx.spanId, ctx.traceFlags) := by
    rw [header_toHeaders, htraceparent, Option.getD_some]
    exact validateTraceparent_traceparent U.toUnicodeDb h
  have hread : parseBaggage U.toUnicodeDb id
      (header U.toUnicodeDb (ctx.toHeaders id) baggageHeader) = ctx.baggage := by
    rw [header_toHeaders, hbaggage]
    by_cases hempty : ctx.baggage = []
    · rw [if_pos hempty, hempty]
      rfl
    · rw [if_neg hempty, Option.getD_some]
      exact parseBaggage_baggageItems U h hempty
  simp only [fromHeaders, htrace, hread, Option.map_some, Option.getD_some, and_self]

/-! ### A context -/

/-- A context with a comma, an equals sign and an empty key in its baggage. -/
def sampleContext : DistributedExecutionContext Str :=
  ((DistributedExecutionContext.new (List.replicate 32 'a') (List.replicate 16 'b')).addBaggage
    "k=,".toList "a b=c,é".toList).addBaggage [] []

theorem isTraced_sampleContext : IsTraced sampleContext where
  length_traceId := by decide
  hex_traceId := by decide
  traceId_ne := by decide
  length_spanId := by decide
  hex_spanId := by decide
  spanId_ne := by decide
  traceFlags_nonneg := by decide
  traceFlags_lt := by decide
  nodup_keys := by decide
  length_baggage := by decide
  length_key := by decide
  length_value := by decide
  length_header := by decide +kernel

theorem fromHeaders_toHeaders_sampleContext :
    let ctx := fromHeaders UnicodeDb.ascii id ⟨[], [], []⟩ (sampleContext.toHeaders id)
    ctx.traceId = List.replicate 32 'a' ∧ ctx.traceFlags = 1 ∧
      ctx.baggage = [("k=,".toList, "a b=c,é".toList), ([], [])] ∧
      ctx.parentSpanId = some (List.replicate 16 'b') :=
  fromHeaders_toHeaders .ascii ⟨[], [], []⟩ sampleContext isTraced_sampleContext

end ContextPropagation

end OpenLangGraph

import OpenLangGraph.Foundation.IpAddress

/-!
# Percent-encoding

`urllib.parse.quote` and `urllib.parse.unquote` with their default arguments: a character outside
the safe ones is written as the bytes of its UTF-8 encoding, each as `%XX`, and a string is read by
decoding every stretch of ASCII characters on its own.

## Decoding

`bytes.decode('utf-8', 'replace')` writes one replacement character for each maximal part of an
ill-formed sequence. The decoder is the machine that does so: it reads one byte at a time and owes
the continuation bytes that are still missing.

## Main definitions

* `utf8`, `decodeUtf8` — the encoding of a character, and the decoding of a list of bytes
* `quote`, `unquote`
* `encodeUtf8` — the bytes of a string

## Main results

* `encodeUtf8_injective`
* `unquote_quote` — reading back what was quoted
-/

namespace PercentEncoding

open PyString

/-! ### UTF-8 -/

/-- `c.encode()`, for one character. -/
def utf8 (c : Char) : List ℕ :=
  let n := c.toNat
  if n < 0x80 then [n]
  else if n < 0x800 then [0xC0 + n / 64, 0x80 + n % 64]
  else if n < 0x10000 then [0xE0 + n / 4096, 0x80 + n / 64 % 64, 0x80 + n % 64]
  else [0xF0 + n / 262144, 0x80 + n / 4096 % 64, 0x80 + n / 64 % 64, 0x80 + n % 64]

/-- A character that has begun: the continuation bytes owed, the bounds of the next one, and the
bits read so far. -/
structure Begun where
  owed : ℕ
  low : ℕ
  high : ℕ
  bits : ℕ

def replacement : Char := Char.ofNat 0xFFFD

/-- The first byte of a character: what is written at once, and what it begins. -/
def firstByte (b : ℕ) : Str × Option Begun :=
  if b < 0x80 then ([Char.ofNat b], none)
  else if 0xC2 ≤ b ∧ b ≤ 0xDF then ([], some ⟨0, 0x80, 0xBF, b - 0xC0⟩)
  else if b = 0xE0 then ([], some ⟨1, 0xA0, 0xBF, 0⟩)
  else if b = 0xED then ([], some ⟨1, 0x80, 0x9F, 0xD⟩)
  else if 0xE1 ≤ b ∧ b ≤ 0xEF then ([], some ⟨1, 0x80, 0xBF, b - 0xE0⟩)
  else if b = 0xF0 then ([], some ⟨2, 0x90, 0xBF, 0⟩)
  else if b = 0xF4 then ([], some ⟨2, 0x80, 0x8F, 4⟩)
  else if 0xF1 ≤ b ∧ b ≤ 0xF3 then ([], some ⟨2, 0x80, 0xBF, b - 0xF0⟩)
  else ([replacement], none)

/-- One byte: what is written, and what has begun after it. -/
def readByte (state : Option Begun) (b : ℕ) : Str × Option Begun :=
  match state with
  | none => firstByte b
  | some begun =>
    if begun.low ≤ b ∧ b ≤ begun.high then
      match begun.owed with
      | 0 => ([Char.ofNat (begun.bits * 64 + b % 64)], none)
      | owed + 1 => ([], some ⟨owed, 0x80, 0xBF, begun.bits * 64 + b % 64⟩)
    else (replacement :: (firstByte b).1, (firstByte b).2)

/-- The rest of the bytes. A character that is cut off is replaced. -/
def decodeFrom : Option Begun → List ℕ → Str
  | none, [] => []
  | some _, [] => [replacement]
  | state, b :: bs => (readByte state b).1 ++ decodeFrom (readByte state b).2 bs

/-- `bytes.decode('utf-8', 'replace')` -/
def decodeUtf8 (bytes : List ℕ) : Str := decodeFrom none bytes

theorem decodeFrom_ascii {n : ℕ} (hn : n < 0x80) (bs : List ℕ) :
    decodeFrom none (n :: bs) = Char.ofNat n :: decodeFrom none bs := by
  simp [decodeFrom, readByte, firstByte, hn]

/-- A continuation byte that is not the last one. -/
theorem decodeFrom_tail {owed low high bits b : ℕ} (hlow : low ≤ b) (hhigh : b ≤ high)
    (bs : List ℕ) : decodeFrom (some ⟨owed + 1, low, high, bits⟩) (b :: bs) =
      decodeFrom (some ⟨owed, 0x80, 0xBF, bits * 64 + b % 64⟩) bs := by
  rw [decodeFrom, readByte, if_pos ⟨hlow, hhigh⟩]
  rfl

/-- The last continuation byte completes the character. -/
theorem decodeFrom_last {low high bits b : ℕ} (hlow : low ≤ b) (hhigh : b ≤ high) (bs : List ℕ) :
    decodeFrom (some ⟨0, low, high, bits⟩) (b :: bs) =
      Char.ofNat (bits * 64 + b % 64) :: decodeFrom none bs := by
  rw [decodeFrom, readByte, if_pos ⟨hlow, hhigh⟩]
  rfl

/-- A byte that begins a character. -/
theorem decodeFrom_first {b : ℕ} {begun : Begun} (h : firstByte b = ([], some begun))
    (bs : List ℕ) : decodeFrom none (b :: bs) = decodeFrom (some begun) bs := by
  rw [decodeFrom, readByte, h]
  rfl

theorem decodeFrom_two {n : ℕ} (hn : 0x80 ≤ n) (hn' : n < 0x800) (bs : List ℕ) :
    decodeFrom none ((0xC0 + n / 64) :: (0x80 + n % 64) :: bs) =
      Char.ofNat n :: decodeFrom none bs := by
  have hfirst : firstByte (0xC0 + n / 64) = ([], some ⟨0, 0x80, 0xBF, n / 64⟩) := by
    rw [firstByte, if_neg (by omega), if_pos (by omega), Nat.add_sub_cancel_left]
  rw [decodeFrom_first hfirst, decodeFrom_last (by omega) (by omega)]
  rw [show n / 64 * 64 + (0x80 + n % 64) % 64 = n by omega]

/-- The first of three bytes, and the bounds it sets for the second. -/
theorem firstByte_three {n : ℕ} (hn : 0x800 ≤ n) (hn' : n < 0x10000)
    (hvalid : n < 0xD800 ∨ 0xDFFF < n) : ∃ low high,
      firstByte (0xE0 + n / 4096) = ([], some ⟨1, low, high, n / 4096⟩) ∧
        low ≤ 0x80 + n / 64 % 64 ∧ 0x80 + n / 64 % 64 ≤ high := by
  rw [firstByte, if_neg (by omega), if_neg (by omega)]
  by_cases hE0 : n / 4096 = 0
  · rw [if_pos (by omega), hE0]
    exact ⟨_, _, rfl, by omega, by omega⟩
  · rw [if_neg (by omega)]
    by_cases hED : n / 4096 = 0xD
    · rw [if_pos (by omega), hED]
      exact ⟨_, _, rfl, by omega, by omega⟩
    · rw [if_neg (by omega), if_pos (by omega), Nat.add_sub_cancel_left]
      exact ⟨_, _, rfl, by omega, by omega⟩

theorem decodeFrom_three {n : ℕ} (hn : 0x800 ≤ n) (hn' : n < 0x10000)
    (hvalid : n < 0xD800 ∨ 0xDFFF < n) (bs : List ℕ) :
    decodeFrom none ((0xE0 + n / 4096) :: (0x80 + n / 64 % 64) :: (0x80 + n % 64) :: bs) =
      Char.ofNat n :: decodeFrom none bs := by
  obtain ⟨low, high, hfirst, hlow, hhigh⟩ := firstByte_three hn hn' hvalid
  rw [decodeFrom_first hfirst, decodeFrom_tail hlow hhigh, decodeFrom_last (by omega) (by omega)]
  rw [show (n / 4096 * 64 + (0x80 + n / 64 % 64) % 64) * 64 + (0x80 + n % 64) % 64 = n by omega]

/-- The first of four bytes, and the bounds it sets for the second. -/
theorem firstByte_four {n : ℕ} (hn : 0x10000 ≤ n) (hn' : n < 0x110000) : ∃ low high,
    firstByte (0xF0 + n / 262144) = ([], some ⟨2, low, high, n / 262144⟩) ∧
      low ≤ 0x80 + n / 4096 % 64 ∧ 0x80 + n / 4096 % 64 ≤ high := by
  rw [firstByte, if_neg (by omega), if_neg (by omega), if_neg (by omega), if_neg (by omega),
    if_neg (by omega)]
  by_cases hF0 : n / 262144 = 0
  · rw [if_pos (by omega), hF0]
    exact ⟨_, _, rfl, by omega, by omega⟩
  · rw [if_neg (by omega)]
    by_cases hF4 : n / 262144 = 4
    · rw [if_pos (by omega), hF4]
      exact ⟨_, _, rfl, by omega, by omega⟩
    · rw [if_neg (by omega), if_pos (by omega), Nat.add_sub_cancel_left]
      exact ⟨_, _, rfl, by omega, by omega⟩

theorem decodeFrom_four {n : ℕ} (hn : 0x10000 ≤ n) (hn' : n < 0x110000) (bs : List ℕ) :
    decodeFrom none ((0xF0 + n / 262144) :: (0x80 + n / 4096 % 64) :: (0x80 + n / 64 % 64) ::
      (0x80 + n % 64) :: bs) = Char.ofNat n :: decodeFrom none bs := by
  obtain ⟨low, high, hfirst, hlow, hhigh⟩ := firstByte_four hn hn'
  rw [decodeFrom_first hfirst, decodeFrom_tail hlow hhigh, decodeFrom_tail (by omega) (by omega),
    decodeFrom_last (by omega) (by omega)]
  rw [show ((n / 262144 * 64 + (0x80 + n / 4096 % 64) % 64) * 64 + (0x80 + n / 64 % 64) % 64) * 64 +
    (0x80 + n % 64) % 64 = n by omega]

/-- A character is read back from its bytes. -/
theorem decodeFrom_utf8 (c : Char) (bs : List ℕ) :
    decodeFrom none (utf8 c ++ bs) = c :: decodeFrom none bs := by
  have hvalid : c.toNat < 0xD800 ∨ 0xDFFF < c.toNat ∧ c.toNat < 0x110000 := c.valid
  have hbytes : decodeFrom none (utf8 c ++ bs) = Char.ofNat c.toNat :: decodeFrom none bs := by
    rw [utf8]
    split
    · exact decodeFrom_ascii ‹_› bs
    · split
      · exact decodeFrom_two (by omega) ‹_› bs
      · split
        · exact decodeFrom_three (by omega) ‹_› (by omega) bs
        · exact decodeFrom_four (by omega) (by omega) bs
  rw [hbytes, Char.ofNat_toNat]

/-- A string is read back from its bytes. -/
theorem decodeUtf8_flatMap (s : Str) : decodeUtf8 (s.flatMap utf8) = s := by
  induction s with
  | nil => rfl
  | cons c s ih => rw [List.flatMap_cons, decodeUtf8, decodeFrom_utf8, ← decodeUtf8, ih]

theorem utf8_lt (c : Char) : ∀ b ∈ utf8 c, b < 256 := by
  have hvalid : c.toNat < 0xD800 ∨ 0xDFFF < c.toNat ∧ c.toNat < 0x110000 := c.valid
  rw [utf8]
  split
  · simp only [List.mem_singleton, forall_eq]
    omega
  · split
    · simp only [List.mem_cons, List.not_mem_nil, or_false, forall_eq_or_imp, forall_eq]
      omega
    · split
      · simp only [List.mem_cons, List.not_mem_nil, or_false, forall_eq_or_imp, forall_eq]
        omega
      · simp only [List.mem_cons, List.not_mem_nil, or_false, forall_eq_or_imp, forall_eq]
        omega

/-! ### Encoding a string -/

/-- `s.encode()` -/
def encodeUtf8 (s : Str) : List UInt8 := (s.flatMap utf8).map UInt8.ofNat

theorem ofNat_inj {m n : ℕ} (hm : m < 256) (hn : n < 256) (h : UInt8.ofNat m = UInt8.ofNat n) :
    m = n := by
  have hnat := congrArg UInt8.toNat h
  rwa [UInt8.toNat_ofNat_of_lt' hm, UInt8.toNat_ofNat_of_lt' hn] at hnat

theorem toNat_encodeUtf8 (s : Str) : (encodeUtf8 s).map UInt8.toNat = s.flatMap utf8 := by
  have hlt : ∀ b ∈ s.flatMap utf8, b < 256 := by
    intro b hb
    obtain ⟨c, -, hb⟩ := List.mem_flatMap.mp hb
    exact utf8_lt c b hb
  rw [encodeUtf8, List.map_map]
  exact (List.map_congr_left fun b hb => UInt8.toNat_ofNat_of_lt' (hlt b hb)).trans
    (List.map_id' _)

theorem encodeUtf8_injective {s t : Str} (h : encodeUtf8 s = encodeUtf8 t) : s = t := by
  rw [← decodeUtf8_flatMap s, ← decodeUtf8_flatMap t, ← toNat_encodeUtf8, ← toNat_encodeUtf8, h]

/-- The bytes of ASCII stand for themselves only. -/
theorem mem_of_mem_encodeUtf8 {s : Str} {c : Char} (hc : c.toNat < 0x80)
    (h : UInt8.ofNat c.toNat ∈ encodeUtf8 s) : c ∈ s := by
  obtain ⟨b, hb, hbc⟩ := List.mem_map.mp h
  obtain ⟨d, hd, hb⟩ := List.mem_flatMap.mp hb
  have hbn : b = c.toNat := ofNat_inj (utf8_lt d b hb) (by omega) hbc
  rw [utf8] at hb
  have hdc : d.toNat = c.toNat := by
    split at hb
    · exact (List.mem_singleton.mp hb).symm.trans hbn
    · split at hb
      · simp at hb
        omega
      · split at hb
        · simp at hb
          omega
        · simp at hb
          omega
  exact Char.toNat_inj.mp hdc ▸ hd

/-! ### Quoting -/

/-- `_ALWAYS_SAFE`, and the slash. -/
def safe : Str :=
  "ABCDEFGHIJKLMNOPQRSTUVWXYZabcdefghijklmnopqrstuvwxyz0123456789_.-~/".toList

def isSafe (c : Char) : Bool := safe.contains c

def upperHexDigit (d : ℕ) : Char := Char.ofNat (if d < 10 then 0x30 + d else 0x41 + d - 10)

/-- `'%{:02X}'.format(b)` -/
def quoteByte (b : ℕ) : Str := ['%', upperHexDigit (b / 16), upperHexDigit (b % 16)]

/-- `quote(s)` -/
def quote (s : Str) : Str :=
  s.flatMap fun c => if isSafe c then [c] else (utf8 c).flatMap quoteByte

/-- The byte that a string starts with as `%XX`. -/
def escape : Str → Option ℕ
  | '%' :: high :: low :: _ =>
    (IpAddress.hexDigit high).bind fun h => (IpAddress.hexDigit low).map fun l => 16 * h + l
  | _ => none

/-- The scan of `unquote`: `skip` characters still belong to the escape just read, and `bytes` are
those of the stretch of ASCII characters being read, last first. -/
def unquoteFrom : ℕ → List ℕ → Str → Str
  | _, bytes, [] => decodeUtf8 bytes.reverse
  | skip + 1, bytes, _ :: s => unquoteFrom skip bytes s
  | 0, bytes, c :: s =>
    if c.toNat < 0x80 then
      match escape (c :: s) with
      | some b => unquoteFrom 2 (b :: bytes) s
      | none => unquoteFrom 0 (c.toNat :: bytes) s
    else decodeUtf8 bytes.reverse ++ c :: unquoteFrom 0 [] s

/-- `unquote(s)` -/
def unquote (s : Str) : Str := unquoteFrom 0 [] s

/-- The characters of a quoted string. -/
theorem mem_quote {s : Str} {c : Char} (hc : c ∈ quote s) : c = '%' ∨ c ∈ safe := by
  have hdigit : ∀ d < 16, upperHexDigit d ∈ safe := by decide +kernel
  obtain ⟨d, -, hc⟩ := List.mem_flatMap.mp hc
  split at hc
  · next hsafe =>
    rw [List.mem_singleton.mp hc]
    exact .inr (List.contains_iff_mem.mp hsafe)
  · obtain ⟨b, hb, hc⟩ := List.mem_flatMap.mp hc
    have hlt := utf8_lt d b hb
    simp only [quoteByte, List.mem_cons, List.not_mem_nil, or_false] at hc
    rcases hc with rfl | rfl | rfl
    · exact .inl rfl
    · exact .inr (hdigit _ (by omega))
    · exact .inr (hdigit _ (by omega))

/-- Both digits of a byte are read back. -/
theorem escape_quoteByte {b : ℕ} (hb : b < 256) (s : Str) : escape (quoteByte b ++ s) = some b := by
  have hdigit : ∀ d < 16, IpAddress.hexDigit (upperHexDigit d) = some d := by decide
  show (IpAddress.hexDigit (upperHexDigit (b / 16))).bind _ = some b
  rw [hdigit _ (by omega), hdigit _ (by omega)]
  exact congrArg some (Nat.div_add_mod b 16)

theorem unquoteFrom_quoteByte {b : ℕ} (hb : b < 256) (bytes : List ℕ) (s : Str) :
    unquoteFrom 0 bytes (quoteByte b ++ s) = unquoteFrom 0 (b :: bytes) s := by
  have hescape := escape_quoteByte hb s
  rw [quoteByte] at hescape ⊢
  rw [List.cons_append, unquoteFrom, if_pos (by decide), ← List.cons_append, hescape]
  rfl

theorem unquoteFrom_bytes {bs : List ℕ} (hbs : ∀ b ∈ bs, b < 256) (bytes : List ℕ) (s : Str) :
    unquoteFrom 0 bytes (bs.flatMap quoteByte ++ s) = unquoteFrom 0 (bs.reverse ++ bytes) s := by
  induction bs generalizing bytes with
  | nil => rfl
  | cons b bs ih =>
    rw [List.flatMap_cons, List.append_assoc, unquoteFrom_quoteByte (hbs b List.mem_cons_self),
      ih (fun b' hb' => hbs b' (List.mem_cons_of_mem _ hb')), List.reverse_cons, List.append_assoc]
    rfl

/-- A safe character is an ASCII character that starts no escape. -/
theorem isSafe_spec {c : Char} (hc : isSafe c = true) : c.toNat < 0x80 ∧ c ≠ '%' := by
  have hall : (safe.all fun c => c.toNat < 0x80 && c ≠ '%') = true := by decide +kernel
  have hspec := List.all_eq_true.mp hall c (List.contains_iff_mem.mp hc)
  simpa using hspec

theorem unquoteFrom_safe {c : Char} (hc : isSafe c = true) (bytes : List ℕ) (s : Str) :
    unquoteFrom 0 bytes (c :: s) = unquoteFrom 0 (c.toNat :: bytes) s := by
  obtain ⟨hascii, hne⟩ := isSafe_spec hc
  have hescape : escape (c :: s) = none := by
    rw [escape.eq_def]
    split
    · next heq => exact absurd (List.cons.inj heq).1 hne
    · rfl
  rw [unquoteFrom, if_pos hascii, hescape]

/-- Every character is read as its bytes. -/
theorem unquoteFrom_quote (s : Str) (bytes : List ℕ) :
    unquoteFrom 0 bytes (quote s) = decodeUtf8 (bytes.reverse ++ s.flatMap utf8) := by
  induction s generalizing bytes with
  | nil => simp [quote, unquoteFrom]
  | cons c s ih =>
    rw [quote, List.flatMap_cons, ← quote]
    by_cases hc : isSafe c = true
    · have hutf8 : utf8 c = [c.toNat] := if_pos (isSafe_spec hc).1
      rw [if_pos hc, List.singleton_append, unquoteFrom_safe hc, ih, List.flatMap_cons, hutf8]
      simp
    · rw [if_neg hc, unquoteFrom_bytes (utf8_lt c), ih, List.flatMap_cons]
      simp

/-- **Reading back** what was quoted. -/
theorem unquote_quote (s : Str) : unquote (quote s) = s := by
  rw [unquote, unquoteFrom_quote]
  exact decodeUtf8_flatMap s

example : unquote "%F0%9F%98%80%E2%82z%4".toList = "😀\uFFFDz%4".toList := by decide

end PercentEncoding

import Mathlib.Data.Int.Notation
import Mathlib.Data.Nat.Notation

/-!
# Python strings

The string methods of Python that a modelled program calls, on strings as lists of code points.
`split`, `partition`, `rpartition`, `strip`, `startswith` and `int` follow the documented
behaviour of CPython.

## The Unicode database

What `str.lower`, `str.isspace`, `int` and NFKC normalisation do outside ASCII depends on the
Unicode tables the interpreter was built with. They are a structure, `UnicodeDb`, whose fields
record what every version of the tables does on ASCII; definitions that consult them take one as
an argument, so that a theorem about such a definition is about every version.

## What is left out

CPython refuses to convert decimal strings of more than 4300 digits; `UnicodeDb.int` has no such
limit.

## Main definitions

* `UnicodeDb` — the tables, and what they do on ASCII; `UnicodeTables` — with the white space
* `partition`, `rpartition`, `splitSub` — the searching methods
* `UnicodeDb.int` — the constructor `int(s)`

## Main results

* `splitSub_append` — splitting at the only occurrence of a separator
* `UnicodeDb.int_decimalRepr`, `UnicodeTables.int_intRepr` — reading back a printed number
-/

namespace PyString

/-- A Python string, as the list of its code points. -/
abbrev Str := List Char

instance : LawfulBEq Str := inferInstance

instance : LawfulBEq (Str × ℕ) := inferInstance

/-- The parts of the Unicode database that string methods consult. Outside ASCII they may be
anything. -/
structure UnicodeDb where
  /-- `str.lower` -/
  lower : Str → Str
  /-- `unicodedata.normalize('NFKC', s)` -/
  nfkc : Str → Str
  /-- The value of a decimal digit, as `int` reads it. -/
  decimal : Char → Option ℕ
  /-- `str.isspace` of one character -/
  isSpace : Char → Bool
  lower_ascii : ∀ s : Str, (∀ c ∈ s, c.toNat < 128) → lower s = s.map Char.toLower
  nfkc_ascii : ∀ s : Str, (∀ c ∈ s, c.toNat < 128) → nfkc s = s
  decimal_digit : ∀ c : Char, c.isDigit = true → decimal c = some (c.toNat - '0'.toNat)
  isSpace_digit : ∀ c : Char, c.isDigit = true → isSpace c = false

/-- The database that knows ASCII only. -/
def UnicodeDb.ascii : UnicodeDb where
  lower s := s.map Char.toLower
  nfkc s := s
  decimal c := if c.isDigit then some (c.toNat - '0'.toNat) else none
  isSpace c := c = ' ' || (9 ≤ c.toNat && c.toNat ≤ 13) || (28 ≤ c.toNat && c.toNat ≤ 31)
  lower_ascii _ _ := rfl
  nfkc_ascii _ _ := rfl
  decimal_digit c hc := by simp [hc]
  isSpace_digit c hc := by
    have h : 48 ≤ c.toNat := by
      simp only [Char.isDigit, Bool.and_eq_true, decide_eq_true_eq] at hc
      exact hc.1
    have hne : c ≠ ' ' := by rintro rfl; revert h; decide
    simp only [hne, decide_false, Bool.false_or, Bool.or_eq_false_iff, Bool.and_eq_false_iff,
      decide_eq_false_iff_not]
    omega

/-- White space of ASCII: the blank, tab to carriage return, and the four separators. -/
def isAsciiSpace (c : Char) : Bool :=
  c = ' ' || (9 ≤ c.toNat && c.toNat ≤ 13) || (28 ≤ c.toNat && c.toNat ≤ 31)

/-- The database, with what it says about white space in ASCII. -/
structure UnicodeTables extends UnicodeDb where
  isSpace_ascii : ∀ c : Char, c.toNat < 128 → isSpace c = isAsciiSpace c

/-- The tables that know ASCII only. -/
def UnicodeTables.ascii : UnicodeTables where
  toUnicodeDb := .ascii
  isSpace_ascii _ _ := rfl

/-- The tables, with what they say about decimal digits in ASCII: there are ten. -/
structure UnicodeDigits extends UnicodeTables where
  decimal_ascii : ∀ c : Char, c.toNat < 128 → c.isDigit = false → decimal c = none

/-- The tables that know ASCII only. -/
def UnicodeDigits.ascii : UnicodeDigits where
  toUnicodeTables := .ascii
  decimal_ascii c _ hc := by simp [UnicodeTables.ascii, UnicodeDb.ascii, hc]

/-! ### Searching -/

/-- `s.partition(c)`: the part before the first `c`, whether there is one, and the part after. -/
def partition (c : Char) (s : Str) : Str × Bool × Str :=
  (s.takeWhile (· ≠ c), s.contains c, (s.dropWhile (· ≠ c)).drop 1)

/-- What was joined by `c` is split there, if the first part has none. -/
theorem partition_append {c : Char} {s : Str} (hs : c ∉ s) (t : Str) :
    partition c (s ++ c :: t) = (s, true, t) := by
  have hne : ∀ d ∈ s, decide (d ≠ c) = true := fun d hd => decide_eq_true fun h => hs (h ▸ hd)
  have hc : decide (c ≠ c) = false := decide_eq_false (fun h => h rfl)
  have hmem : (s ++ c :: t).contains c = true := List.contains_iff_mem.mpr (by simp)
  rw [partition, List.takeWhile_append_of_pos hne, List.dropWhile_append_of_pos hne, hmem,
    List.takeWhile_cons, List.dropWhile_cons, hc]
  simp

/-- `s.rpartition(c)`: the same at the last `c`; without one, everything is in the third part. -/
def rpartition (c : Char) (s : Str) : Str × Bool × Str :=
  if s.contains c then
    (((s.reverse.dropWhile (· ≠ c)).drop 1).reverse, true, (s.reverse.takeWhile (· ≠ c)).reverse)
  else ([], false, s)

/-- `s.endswith(suffix)` -/
def endsWith (s suffix : Str) : Bool := suffix.reverse.isPrefixOf s.reverse

theorem endsWith_iff {s suffix : Str} : endsWith s suffix = true ↔ suffix <:+ s := by
  rw [endsWith, List.isPrefixOf_iff_prefix, List.reverse_prefix]

/-- `s.lstrip(chars)` for a predicate on characters. -/
def lstrip (p : Char → Bool) (s : Str) : Str := s.dropWhile p

/-- `s.strip(chars)` for a predicate on characters. -/
def strip (p : Char → Bool) (s : Str) : Str := ((s.dropWhile p).reverse.dropWhile p).reverse

/-- `s.rstrip(chars)` for a predicate on characters. -/
def rstrip (p : Char → Bool) (s : Str) : Str := (s.reverse.dropWhile p).reverse

/-- A string that starts with a character to keep is stripped at its end only. -/
theorem strip_cons {p : Char → Bool} {c : Char} (hc : p c = false) (s : Str) :
    strip p (c :: s) = c :: rstrip p s := by
  have hdrop : (c :: s).dropWhile p = c :: s := List.dropWhile_cons_of_neg (by simp [hc])
  rw [strip, hdrop, rstrip, List.reverse_cons, List.dropWhile_append]
  split
  · next h => simp [hc, List.isEmpty_iff.mp h]
  · simp

theorem rstrip_of_strip {p : Char → Bool} {s : Str} (h : strip p s = s) : rstrip p s = s := by
  have hlength : s.length ≤ (s.dropWhile p).length := by
    have hle : (strip p s).length ≤ (s.dropWhile p).reverse.length := by
      rw [strip, List.length_reverse]
      exact (List.dropWhile_sublist p).length_le
    rwa [h, List.length_reverse] at hle
  have hdrop : s.dropWhile p = s := (List.dropWhile_suffix p).eq_of_length_le hlength
  rwa [strip, hdrop] at h

/-- What ends with a string to keep is kept. -/
theorem rstrip_append {p : Char → Bool} (s : Str) {t : Str} (ht : t ≠ []) (h : rstrip p t = t) :
    rstrip p (s ++ t) = s ++ t := by
  have hdrop : t.reverse.dropWhile p = t.reverse := by
    rw [← List.reverse_reverse (t.reverse.dropWhile p)]
    exact congrArg List.reverse h
  rw [rstrip, List.reverse_append, List.dropWhile_append, hdrop, if_neg (by simpa using ht)]
  simp

theorem mem_of_mem_rstrip {p : Char → Bool} {s : Str} {c : Char} (h : c ∈ rstrip p s) : c ∈ s :=
  List.mem_reverse.mp ((List.dropWhile_sublist p).subset (List.mem_reverse.mp h))

theorem length_strip_le (p : Char → Bool) (s : Str) : (strip p s).length ≤ s.length := by
  rw [strip, List.length_reverse]
  refine Nat.le_trans (List.dropWhile_sublist p).length_le ?_
  rw [List.length_reverse]
  exact (List.dropWhile_sublist p).length_le

/-- A character to keep is kept. -/
theorem mem_strip_of_mem {p : Char → Bool} {s : Str} {c : Char} (h : c ∈ s) (hc : ¬ p c = true) :
    c ∈ strip p s := by
  have hdrop {t : Str} (ht : c ∈ t) : c ∈ t.dropWhile p := by
    rw [← List.takeWhile_append_dropWhile (p := p) (l := t)] at ht
    exact (List.mem_append.mp ht).resolve_left fun htake =>
      hc (List.all_eq_true.mp List.all_takeWhile c htake)
  exact List.mem_reverse.mpr (hdrop (List.mem_reverse.mpr (hdrop h)))

theorem mem_of_mem_strip {p : Char → Bool} {s : Str} {c : Char} (h : c ∈ strip p s) : c ∈ s :=
  (List.dropWhile_sublist p).subset (mem_of_mem_rstrip h)

/-- What replaces the characters to keep by texts that start with one leaves the same prefix to be
dropped. -/
theorem dropWhile_flatMap {p : Char → Bool} {f : Char → Str} (hdrop : ∀ c, p c = true → f c = [c])
    (hkeep : ∀ c, p c = false → ∃ d t, f c = d :: t ∧ p d = false) (s : Str) :
    (s.flatMap f).dropWhile p = (s.dropWhile p).flatMap f := by
  induction s with
  | nil => rfl
  | cons c s ih =>
    by_cases hc : p c = true
    · simpa [hdrop c hc, hc] using ih
    · obtain ⟨d, t, hf, hd⟩ := hkeep c (Bool.eq_false_iff.mpr hc)
      simp [hc, hf, hd]

/-- Stripping and replacing commute, if nothing that is stripped is replaced or comes to stand at
an end. -/
theorem strip_flatMap {p : Char → Bool} {f : Char → Str} (hdrop : ∀ c, p c = true → f c = [c])
    (hfirst : ∀ c, p c = false → ∃ d t, f c = d :: t ∧ p d = false)
    (hlast : ∀ c, p c = false → ∃ t d, f c = t ++ [d] ∧ p d = false) (s : Str) :
    strip p (s.flatMap f) = (strip p s).flatMap f := by
  have hdrop' : ∀ c, p c = true → (List.reverse ∘ f) c = [c] := by
    intro c hc
    simp [hdrop c hc]
  have hkeep' : ∀ c, p c = false → ∃ d t, (List.reverse ∘ f) c = d :: t ∧ p d = false := by
    intro c hc
    obtain ⟨t, d, hf, hd⟩ := hlast c hc
    exact ⟨d, t.reverse, by simp [hf], hd⟩
  rw [strip, dropWhile_flatMap hdrop hfirst, List.reverse_flatMap, dropWhile_flatMap hdrop' hkeep',
    List.reverse_flatMap, strip]
  congr 1
  funext c
  simp

/-- The scan behind `splitSub`: `skip` characters still belong to the separator just found, and
`piece` holds the current piece reversed. -/
def splitSubAux (sep : Str) : ℕ → Str → Str → List Str
  | _, piece, [] => [piece.reverse]
  | skip + 1, piece, _ :: s => splitSubAux sep skip piece s
  | 0, piece, c :: s =>
    if sep.isPrefixOf (c :: s) then piece.reverse :: splitSubAux sep (sep.length - 1) [] s
    else splitSubAux sep 0 (c :: piece) s

/-- `s.split(sep)` for a separator of any length: leftmost, non-overlapping occurrences. -/
def splitSub (sep s : Str) : List Str := splitSubAux sep 0 [] s

/-- Skipping drops characters and keeps the piece. -/
theorem splitSubAux_skip (sep : Str) (t : Str) : ∀ (d : Str) (piece : Str),
    splitSubAux sep d.length piece (d ++ t) = splitSubAux sep 0 piece t := by
  intro d
  induction d with
  | nil => intro piece; rfl
  | cons c d ih => intro piece; exact ih piece

/-- A stretch without the separator's first character goes to the piece as it is. -/
theorem splitSubAux_of_not_mem {c : Char} {sep' : Str} (t : Str) :
    ∀ (s : Str) (piece : Str), c ∉ s →
      splitSubAux (c :: sep') 0 piece (s ++ t)
        = splitSubAux (c :: sep') 0 (s.reverse ++ piece) t := by
  intro s
  induction s with
  | nil => intro piece _; rfl
  | cons d s ih =>
    intro piece hs
    have hd : (c == d) = false := by
      have : c ≠ d := fun h => hs (h ▸ List.mem_cons_self)
      simpa using this
    have hpre : (c :: sep').isPrefixOf (d :: (s ++ t)) = false := by
      simp [List.isPrefixOf, hd]
    rw [List.cons_append, splitSubAux, if_neg (by simp [hpre]),
      ih _ fun h => hs (List.mem_cons_of_mem _ h)]
    simp

/-- **Splitting at the only occurrence.** If neither side contains the separator's first
character, the separator occurs once and splits the string there. -/
theorem splitSub_append {c : Char} {sep' s t : Str} (hs : c ∉ s) (ht : c ∉ t) :
    splitSub (c :: sep') (s ++ (c :: sep') ++ t) = [s, t] := by
  have hpre : (c :: sep').isPrefixOf (c :: (sep' ++ t)) = true := by
    rw [ List.isPrefixOf_iff_prefix]
    exact ⟨t, rfl⟩
  have htail : splitSubAux (c :: sep') 0 [] t = [t] := by
    have hskip : splitSubAux (c :: sep') 0 [] (t ++ []) =
        splitSubAux (c :: sep') 0 (t.reverse ++ []) [] := splitSubAux_of_not_mem [] t [] ht
    simpa [splitSubAux] using hskip
  rw [splitSub, List.append_assoc, splitSubAux_of_not_mem _ _ _ hs, List.cons_append, splitSubAux,
    if_pos hpre, List.length_cons, Nat.add_sub_cancel, splitSubAux_skip, htail]
  simp

/-- Joining is injective, if what follows the last separator does not contain it. -/
theorem append_cons_inj {c : Char} {s s' t t' : Str} (ht : c ∉ t) (ht' : c ∉ t')
    (h : s ++ c :: t = s' ++ c :: t') : s = s' ∧ t = t' := by
  rcases List.append_eq_append_iff.mp h with ⟨u, rfl, hrest⟩ | ⟨u, rfl, hrest⟩
  · cases u with
    | nil => exact ⟨(List.append_nil s).symm, (List.cons.inj hrest).2⟩
    | cons d u =>
      rw [(List.cons.inj hrest).2] at ht
      exact absurd (List.mem_append_right u List.mem_cons_self) ht
  · cases u with
    | nil => exact ⟨List.append_nil s', (List.cons.inj hrest).2.symm⟩
    | cons d u =>
      rw [(List.cons.inj hrest).2] at ht'
      exact absurd (List.mem_append_right u List.mem_cons_self) ht'

/-- The same, if what precedes the first separator does not contain it. -/
theorem append_cons_inj_left {α : Type*} [DecidableEq α] {c : α} {s s' t t' : List α}
    (hs : c ∉ s) (hs' : c ∉ s') (h : s ++ c :: t = s' ++ c :: t') : s = s' ∧ t = t' := by
  have htake : ∀ (s t : List α), c ∉ s → (s ++ c :: t).takeWhile (· ≠ c) = s := by
    intro s t hs
    have hall : ∀ d ∈ s, decide (d ≠ c) = true := by
      intro d hd
      rw [decide_eq_true_eq]
      rintro rfl
      exact hs hd
    rw [List.takeWhile_append_of_pos hall]
    simp
  have hss : s = s' := (htake s t hs).symm.trans ((congrArg _ h).trans (htake s' t' hs'))
  subst hss
  exact ⟨rfl, (List.cons.inj (List.append_cancel_left h)).2⟩

/-! ### Joining -/

/-- A joined list ends with its last member. -/
theorem exists_append_of_intercalate (sep : Str) {chain : List Str} (hchain : chain ≠ []) :
    ∃ s, ∃ a ∈ chain, List.intercalate sep chain = s ++ a := by
  induction chain with
  | nil => exact absurd rfl hchain
  | cons a chain ih =>
    by_cases h : chain = []
    · subst h
      exact ⟨[], a, List.mem_cons_self, by simp⟩
    · obtain ⟨s, b, hb, heq⟩ := ih h
      refine ⟨a ++ sep ++ s, b, List.mem_cons_of_mem _ hb, ?_⟩
      rw [List.intercalate_cons_of_ne_nil h, heq]
      simp

theorem mem_intercalate {c d : Char} {chain : List Str} (h : c ∈ List.intercalate [d] chain) :
    c = d ∨ ∃ a ∈ chain, c ∈ a := by
  induction chain with
  | nil => cases h
  | cons a chain ih =>
    by_cases hchain : chain = []
    · subst hchain
      exact .inr ⟨a, List.mem_cons_self, by simpa using h⟩
    · rw [List.intercalate_cons_of_ne_nil hchain, List.mem_append, List.mem_append,
        List.mem_singleton] at h
      rcases h with (h | h) | h
      · exact .inr ⟨a, List.mem_cons_self, h⟩
      · exact .inl h
      · exact (ih h).imp_right fun ⟨b, hb, hc⟩ => ⟨b, List.mem_cons_of_mem _ hb, hc⟩

/-! ### Optional strings -/

/-- `if s:` for an optional string: it is there and not empty. -/
def truthy (s : Option Str) : Option Str := s.filter (· ≠ [])

/-- `s or ""` -/
def optOrEmpty (s : Option Str) : Str := s.getD []

theorem truthy_eq_some_iff {s : Option Str} {t : Str} :
    truthy s = some t ↔ optOrEmpty s = t ∧ t ≠ [] := by
  cases s with
  | none => simp [truthy, optOrEmpty, eq_comm]
  | some s =>
    rw [truthy, optOrEmpty, Option.filter_some, Option.getD_some]
    by_cases h : s = []
    · simp [h, eq_comm]
    · simp only [ne_eq, h, not_false_eq_true, decide_true, if_true, Option.some.injEq]
      exact ⟨fun ht => ⟨ht, ht ▸ h⟩, fun ht => ht.1⟩

/-- Only what is not empty counts. -/
theorem truthy_congr {s t : Option Str} (h : optOrEmpty s = optOrEmpty t) : truthy s = truthy t :=
  Option.ext fun u => by rw [truthy_eq_some_iff, truthy_eq_some_iff, h]

/-! ### Numbers -/

/-- The digits of a decimal literal, most significant first: single underscores may separate
digits. `prev` says whether the character before was a digit. -/
def UnicodeDb.digits (U : UnicodeDb) : Bool → Str → Option (List ℕ)
  | prev, [] => if prev then some [] else none
  | prev, c :: s =>
    match U.decimal c with
    | some d => (U.digits true s).map (d :: ·)
    | none => if c = '_' && prev then U.digits false s else none

/-- The value of a list of decimal digits, most significant first. -/
def ofDigits (ds : List ℕ) : ℕ := ds.foldl (fun n d => 10 * n + d) 0

/-- `int(s)`: surrounding whitespace, an optional sign, decimal digits. `none` is `ValueError`. -/
def UnicodeDb.int (U : UnicodeDb) (s : Str) : Option ℤ :=
  match strip U.isSpace s with
  | '-' :: t => (U.digits false t).map fun ds => -(ofDigits ds : ℤ)
  | '+' :: t => (U.digits false t).map fun ds => (ofDigits ds : ℤ)
  | t => (U.digits false t).map fun ds => (ofDigits ds : ℤ)

/-- A literal consists of digits and underscores. -/
theorem UnicodeDb.mem_of_digits (U : UnicodeDb) {s : Str} {prev : Bool} {ds : List ℕ}
    (h : U.digits prev s = some ds) : ∀ c ∈ s, (U.decimal c).isSome = true ∨ c = '_' := by
  induction s generalizing prev ds with
  | nil => exact List.forall_mem_nil _
  | cons c s ih =>
    rw [UnicodeDb.digits] at h
    cases hc : U.decimal c with
    | some d =>
      rw [hc] at h
      obtain ⟨ds', hds, -⟩ := Option.map_eq_some_iff.mp h
      exact List.forall_mem_cons.mpr ⟨.inl (by rw [hc]; rfl), ih hds⟩
    | none =>
      rw [hc] at h
      obtain ⟨hunderscore, hds⟩ := Option.ite_none_right_eq_some.mp h
      exact List.forall_mem_cons.mpr ⟨.inr (by simp_all), ih hds⟩

/-- What `int` reads consists of white space, signs, digits and underscores. -/
theorem UnicodeDb.mem_of_int (U : UnicodeDb) {s : Str} {n : ℤ} (h : U.int s = some n) :
    ∀ c ∈ s, U.isSpace c = true ∨ c = '-' ∨ c = '+' ∨ (U.decimal c).isSome = true ∨ c = '_' := by
  have hstrip : ∀ c ∈ strip U.isSpace s,
      c = '-' ∨ c = '+' ∨ (U.decimal c).isSome = true ∨ c = '_' := by
    rw [UnicodeDb.int] at h
    split at h
    · next t heq =>
      obtain ⟨ds, hds, -⟩ := Option.map_eq_some_iff.mp h
      rw [heq]
      exact List.forall_mem_cons.mpr
        ⟨.inl rfl, fun c hc => .inr (.inr (U.mem_of_digits hds c hc))⟩
    · next t heq =>
      obtain ⟨ds, hds, -⟩ := Option.map_eq_some_iff.mp h
      rw [heq]
      exact List.forall_mem_cons.mpr
        ⟨.inr (.inl rfl), fun c hc => .inr (.inr (U.mem_of_digits hds c hc))⟩
    · obtain ⟨ds, hds, -⟩ := Option.map_eq_some_iff.mp h
      exact fun c hc => .inr (.inr (U.mem_of_digits hds c hc))
  intro c hc
  by_cases hspace : U.isSpace c = true
  · exact .inl hspace
  · exact .inr (hstrip c (mem_strip_of_mem hc hspace))

/-- `str(n)` for a natural number. -/
def decimalRepr (n : ℕ) : Str := Nat.toDigits 10 n

theorem isDigit_of_mem_decimalRepr {n : ℕ} {c : Char} (hc : c ∈ decimalRepr n) :
    c.isDigit = true :=
  Nat.isDigit_of_mem_toDigits (by omega) (by omega) hc

theorem underscore_notMem_decimalRepr (n : ℕ) : '_' ∉ decimalRepr n :=
  Nat.underscore_not_in_toDigits

theorem decimalRepr_injective {m n : ℕ} (h : decimalRepr m = decimalRepr n) : m = n := by
  rw [← Nat.ofDigitChars_ten_toDigits (n := m), ← Nat.ofDigitChars_ten_toDigits (n := n)]
  exact congrArg _ h

/-- The number in front of a character that is not a digit. -/
theorem decimalRepr_injective_of_append {m n : ℕ} {c : Char} (hc : c.isDigit = false) {s t : Str}
    (h : decimalRepr m ++ c :: s = decimalRepr n ++ c :: t) : m = n := by
  have htake : ∀ (n : ℕ) (s : Str), (decimalRepr n ++ c :: s).takeWhile Char.isDigit =
      decimalRepr n := by
    intro n s
    rw [List.takeWhile_append_of_pos fun _ => isDigit_of_mem_decimalRepr]
    simp [hc]
  exact decimalRepr_injective ((htake m s).symm.trans ((congrArg _ h).trans (htake n t)))

/-- `str(n)` -/
def intRepr (n : ℤ) : Str := if n < 0 then '-' :: decimalRepr n.natAbs else decimalRepr n.natAbs

theorem strip_of_forall {p : Char → Bool} {s : Str} (h : ∀ c ∈ s, p c = false) :
    strip p s = s := by
  have hdrop : ∀ t : Str, (∀ c ∈ t, p c = false) → t.dropWhile p = t := by
    intro t ht
    cases t with
    | nil => rfl
    | cons c t => simp [ht c List.mem_cons_self]
  rw [strip, hdrop s h, hdrop s.reverse fun c hc => h c (List.mem_reverse.mp hc),
    List.reverse_reverse]

theorem UnicodeDb.digits_of_forall (U : UnicodeDb) : ∀ (s : Str) (prev : Bool),
    (∀ c ∈ s, c.isDigit = true) → (s = [] → prev = true) →
    U.digits prev s = some (s.map fun c => c.toNat - '0'.toNat) := by
  intro s
  induction s with
  | nil => intro prev _ hprev; simp [UnicodeDb.digits, hprev rfl]
  | cons c s ih =>
    intro prev hs _
    rw [UnicodeDb.digits, U.decimal_digit c (hs c List.mem_cons_self)]
    simp [ih true (fun d hd => hs d (List.mem_cons_of_mem _ hd)) fun _ => rfl]

theorem ofDigits_map_digit (s : Str) :
    ofDigits (s.map fun c => c.toNat - '0'.toNat) = Nat.ofDigitChars 10 s 0 := by
  rw [ofDigits, List.foldl_map, Nat.ofDigitChars_eq_foldl]

/-- **Printing and reading back** a natural number. -/
theorem UnicodeDb.int_decimalRepr (U : UnicodeDb) (n : ℕ) :
    U.int (decimalRepr n) = some (n : ℤ) := by
  have hdig : ∀ c ∈ decimalRepr n, c.isDigit = true := fun c hc => isDigit_of_mem_decimalRepr hc
  have hstrip : strip U.isSpace (decimalRepr n) = decimalRepr n :=
    strip_of_forall fun c hc => U.isSpace_digit c (hdig c hc)
  have hval : (U.digits false (decimalRepr n)).map (fun ds => (ofDigits ds : ℤ)) =
      some (n : ℤ) := by
    rw [U.digits_of_forall _ _ hdig fun h => absurd h Nat.toDigits_ne_nil, Option.map_some,
      ofDigits_map_digit, decimalRepr, Nat.ofDigitChars_ten_toDigits]
  rw [UnicodeDb.int, hstrip]
  split
  · next t heq => exact absurd (hdig '-' (heq ▸ List.mem_cons_self)) (by decide)
  · next t heq => exact absurd (hdig '+' (heq ▸ List.mem_cons_self)) (by decide)
  · exact hval

/-- **Printing and reading back** an integer. -/
theorem UnicodeTables.int_intRepr (U : UnicodeTables) (n : ℤ) : U.int (intRepr n) = some n := by
  by_cases hn : n < 0
  · have hdash : U.isSpace '-' = false := U.isSpace_ascii '-' (by decide)
    have hdig : ∀ c ∈ decimalRepr n.natAbs, c.isDigit = true := fun c => isDigit_of_mem_decimalRepr
    have hstrip : strip U.isSpace ('-' :: decimalRepr n.natAbs) = '-' :: decimalRepr n.natAbs := by
      refine strip_of_forall fun c hc => ?_
      rcases List.mem_cons.mp hc with rfl | hc
      · exact hdash
      · exact U.isSpace_digit c (hdig c hc)
    have hval : (U.digits false (decimalRepr n.natAbs)).map (fun ds => -(ofDigits ds : ℤ)) =
        some (-(n.natAbs : ℤ)) := by
      rw [U.digits_of_forall _ _ hdig fun h => absurd h Nat.toDigits_ne_nil, Option.map_some,
        ofDigits_map_digit, decimalRepr, Nat.ofDigitChars_ten_toDigits]
    rw [intRepr, if_pos hn, UnicodeDb.int, hstrip]
    exact hval.trans (congrArg some (by omega))
  · rw [intRepr, if_neg hn, U.int_decimalRepr]
    exact congrArg some (by omega)

end PyString

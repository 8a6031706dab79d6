import OpenLangGraph.Foundation.Double

/-!
# The JSON text of Python's encoder, and reading it

`JsonTree` is a document as its text has it: the members of an object in order, a key perhaps twice,
and whole numbers told from floats. `JsonTree.text` is what `json.dumps` writes for it with
`separators=(",", ":")` and everything else as it is by default: outside ASCII, characters are
escaped as UTF-16 units. `readTree` is the scanner of `json.loads`.

The text of a tree is printable ASCII, whatever its strings are, and it is read as the tree.

## Scope

Python's `\ud800` alone is a string, which has no counterpart here; reading it fails. Floats are
known by their value, so that there is no `-0.0`. CPython's limits, of 4300 digits of a whole number
and on how deep values are nested, are not modelled.

## Main definitions

* `JsonTree`, `JsonTree.text`, `JsonTree.value`
* `readTree`, `jsonLoads` — `json.loads`, as a tree and as data

## Main results

* `printable_text` — the characters of a text
* `readTree_text` — a tree whose floats are floats is read back
-/

open PyString

/-- A document as its text has it. -/
inductive JsonTree
  | null
  | bool (b : Bool)
  | int (n : ℤ)
  | float (x : PyFloat)
  | str (s : String)
  | arr (items : List JsonTree)
  | obj (entries : List (String × JsonTree))

namespace JsonTree

/-- Induction on a tree, with the hypothesis for every item of a list and every value of an
object. -/
@[elab_as_elim]
theorem inductionOn {motive : JsonTree → Prop} (t : JsonTree) (null : motive .null)
    (bool : ∀ b, motive (.bool b)) (int : ∀ n, motive (.int n)) (float : ∀ x, motive (.float x))
    (str : ∀ s, motive (.str s))
    (arr : ∀ items : List JsonTree, (∀ item ∈ items, motive item) → motive (.arr items))
    (obj : ∀ entries : List (String × JsonTree), (∀ e ∈ entries, motive e.2) →
      motive (.obj entries)) : motive t :=
  @JsonTree.rec motive (fun items => ∀ item ∈ items, motive item)
    (fun entries => ∀ e ∈ entries, motive e.2) (fun e => motive e.2) null bool int float str arr obj
    (List.forall_mem_nil _) (fun _ _ h hs => List.forall_mem_cons.mpr ⟨h, hs⟩)
    (List.forall_mem_nil _) (fun _ _ h hs => List.forall_mem_cons.mpr ⟨h, hs⟩)
    (fun _ _ h => h) t

end JsonTree

/-! ### Strings -/

/-- The escapes of one letter, and the characters they stand for. -/
def shortEscapes : List (Char × Char) :=
  [('"', '"'), ('\\', '\\'), ('b', '\x08'), ('f', '\x0c'), ('n', '\n'), ('r', '\r'), ('t', '\t')]

def unitRepr (unit : ℕ) : Str := '\\' :: 'u' :: fixedRepr 16 4 unit

/-- The units of a character in UTF-16. -/
def utf16 (c : Char) : List ℕ :=
  if c.toNat < 0x10000 then [c.toNat]
  else [0xd800 + (c.toNat - 0x10000) / 0x400, 0xdc00 + (c.toNat - 0x10000) % 0x400]

/-- A character in a literal of ASCII. -/
def asciiChar (c : Char) : Str :=
  match shortEscapes.find? fun e => e.2 = c with
  | some e => ['\\', e.1]
  | none => if 0x20 ≤ c.toNat ∧ c.toNat < 0x7f then [c] else (utf16 c).flatMap unitRepr

/-- `py_encode_basestring_ascii` -/
def asciiStr (s : Str) : Str := '"' :: (s.flatMap asciiChar ++ ['"'])

/-- Where in a literal the reader is: inside an escape, with so many digits left, or not. -/
inductive Scan
  | plain
  | escape
  | hex (left value : ℕ)

def hexValue (c : Char) : Option ℕ :=
  if c.isDigit then some (c.toNat - '0'.toNat)
  else if 'a' ≤ c ∧ c ≤ 'f' then some (c.toNat - 'a'.toNat + 10)
  else if 'A' ≤ c ∧ c ≤ 'F' then some (c.toNat - 'A'.toNat + 10)
  else none

/-- What an escape of one letter stands for. The slash may be escaped and never is. -/
def unescape (c : Char) : Option ℕ :=
  if c = '/' then some '/'.toNat
  else (shortEscapes.find? fun e => e.1 = c).map fun e => e.2.toNat

/-- The units of a literal up to the quotes, and what comes after them. -/
def readUnits : Scan → Str → Option (List ℕ × Str)
  | _, [] => none
  | .plain, c :: s =>
    if c = '"' then some ([], s)
    else if c = '\\' then readUnits .escape s
    else if c.toNat < 0x20 then none
    else (readUnits .plain s).map fun p => (utf16 c ++ p.1, p.2)
  | .escape, c :: s =>
    if c = 'u' then readUnits (.hex 4 0) s
    else (unescape c).bind fun unit => (readUnits .plain s).map fun p => (unit :: p.1, p.2)
  | .hex left value, c :: s =>
    (hexValue c).bind fun d =>
      if left = 1 then (readUnits .plain s).map fun p => ((16 * value + d) :: p.1, p.2)
      else readUnits (.hex (left - 1) (16 * value + d)) s

def isHigh (unit : ℕ) : Bool := decide (0xd800 ≤ unit ∧ unit < 0xdc00)

def isLow (unit : ℕ) : Bool := decide (0xdc00 ≤ unit ∧ unit < 0xe000)

/-- The string of these units, the first of a pair being perhaps read already. -/
def ofUnits : Option ℕ → List ℕ → Option Str
  | none, [] => some []
  | some _, [] => none
  | none, unit :: units =>
    if isHigh unit then ofUnits (some unit) units
    else if isLow unit then none
    else (ofUnits none units).map (Char.ofNat unit :: ·)
  | some high, unit :: units =>
    if isLow unit then
      (ofUnits none units).map
        (Char.ofNat (0x10000 + (high - 0xd800) * 0x400 + (unit - 0xdc00)) :: ·)
    else none

/-- A literal, behind its first quotes. -/
def readStr (s : Str) : Option (Str × Str) :=
  (readUnits .plain s).bind fun p => (ofUnits none p.1).map fun t => (t, p.2)

theorem readUnits_hex {left value d : ℕ} {c : Char} (hc : hexValue c = some d) (hleft : left ≠ 1)
    (s : Str) :
    readUnits (.hex left value) (c :: s) = readUnits (.hex (left - 1) (16 * value + d)) s := by
  rw [readUnits, hc, Option.bind_some, if_neg hleft]

theorem hexValue_digitChar : ∀ d < 16, hexValue (Nat.digitChar d) = some d := by
  decide

/-- Reading an escaped unit. -/
theorem readUnits_unitRepr {unit : ℕ} (hunit : unit < 0x10000) (s : Str) :
    readUnits .plain (unitRepr unit ++ s) =
      (readUnits .plain s).map fun p => (unit :: p.1, p.2) := by
  have hdigit : ∀ n : ℕ, hexValue (Nat.digitChar (n % 16)) = some (n % 16) :=
    fun n => hexValue_digitChar _ (Nat.mod_lt n (by decide))
  have hsum : 16 * (16 * (16 * (16 * 0 + unit / 16 / 16 / 16 % 16) + unit / 16 / 16 % 16) +
      unit / 16 % 16) + unit % 16 = unit := by omega
  show readUnits (.hex 4 0) (fixedRepr 16 4 unit ++ s) = _
  simp only [fixedRepr, List.nil_append, List.cons_append]
  rw [readUnits_hex (hdigit _) (by decide), readUnits_hex (hdigit _) (by decide),
    readUnits_hex (hdigit _) (by decide), readUnits, hdigit, Option.bind_some, if_pos rfl, hsum]

theorem utf16_lt {c : Char} {unit : ℕ} (h : unit ∈ utf16 c) : unit < 0x10000 := by
  have hc : c.toNat < 0x110000 := by
    rcases c.valid with h | h
    · exact Nat.lt_trans h (by decide)
    · exact h.2
  rw [utf16] at h
  split at h
  · rw [List.mem_singleton.mp h]
    assumption
  · simp only [List.mem_cons, List.not_mem_nil, or_false] at h
    omega

theorem readUnits_utf16 {units : List ℕ} (h : ∀ unit ∈ units, unit < 0x10000) (s : Str) :
    readUnits .plain (units.flatMap unitRepr ++ s) =
      (readUnits .plain s).map fun p => (units ++ p.1, p.2) := by
  induction units with
  | nil => simp
  | cons unit units ih =>
    obtain ⟨hunit, hunits⟩ := List.forall_mem_cons.mp h
    rw [List.flatMap_cons, List.append_assoc, readUnits_unitRepr hunit, ih hunits,
      Option.map_map]
    rfl

theorem shortEscapes_spec : ∀ e ∈ shortEscapes, e.1 ≠ 'u' ∧ unescape e.1 = some e.2.toNat ∧
    utf16 e.2 = [e.2.toNat] := by
  decide

/-- Reading a character of a literal. -/
theorem readUnits_asciiChar (c : Char) (s : Str) :
    readUnits .plain (asciiChar c ++ s) =
      (readUnits .plain s).map fun p => (utf16 c ++ p.1, p.2) := by
  rw [asciiChar]
  split
  · next e hfind =>
    have he : e.2 = c := by simpa using List.find?_some hfind
    obtain ⟨hu, hunescape, hunits⟩ := shortEscapes_spec e (List.mem_of_find?_eq_some hfind)
    show readUnits .escape (e.1 :: s) = _
    rw [readUnits, if_neg hu, hunescape, Option.bind_some, ← he, hunits]
    rfl
  · next hfind =>
    have hnot : ∀ e ∈ shortEscapes, e.2 ≠ c := by simpa using hfind
    split
    · next hprint =>
      rw [List.cons_append, List.nil_append, readUnits, if_neg (hnot ('"', '"') (by decide)).symm,
        if_neg (hnot ('\\', '\\') (by decide)).symm, if_neg (by omega)]
    · exact readUnits_utf16 (fun _ => utf16_lt) s

theorem readUnits_flatMap (s r : Str) :
    readUnits .plain (s.flatMap asciiChar ++ '"' :: r) = some (s.flatMap utf16, r) := by
  induction s with
  | nil => rfl
  | cons c s ih =>
    rw [List.flatMap_cons, List.append_assoc, readUnits_asciiChar, ih]
    rfl

theorem ofUnits_utf16 (c : Char) (units : List ℕ) :
    ofUnits none (utf16 c ++ units) = (ofUnits none units).map (c :: ·) := by
  have hvalid : c.toNat < 0xd800 ∨ (0xdfff < c.toNat ∧ c.toNat < 0x110000) := c.valid
  rw [utf16]
  split
  · have hhigh : isHigh c.toNat = false := decide_eq_false (by omega)
    have hlow : isLow c.toNat = false := decide_eq_false (by omega)
    simp [ofUnits, hhigh, hlow]
  · have hhigh : isHigh (0xd800 + (c.toNat - 0x10000) / 0x400) = true := decide_eq_true (by omega)
    have hlow : isLow (0xdc00 + (c.toNat - 0x10000) % 0x400) = true := decide_eq_true (by omega)
    have hchar : 0x10000 + (0xd800 + (c.toNat - 0x10000) / 0x400 - 0xd800) * 0x400 +
        (0xdc00 + (c.toNat - 0x10000) % 0x400 - 0xdc00) = c.toNat := by omega
    rw [List.cons_append, List.cons_append, List.nil_append, ofUnits, if_pos hhigh, ofUnits,
      if_pos hlow, hchar, Char.ofNat_toNat]

theorem ofUnits_flatMap (s : Str) : ofUnits none (s.flatMap utf16) = some s := by
  induction s with
  | nil => rfl
  | cons c s ih => rw [List.flatMap_cons, ofUnits_utf16, ih, Option.map_some]

/-- **Strings** are read back. -/
theorem readStr_asciiStr (s r : Str) : readStr (s.flatMap asciiChar ++ '"' :: r) = some (s, r) := by
  rw [readStr, readUnits_flatMap, Option.bind_some, ofUnits_flatMap, Option.map_some]

/-! ### Numbers -/

/-- `(0|[1-9]\d*)` -/
def readWhole : Str → Option (Str × Str)
  | [] => none
  | c :: s =>
    if c = '0' then some (['0'], s)
    else if c.isDigit then some (c :: s.takeWhile Char.isDigit, s.dropWhile Char.isDigit)
    else none

/-- `(\.\d+)?` -/
def readPlaces : Str → Str × Str
  | [] => ([], [])
  | c :: s =>
    if c = '.' ∧ s.takeWhile Char.isDigit ≠ [] then
      (s.takeWhile Char.isDigit, s.dropWhile Char.isDigit)
    else ([], c :: s)

/-- `-?` -/
def readMinus : Str → Bool × Str
  | '-' :: s => (true, s)
  | s => (false, s)

/-- `[-+]?` -/
def readSign : Str → Bool × Str
  | '+' :: s => (false, s)
  | s => readMinus s

/-- The number with these digits. -/
def digitsValue (s : Str) : ℕ := Nat.ofDigitChars 10 s 0

/-- `([eE][-+]?\d+)?` -/
def readExponent : Str → Option ℤ × Str
  | [] => (none, [])
  | c :: s =>
    let digits := (readSign s).2.takeWhile Char.isDigit
    if (c = 'e' ∨ c = 'E') ∧ digits ≠ [] then
      (some ((if (readSign s).1 then -1 else 1) * digitsValue digits),
        (readSign s).2.dropWhile Char.isDigit)
    else (none, c :: s)

/-- A number with these parts: a whole one, or a float. -/
def ofParts (negative : Bool) (whole places : Str) (exponent : Option ℤ) : JsonTree :=
  if places = [] ∧ exponent = none then .int ((if negative then -1 else 1) * digitsValue whole)
  else .float (.ofRat ((if negative then -1 else 1) * digitsValue (whole ++ places) *
    10 ^ (exponent.getD 0 - places.length)))

def readNumber (s : Str) : Option (JsonTree × Str) :=
  (readWhole (readMinus s).2).map fun p =>
    let places := readPlaces p.2
    let exponent := readExponent places.2
    (ofParts (readMinus s).1 p.1 places.1 exponent.1, exponent.2)

/-- A character that does not go on with a number. -/
def stopsNumber (c : Char) : Bool := !c.isDigit && decide (c ∉ ['.', 'e', 'E'])

/-- Digits without a needless zero in front. -/
def IsWhole (s : Str) : Prop :=
  ∃ c t, s = c :: t ∧ c.isDigit = true ∧ (c = '0' → t = []) ∧ ∀ d ∈ t, d.isDigit = true

theorem takeWhile_isDigit {s r : Str} (hs : ∀ c ∈ s, c.isDigit = true)
    (hr : ∀ c ∈ r.head?, c.isDigit = false) :
    (s ++ r).takeWhile Char.isDigit = s ∧ (s ++ r).dropWhile Char.isDigit = r := by
  rw [List.takeWhile_append_of_pos hs, List.dropWhile_append_of_pos hs]
  cases r with
  | nil => exact ⟨List.append_nil s, rfl⟩
  | cons c r =>
    have hc : ¬c.isDigit = true := by simp [hr c rfl]
    rw [List.takeWhile_cons_of_neg hc, List.dropWhile_cons_of_neg hc]
    exact ⟨List.append_nil s, rfl⟩

theorem readWhole_append {s r : Str} (hs : IsWhole s) (hr : ∀ c ∈ r.head?, c.isDigit = false) :
    readWhole (s ++ r) = some (s, r) := by
  obtain ⟨c, t, rfl, hc, hzero, ht⟩ := hs
  obtain ⟨htake, hdrop⟩ := takeWhile_isDigit ht hr
  rw [List.cons_append, readWhole]
  by_cases h : c = '0'
  · obtain rfl := hzero h
    rw [if_pos h, h, List.nil_append]
  · rw [if_neg h, if_pos hc, htake, hdrop]

theorem isWhole_decimalRepr (n : ℕ) : IsWhole (decimalRepr n) := by
  have hdigit := @isDigit_of_mem_decimalRepr n
  have hhead : ∀ n : ℕ, 0 < n → (decimalRepr n).head? ≠ some '0' := by
    intro n
    induction n using Nat.strong_induction_on with
    | _ n ih =>
      intro hn
      rw [decimalRepr, Nat.toDigits_eq_if (by decide)]
      split
      · have hnonzero : ∀ d < 10, 0 < d → Nat.digitChar d ≠ '0' := by decide
        simpa using hnonzero n (by assumption) hn
      · have hlower := ih (n / 10) (by omega) (by omega)
        rw [List.head?_append]
        cases hdigits : (decimalRepr (n / 10)).head? with
        | none => exact absurd (List.head?_eq_none_iff.mp hdigits) Nat.toDigits_ne_nil
        | some c =>
          rw [hdigits] at hlower
          rw [decimalRepr] at hdigits
          rwa [hdigits]
  cases h : decimalRepr n with
  | nil => exact absurd h Nat.toDigits_ne_nil
  | cons c t =>
    rw [h] at hdigit
    refine ⟨c, t, rfl, hdigit List.mem_cons_self, ?_,
      fun d hd => hdigit (List.mem_cons_of_mem _ hd)⟩
    rintro rfl
    have hzero : n = 0 := by
      by_contra hne
      exact hhead n (Nat.pos_of_ne_zero hne) (by rw [h]; rfl)
    subst hzero
    exact (List.cons.inj h).2.symm

theorem readMinus_signRepr (negative : Bool) {s : Str} (hs : ∀ c ∈ s.head?, c ≠ '-') :
    readMinus (signRepr negative ++ s) = (negative, s) := by
  cases negative with
  | true => rfl
  | false =>
    show readMinus s = (false, s)
    rw [readMinus.eq_def]
    split
    · exact absurd rfl (hs '-' rfl)
    · rfl

theorem IsWhole.head_ne_minus {s : Str} (hs : IsWhole s) (r : Str) :
    ∀ c ∈ (s ++ r).head?, c ≠ '-' := by
  obtain ⟨c, t, rfl, hc, -⟩ := hs
  rintro d hd rfl
  rw [Option.some.inj hd] at hc
  cases hc

theorem readPlaces_fraction {ds r : Str} (hds : ∀ c ∈ ds, c.isDigit = true)
    (hr : ∀ c ∈ r.head?, c.isDigit = false ∧ c ≠ '.') :
    readPlaces (PyDecimal.fraction ds ++ r) = (ds, r) := by
  obtain ⟨htake, hdrop⟩ := takeWhile_isDigit hds fun c hc => (hr c hc).1
  rw [PyDecimal.fraction]
  split
  · next hnil =>
    subst hnil
    cases r with
    | nil => rfl
    | cons c r => rw [List.nil_append, readPlaces, if_neg fun h => (hr c rfl).2 h.1]
  · next hne =>
    rw [List.cons_append, readPlaces, htake, if_pos ⟨rfl, hne⟩, hdrop]

theorem readExponent_of_ends {r : Str} (hr : Ends stopsNumber r) : readExponent r = (none, r) := by
  cases r with
  | nil => rfl
  | cons c r =>
    have hc := hr c rfl
    simp only [stopsNumber, Bool.and_eq_true, decide_eq_true_eq, List.mem_cons, not_or] at hc
    rw [readExponent]
    exact if_neg fun h => h.1.elim hc.2.2.1 hc.2.2.2.1

theorem head_of_ends {r : Str} (hr : Ends stopsNumber r) :
    ∀ c ∈ r.head?, c.isDigit = false ∧ c ≠ '.' := by
  intro c hc
  have hstop := hr c hc
  simp only [stopsNumber, Bool.and_eq_true, decide_eq_true_eq, List.mem_cons, not_or,
    Bool.not_eq_true'] at hstop
  exact ⟨hstop.1, hstop.2.1⟩

theorem digitsValue_decimalRepr (n : ℕ) : digitsValue (decimalRepr n) = n :=
  Nat.ofDigitChars_ten_toDigits

theorem readExponent_append (negative : Bool) {s digits r : Str}
    (hs : readSign s = (negative, digits ++ r)) (hdigits : ∀ c ∈ digits, c.isDigit = true)
    (hne : digits ≠ []) (hr : Ends stopsNumber r) :
    readExponent ('e' :: s) =
      (some ((if negative then -1 else 1) * (digitsValue digits : ℤ)), r) := by
  obtain ⟨htake, hdrop⟩ := takeWhile_isDigit hdigits fun c hc => (head_of_ends hr c hc).1
  simp only [readExponent, hs, htake, hdrop]
  exact if_pos ⟨.inl trivial, hne⟩

theorem readExponent_exponentRepr (e : ℤ) {r : Str} (hr : Ends stopsNumber r) :
    readExponent ('e' :: (PyDecimal.exponentRepr e ++ r)) = (some e, r) := by
  obtain ⟨digits, htext, hdigits, hne, hvalue⟩ : ∃ digits,
      PyDecimal.exponentRepr e = (if e < 0 then '-' else '+') :: digits ∧
        (∀ c ∈ digits, c.isDigit = true) ∧ digits ≠ [] ∧ digitsValue digits = e.natAbs := by
    refine ⟨_, rfl, ?_⟩
    split
    · refine ⟨List.forall_mem_cons.mpr ⟨rfl, fun c => isDigit_of_mem_decimalRepr⟩,
        List.cons_ne_nil _ _, ?_⟩
      rw [digitsValue, Nat.ofDigitChars_cons]
      exact digitsValue_decimalRepr _
    · exact ⟨fun c => isDigit_of_mem_decimalRepr, Nat.toDigits_ne_nil, digitsValue_decimalRepr _⟩
  rw [htext]
  by_cases hneg : e < 0
  · have hvalue' : (if true then -1 else 1) * (digitsValue digits : ℤ) = e := by
      rw [hvalue, if_pos rfl]
      omega
    rw [if_pos hneg, readExponent_append true rfl hdigits hne hr, hvalue']
  · have hvalue' : (if false then -1 else 1) * (digitsValue digits : ℤ) = e := by
      rw [hvalue, if_neg Bool.false_ne_true]
      omega
    rw [if_neg hneg, readExponent_append false rfl hdigits hne hr, hvalue']

theorem ofDigitChars_fixedRepr (width n init : ℕ) :
    Nat.ofDigitChars 10 (fixedRepr 10 width n) init = 10 ^ width * init + n % 10 ^ width := by
  induction width generalizing n with
  | zero =>
    rw [fixedRepr, Nat.ofDigitChars_nil, Nat.pow_zero, Nat.mod_one]
    omega
  | succ width ih =>
    rw [fixedRepr, Nat.ofDigitChars_append, ih,
      Nat.ofDigitChars_cons_digitChar_of_lt_ten (Nat.mod_lt n (by decide)), Nat.ofDigitChars_nil,
      Nat.pow_succ', Nat.mod_mul]
    ring

/-- The digits before and after the point. -/
theorem digitsValue_pointRepr (coefficient scale : ℕ) :
    digitsValue (decimalRepr (coefficient / 10 ^ scale) ++ fixedRepr 10 scale coefficient) =
      coefficient := by
  rw [digitsValue, Nat.ofDigitChars_append, ofDigitChars_fixedRepr]
  show 10 ^ scale * digitsValue (decimalRepr (coefficient / 10 ^ scale)) + _ = _
  rw [digitsValue_decimalRepr, Nat.div_add_mod]

/-- Reading a number from its parts. -/
theorem readNumber_append (negative : Bool) {whole places rest r : Str} {exponent : Option ℤ}
    (hwhole : IsWhole whole) (hplaces : ∀ c ∈ places, c.isDigit = true)
    (hrest : ∀ c ∈ rest.head?, c.isDigit = false ∧ c ≠ '.')
    (hexponent : readExponent rest = (exponent, r)) :
    readNumber (signRepr negative ++ (whole ++ (PyDecimal.fraction places ++ rest))) =
      some (ofParts negative whole places exponent, r) := by
  have hdigit : ∀ c ∈ (PyDecimal.fraction places ++ rest).head?, c.isDigit = false := by
    rw [PyDecimal.fraction]
    split
    · exact fun c hc => (hrest c hc).1
    · rintro c hc
      obtain rfl := Option.some.inj hc
      rfl
  rw [readNumber, readMinus_signRepr negative (hwhole.head_ne_minus _),
    readWhole_append hwhole hdigit, Option.map_some]
  simp only [readPlaces_fraction hplaces hrest, hexponent]

/-- **Whole numbers** are read back. -/
theorem readNumber_intRepr (n : ℤ) {r : Str} (hr : Ends stopsNumber r) :
    readNumber (intRepr n ++ r) = some (.int n, r) := by
  have hread := fun negative => readNumber_append negative (isWhole_decimalRepr n.natAbs)
    (List.forall_mem_nil _) (head_of_ends hr) (readExponent_of_ends hr)
  have hnone : PyDecimal.fraction [] = [] := rfl
  rw [hnone, List.nil_append] at hread
  rw [intRepr]
  by_cases hneg : n < 0
  · have htree : ofParts true (decimalRepr n.natAbs) [] none = .int n := by
      rw [ofParts, if_pos ⟨rfl, rfl⟩, digitsValue_decimalRepr, if_pos rfl]
      exact congrArg _ (by omega)
    rw [if_pos hneg, ← htree]
    exact hread true
  · have htree : ofParts false (decimalRepr n.natAbs) [] none = .int n := by
      rw [ofParts, if_pos ⟨rfl, rfl⟩, digitsValue_decimalRepr, if_neg Bool.false_ne_true]
      exact congrArg _ (by omega)
    rw [if_neg hneg, ← htree]
    exact hread false

theorem readNumber_exponent (x : PyDecimal) {r : Str} (hr : Ends stopsNumber r)
    (h : x.usesExponent = true) :
    readNumber (x.repr ++ r) = some (.float (.ofRat x.value), r) := by
  obtain ⟨c, t, hdigits⟩ : ∃ c t, decimalRepr x.coefficient = c :: t :=
    List.exists_cons_of_ne_nil Nat.toDigits_ne_nil
  have hdigit := @isDigit_of_mem_decimalRepr x.coefficient
  rw [hdigits] at hdigit
  have hwhole : IsWhole [c] :=
    ⟨c, [], rfl, hdigit List.mem_cons_self, fun _ => rfl, List.forall_mem_nil _⟩
  have hvalue : digitsValue (c :: t) = x.coefficient := by
    rw [← hdigits, digitsValue_decimalRepr]
  have hpoint : x.point - 1 - (t.length : ℤ) = x.exponent := by
    rw [PyDecimal.point, hdigits, List.length_cons]
    omega
  have hread := readNumber_append x.negative hwhole
    (fun d hd => hdigit (List.mem_cons_of_mem _ hd)) (by simp)
    (readExponent_exponentRepr (x.point - 1) hr)
  rw [ofParts, if_neg fun hnone => Option.some_ne_none _ hnone.2, List.singleton_append,
    List.singleton_append, hvalue, Option.getD_some, hpoint] at hread
  rw [PyDecimal.repr, if_pos h, hdigits, List.take_succ_cons, List.take_zero, List.drop_succ_cons,
    List.drop_zero, PyDecimal.value]
  simpa [List.append_assoc] using hread

theorem value_decimal (x : PyDecimal) :
    (x.decimal.1 : ℚ) * 10 ^ (0 - (x.decimal.2 : ℤ)) = x.coefficient * 10 ^ x.exponent := by
  rw [PyDecimal.decimal]
  split
  · next h =>
    have hexponent : 0 - (x.exponent.natAbs : ℤ) = x.exponent := by omega
    rw [hexponent]
  · next h =>
    obtain ⟨n, hn⟩ := Int.eq_ofNat_of_zero_le (not_lt.mp h)
    simp only [hn, Int.natAbs_natCast, Nat.cast_mul, Nat.cast_pow, zpow_natCast]
    rw [pow_succ]
    norm_num [mul_assoc]

theorem readNumber_fixed (x : PyDecimal) {r : Str} (hr : Ends stopsNumber r)
    (h : ¬x.usesExponent = true) :
    readNumber (x.repr ++ r) = some (.float (.ofRat x.value), r) := by
  have hscale : x.decimal.2 ≠ 0 := by
    rw [PyDecimal.decimal]
    split
    · exact fun hzero => by omega
    · exact one_ne_zero
  have hplaces : fixedRepr 10 x.decimal.2 x.decimal.1 ≠ [] := by
    intro hnil
    have hlength := length_fixedRepr 10 x.decimal.2 x.decimal.1
    rw [hnil] at hlength
    exact hscale hlength.symm
  have hread := readNumber_append x.negative
    (isWhole_decimalRepr (x.decimal.1 / 10 ^ x.decimal.2))
    (@isDigit_of_mem_fixedRepr x.decimal.2 x.decimal.1)
    (head_of_ends hr) (readExponent_of_ends hr)
  rw [ofParts, if_neg fun hnil => hplaces hnil.1, digitsValue_pointRepr, length_fixedRepr,
    Option.getD_none, mul_assoc, value_decimal, ← mul_assoc] at hread
  rw [PyDecimal.repr, if_neg h, pointRepr, if_neg hscale, PyDecimal.value]
  rw [PyDecimal.fraction, if_neg hplaces] at hread
  simpa [List.append_assoc] using hread

/-- **Floats** are read as their digits say. -/
theorem readNumber_repr (x : PyDecimal) {r : Str} (hr : Ends stopsNumber r) :
    readNumber (x.repr ++ r) = some (.float (.ofRat x.value), r) := by
  by_cases h : x.usesExponent = true
  · exact readNumber_exponent x hr h
  · exact readNumber_fixed x hr h

/-! ### Lists of items -/

section

variable {α : Type}

/-- White space of JSON. -/
def isJsonSpace (c : Char) : Bool := decide (c ∈ [' ', '\t', '\n', '\r'])

def skipSpace (s : Str) : Str := s.dropWhile isJsonSpace

/-- What comes behind an item: the bracket, or a comma and more. -/
def readMore (readOne : Str → Option (α × Str)) (close : Char) : ℕ → Str → Option (List α × Str)
  | 0, _ => none
  | _ + 1, [] => none
  | fuel + 1, c :: s =>
    if c = close then some ([], s)
    else if c = ',' then do
      let (a, s) ← readOne (skipSpace s)
      let (as, s) ← readMore readOne close fuel (skipSpace s)
      return (a :: as, s)
    else none

/-- Items up to the bracket. -/
def readList (readOne : Str → Option (α × Str)) (close : Char) (fuel : ℕ) :
    Str → Option (List α × Str)
  | [] => none
  | c :: s =>
    if c = close then some ([], s)
    else do
      let (a, s) ← readOne (c :: s)
      let (as, s) ← readMore readOne close fuel (skipSpace s)
      return (a :: as, s)

theorem skipSpace_cons {c : Char} (hc : isJsonSpace c = false) (s : Str) :
    skipSpace (c :: s) = c :: s :=
  List.dropWhile_cons_of_neg (by simp [hc])

/-- A character that begins an item: no white space, no comma and no bracket that closes. -/
def startsItem (c : Char) : Bool := !isJsonSpace c && decide (c ∉ [',', ']', '}'])

/-- Each of these items is read back, wherever a number could not go on. -/
def ReadsBack (readOne : Str → Option (α × Str)) (text : α → Str) (as : List α) : Prop :=
  ∀ a ∈ as, (∃ c s, text a = c :: s ∧ startsItem c = true) ∧
    ∀ r, Ends stopsNumber r → readOne (text a ++ r) = some (a, r)

variable {readOne : Str → Option (α × Str)} {text : α → Str} {close : Char} {as : List α}
  {a : α}

theorem ReadsBack.readOne_skipSpace (h : ReadsBack readOne text (a :: as)) {r : Str}
    (hr : Ends stopsNumber r) : readOne (skipSpace (text a ++ r)) = some (a, r) := by
  obtain ⟨⟨c, s, htext, hstart⟩, hread⟩ := h a List.mem_cons_self
  have hspace : isJsonSpace c = false := by
    rw [startsItem, Bool.and_eq_true, Bool.not_eq_true'] at hstart
    exact hstart.1
  have hskip : skipSpace (text a ++ r) = text a ++ r := by
    rw [htext, List.cons_append, skipSpace_cons hspace]
  rw [hskip, hread r hr]

theorem ReadsBack.of_cons (h : ReadsBack readOne text (a :: as)) : ReadsBack readOne text as :=
  fun b hb => h b (List.mem_cons_of_mem _ hb)

theorem ends_more (text : α → Str) (as : List α) (hclose : close = ']' ∨ close = '}') (r : Str) :
    Ends stopsNumber (as.flatMap (fun a => ',' :: text a) ++ close :: r) ∧
      skipSpace (as.flatMap (fun a => ',' :: text a) ++ close :: r) =
        as.flatMap (fun a => ',' :: text a) ++ close :: r := by
  cases as with
  | nil =>
    obtain rfl | rfl := hclose
    · exact ⟨ends_cons rfl _, rfl⟩
    · exact ⟨ends_cons rfl _, rfl⟩
  | cons a as => exact ⟨ends_cons rfl _, rfl⟩

theorem readMore_flatMap (hclose : close = ']' ∨ close = '}') (h : ReadsBack readOne text as)
    {fuel : ℕ} (hfuel : as.length < fuel) (r : Str) :
    readMore readOne close fuel (as.flatMap (fun a => ',' :: text a) ++ close :: r) =
      some (as, r) := by
  induction as generalizing fuel with
  | nil =>
    obtain ⟨fuel, rfl⟩ := Nat.exists_eq_succ_of_ne_zero (Nat.ne_of_gt hfuel)
    rw [List.flatMap_nil, List.nil_append, readMore, if_pos rfl]
  | cons a as ih =>
    obtain ⟨fuel, rfl⟩ := Nat.exists_eq_succ_of_ne_zero (Nat.ne_of_gt (Nat.zero_lt_of_lt hfuel))
    obtain ⟨hends, hskip⟩ := ends_more text as hclose r
    have hcomma : ',' ≠ close := by
      obtain rfl | rfl := hclose <;> decide
    rw [List.flatMap_cons, List.append_assoc, List.cons_append, readMore, if_neg hcomma,
      if_pos rfl, h.readOne_skipSpace hends]
    show (readMore readOne close fuel (skipSpace _)).bind _ = _
    rw [hskip, ih h.of_cons (Nat.lt_of_succ_lt_succ hfuel)]
    rfl

/-- **Lists** are read back, if their items are. -/
theorem readList_intercalate (hclose : close = ']' ∨ close = '}') (h : ReadsBack readOne text as)
    {fuel : ℕ} (hfuel : as.length ≤ fuel) (r : Str) :
    readList readOne close fuel (skipSpace (List.intercalate [','] (as.map text) ++ close :: r)) =
      some (as, r) := by
  cases as with
  | nil =>
    obtain rfl | rfl := hclose <;> rfl
  | cons a as =>
    obtain ⟨⟨c, s, htext, hstart⟩, hread⟩ := h a List.mem_cons_self
    obtain ⟨hends, hskip⟩ := ends_more text as hclose r
    rw [startsItem, Bool.and_eq_true, Bool.not_eq_true', decide_eq_true_eq] at hstart
    have hne : c ≠ close := by
      rintro rfl
      obtain rfl | rfl := hclose
      · exact hstart.2 (by decide)
      · exact hstart.2 (by decide)
    have htail : ((as.map text).flatMap fun s => [','] ++ s) =
        as.flatMap fun a => ',' :: text a := List.flatMap_map ..
    rw [List.map_cons, intercalate_cons, List.append_assoc, htail]
    have hone := hread _ hends
    rw [htext, List.cons_append] at hone ⊢
    rw [skipSpace_cons hstart.1, readList, if_neg hne, hone]
    show (readMore readOne close fuel (skipSpace _)).bind _ = _
    rw [hskip, readMore_flatMap hclose h.of_cons hfuel]
    rfl

end

/-! ### Documents -/

namespace JsonTree

/-- The values that are a word. -/
def words : List (Str × JsonTree) :=
  [(['n', 'u', 'l', 'l'], .null), (['t', 'r', 'u', 'e'], .bool true),
    (['f', 'a', 'l', 's', 'e'], .bool false), (['N', 'a', 'N'], .float .nan),
    (['I', 'n', 'f', 'i', 'n', 'i', 't', 'y'], .float (.inf false)),
    (['-', 'I', 'n', 'f', 'i', 'n', 'i', 't', 'y'], .float (.inf true))]

/-- `floatstr` of the encoder. -/
def floatText : PyFloat → Str
  | .nan => ['N', 'a', 'N']
  | .inf false => ['I', 'n', 'f', 'i', 'n', 'i', 't', 'y']
  | .inf true => ['-', 'I', 'n', 'f', 'i', 'n', 'i', 't', 'y']
  | .finite q => (PyFloat.shortest q).repr

mutual

/-- `json.dumps`, with `separators=(",", ":")` -/
def text : JsonTree → Str
  | .null => ['n', 'u', 'l', 'l']
  | .bool b => if b then ['t', 'r', 'u', 'e'] else ['f', 'a', 'l', 's', 'e']
  | .int n => intRepr n
  | .float x => floatText x
  | .str s => asciiStr s.toList
  | .arr items => '[' :: (List.intercalate [','] (textItems items) ++ [']'])
  | .obj entries => '{' :: (List.intercalate [','] (textEntries entries) ++ ['}'])

def textItems : List JsonTree → List Str
  | [] => []
  | t :: items => t.text :: textItems items

def textEntries : List (String × JsonTree) → List Str
  | [] => []
  | (key, t) :: entries => (asciiStr key.toList ++ ':' :: t.text) :: textEntries entries

end

def entryText (e : String × JsonTree) : Str := asciiStr e.1.toList ++ ':' :: e.2.text

theorem textItems_eq (items : List JsonTree) : textItems items = items.map text := by
  induction items with
  | nil => rfl
  | cons t items ih => rw [textItems, ih, List.map_cons]

theorem textEntries_eq (entries : List (String × JsonTree)) :
    textEntries entries = entries.map entryText := by
  induction entries with
  | nil => rfl
  | cons e entries ih => rw [textEntries, ih, List.map_cons, entryText]

/-- The word at the front. -/
def readWord (s : Str) : Option (JsonTree × Str) :=
  words.findSome? fun w => if w.1.isPrefixOf s then some (w.2, s.drop w.1.length) else none

/-- A key, a colon and a value. -/
def readEntry (readOne : Str → Option (JsonTree × Str)) : Str → Option ((String × JsonTree) × Str)
  | '"' :: s => do
    let (key, s) ← readStr s
    match skipSpace s with
    | ':' :: s => do
      let (t, s) ← readOne (skipSpace s)
      return ((String.ofList key, t), s)
    | _ => none
  | _ => none

/-- `scan_once`. Every value inside another one takes one of `fuel`. -/
def readValue : ℕ → Str → Option (JsonTree × Str)
  | 0, _ => none
  | _ + 1, [] => none
  | fuel + 1, c :: s =>
    if c = '"' then (readStr s).map fun p => (.str (String.ofList p.1), p.2)
    else if c = '[' then
      (readList (readValue fuel) ']' s.length (skipSpace s)).map fun p => (.arr p.1, p.2)
    else if c = '{' then
      (readList (readEntry (readValue fuel)) '}' s.length (skipSpace s)).map fun p =>
        (.obj p.1, p.2)
    else (readWord (c :: s)).or (readNumber (c :: s))

/-- The document of a text, with white space around it. -/
def readTree (s : Str) : Option JsonTree :=
  (readValue s.length (skipSpace s)).bind fun p => if skipSpace p.2 = [] then some p.1 else none

mutual

/-- The data of a document: numbers by their value, and of the members with one key the last. -/
def value : JsonTree → Json
  | .null => .null
  | .bool b => .bool b
  | .int n => .num (.finite n)
  | .float x => .num x
  | .str s => .str s
  | .arr items => .arr (valueItems items)
  | .obj entries => .ofEntries (valueEntries entries)

def valueItems : List JsonTree → List Json
  | [] => []
  | t :: items => t.value :: valueItems items

def valueEntries : List (String × JsonTree) → List (String × Json)
  | [] => []
  | (key, t) :: entries => (key, t.value) :: valueEntries entries

end

/-- Every finite float in the document is one. -/
inductive Doubles : JsonTree → Prop
  | null : Doubles .null
  | bool (b : Bool) : Doubles (.bool b)
  | int (n : ℤ) : Doubles (.int n)
  | float {x : PyFloat} (h : ∀ q, x = .finite q → PyFloat.IsDouble q) : Doubles (.float x)
  | str (s : String) : Doubles (.str s)
  | arr {items : List JsonTree} (h : ∀ t ∈ items, Doubles t) : Doubles (.arr items)
  | obj {entries : List (String × JsonTree)} (h : ∀ e ∈ entries, Doubles e.2) :
      Doubles (.obj entries)

theorem Doubles.item {items : List JsonTree} (h : Doubles (.arr items)) {t : JsonTree}
    (ht : t ∈ items) : Doubles t := by
  cases h with
  | arr h => exact h t ht

theorem Doubles.entry {entries : List (String × JsonTree)} (h : Doubles (.obj entries))
    {e : String × JsonTree} (he : e ∈ entries) : Doubles e.2 := by
  cases h with
  | obj h => exact h e he

/-- The text begins like a number. -/
def StartsNumber (s : Str) : Prop :=
  ∃ negative c t, s = signRepr negative ++ c :: t ∧ c.isDigit = true

theorem startsNumber_intRepr (n : ℤ) : StartsNumber (intRepr n) := by
  obtain ⟨c, t, h, hc, -⟩ := isWhole_decimalRepr n.natAbs
  rw [intRepr, h]
  split
  · exact ⟨true, c, t, rfl, hc⟩
  · exact ⟨false, c, t, rfl, hc⟩

theorem startsNumber_repr (x : PyDecimal) : StartsNumber x.repr := by
  rw [PyDecimal.repr]
  split
  · obtain ⟨c, t, h, hc, -⟩ := isWhole_decimalRepr x.coefficient
    exact ⟨x.negative, c, _, by rw [h]; rfl, hc⟩
  · obtain ⟨c, t, h, hc⟩ := exists_cons_pointRepr x.decimal.1 x.decimal.2
    exact ⟨x.negative, c, t, by rw [h], hc⟩

theorem StartsNumber.exists_cons {s : Str} (h : StartsNumber s) :
    ∃ c t, s = c :: t ∧ startsItem c = true := by
  obtain ⟨negative, c, t, rfl, hc⟩ := h
  cases negative with
  | true => exact ⟨'-', _, rfl, rfl⟩
  | false =>
    refine ⟨c, t, rfl, ?_⟩
    rw [startsItem, Bool.and_eq_true, Bool.not_eq_true', isJsonSpace, decide_eq_false_iff_not,
      decide_eq_true_eq]
    refine ⟨fun h => ?_, fun h => ?_⟩
    all_goals
      simp only [List.mem_cons, List.not_mem_nil, or_false] at h
      rcases h with rfl | rfl | rfl | rfl <;> cases hc

/-- What begins like a number is read as one. -/
theorem readValue_of_startsNumber {s : Str} (h : StartsNumber s) (fuel : ℕ) (r : Str) :
    readValue (fuel + 1) (s ++ r) = readNumber (s ++ r) := by
  obtain ⟨negative, c, t, rfl, hc⟩ := h
  have hne : ∀ d : Char, d.isDigit = false → c ≠ d := by
    rintro d hd rfl
    rw [hc] at hd
    cases hd
  cases negative with
  | true =>
    have hword : readWord ('-' :: c :: (t ++ r)) = none := by
      simp [readWord, words, (hne 'I' rfl).symm]
    show readValue (fuel + 1) ('-' :: c :: (t ++ r)) = readNumber ('-' :: c :: (t ++ r))
    rw [readValue, if_neg (by decide), if_neg (by decide), if_neg (by decide), hword,
      Option.none_or]
  | false =>
    have hword : readWord (c :: (t ++ r)) = none := by
      simp [readWord, words, (hne 'n' rfl).symm, (hne 't' rfl).symm,
        (hne 'f' rfl).symm, (hne 'N' rfl).symm, (hne 'I' rfl).symm, (hne '-' rfl).symm]
    show readValue (fuel + 1) (c :: (t ++ r)) = readNumber (c :: (t ++ r))
    rw [readValue, if_neg (hne _ rfl), if_neg (hne _ rfl), if_neg (hne _ rfl), hword,
      Option.none_or]

/-- The text of a document begins like an item. -/
theorem exists_cons_text (t : JsonTree) : ∃ c s, t.text = c :: s ∧ startsItem c = true := by
  cases t with
  | null => exact ⟨'n', _, rfl, rfl⟩
  | bool b => cases b <;> exact ⟨_, _, rfl, rfl⟩
  | int n => exact (startsNumber_intRepr n).exists_cons
  | float x =>
    cases x with
    | finite q => exact (startsNumber_repr _).exists_cons
    | nan => exact ⟨'N', _, rfl, rfl⟩
    | inf negative => cases negative <;> exact ⟨_, _, rfl, rfl⟩
  | str s => exact ⟨'"', _, rfl, rfl⟩
  | arr items => exact ⟨'[', _, by rw [text], rfl⟩
  | obj entries => exact ⟨'{', _, by rw [text], rfl⟩

theorem readValue_word {w : Str × JsonTree} (hw : w ∈ words) (fuel : ℕ) (r : Str) :
    readValue (fuel + 1) (w.1 ++ r) = some (w.2, r) := by
  simp only [words, List.mem_cons, List.not_mem_nil, or_false] at hw
  rcases hw with rfl | rfl | rfl | rfl | rfl | rfl
  all_goals simp [readValue, readWord, words]

theorem readValue_float {x : PyFloat} (hx : ∀ q, x = .finite q → PyFloat.IsDouble q) (fuel : ℕ)
    {r : Str} (hr : Ends stopsNumber r) :
    readValue (fuel + 1) (floatText x ++ r) = some (.float x, r) := by
  cases x with
  | finite q =>
    rw [floatText, readValue_of_startsNumber (startsNumber_repr _), readNumber_repr _ hr,
      PyFloat.ofRat_value_shortest (hx q rfl)]
  | nan => exact readValue_word (w := (_, .float .nan)) (by simp [words]) fuel r
  | inf negative =>
    cases negative with
    | false => exact readValue_word (w := (_, .float (.inf false))) (by simp [words]) fuel r
    | true => exact readValue_word (w := (_, .float (.inf true))) (by simp [words]) fuel r

theorem readValue_str (s : String) (fuel : ℕ) (r : Str) :
    readValue (fuel + 1) (asciiStr s.toList ++ r) = some (.str s, r) := by
  rw [asciiStr, List.cons_append, readValue, if_pos rfl, List.append_assoc, List.singleton_append,
    readStr_asciiStr, Option.map_some, String.ofList_toList]

theorem readEntry_entryText {readOne : Str → Option (JsonTree × Str)} {e : String × JsonTree}
    {r : Str} (h : readOne (e.2.text ++ r) = some (e.2, r)) :
    readEntry readOne (entryText e ++ r) = some (e, r) := by
  obtain ⟨c, s, htext, hstart⟩ := exists_cons_text e.2
  rw [startsItem, Bool.and_eq_true, Bool.not_eq_true'] at hstart
  have hskip : skipSpace (e.2.text ++ r) = e.2.text ++ r := by
    rw [htext, List.cons_append, skipSpace_cons hstart.1]
  rw [entryText, asciiStr, List.append_assoc, List.cons_append, List.append_assoc,
    List.singleton_append, readEntry, readStr_asciiStr]
  show (readOne (skipSpace (e.2.text ++ r))).bind _ = _
  rw [hskip, h, Option.bind_some, String.ofList_toList]
  rfl

theorem length_le_intercalate (ss : List Str) :
    ss.length ≤ (List.intercalate [','] ss).length + 1 ∧
      ∀ s ∈ ss, s.length ≤ (List.intercalate [','] ss).length := by
  induction ss with
  | nil => exact ⟨Nat.zero_le _, List.forall_mem_nil _⟩
  | cons s ss ih =>
    cases ss with
    | nil => simp
    | cons s' ss =>
      rw [List.intercalate_cons_cons, List.length_append, List.length_append,
        List.length_singleton]
      refine ⟨?_, List.forall_mem_cons.mpr ⟨by omega, fun t ht => ?_⟩⟩
      · have hcount := ih.1
        rw [List.length_cons]
        omega
      · have hlength := ih.2 t ht
        omega

/-- Reading a bracket, items and a bracket. -/
theorem readList_text {α : Type} {readOne : Str → Option (α × Str)} {text : α → Str}
    {close : Char} {as : List α} (hclose : close = ']' ∨ close = '}')
    (h : ReadsBack readOne text as) {s r : Str}
    (hs : s = List.intercalate [','] (as.map text) ++ close :: r) :
    readList readOne close s.length (skipSpace s) = some (as, r) := by
  have hlength := (length_le_intercalate (as.map text)).1
  rw [List.length_map] at hlength
  subst hs
  refine readList_intercalate hclose h ?_ r
  rw [List.length_append, List.length_cons]
  omega

/-- **A document is read back**, wherever a number could not go on. -/
theorem readValue_text {t : JsonTree} (ht : t.Doubles) {fuel : ℕ} (hfuel : t.text.length ≤ fuel)
    {r : Str} (hr : Ends stopsNumber r) : readValue fuel (t.text ++ r) = some (t, r) := by
  obtain ⟨c, s, hcons, -⟩ := exists_cons_text t
  obtain ⟨fuel, rfl⟩ : ∃ n, fuel = n + 1 := by
    rw [hcons, List.length_cons] at hfuel
    exact ⟨fuel - 1, by omega⟩
  clear hcons
  induction t using JsonTree.inductionOn generalizing fuel r with
  | null => exact readValue_word (w := (_, .null)) (by simp [words]) fuel r
  | bool b =>
    cases b with
    | false => exact readValue_word (w := (_, .bool false)) (by simp [words]) fuel r
    | true => exact readValue_word (w := (_, .bool true)) (by simp [words]) fuel r
  | int n =>
    rw [text, readValue_of_startsNumber (startsNumber_intRepr n), readNumber_intRepr n hr]
  | float x =>
    cases ht with
    | float hx => exact readValue_float hx fuel hr
  | str s => exact readValue_str s fuel r
  | arr items ih =>
    rw [text, textItems_eq] at hfuel ⊢
    have hback : ReadsBack (readValue fuel) text items := by
      intro item hitem
      refine ⟨exists_cons_text item, fun r hr => ?_⟩
      have hlength := (length_le_intercalate (items.map text)).2 _ (List.mem_map_of_mem hitem)
      rw [List.length_cons, List.length_append, List.length_singleton] at hfuel
      obtain ⟨fuel, rfl⟩ : ∃ n, fuel = n + 1 := ⟨fuel - 1, by omega⟩
      exact ih item hitem (ht.item hitem) hr fuel (by omega)
    rw [List.cons_append, readValue, if_neg (by decide), if_pos rfl,
      readList_text (.inl rfl) hback (List.append_assoc ..)]
    rfl
  | obj entries ih =>
    rw [text, textEntries_eq] at hfuel ⊢
    have hback : ReadsBack (readEntry (readValue fuel)) entryText entries := by
      intro e he
      refine ⟨⟨'"', _, rfl, rfl⟩, fun r hr => readEntry_entryText ?_⟩
      have hlength := (length_le_intercalate (entries.map entryText)).2 _ (List.mem_map_of_mem he)
      rw [List.length_cons, List.length_append, List.length_singleton] at hfuel
      rw [entryText, List.length_append, List.length_cons] at hlength
      obtain ⟨fuel, rfl⟩ : ∃ n, fuel = n + 1 := ⟨fuel - 1, by omega⟩
      exact ih e he (ht.entry he) hr fuel (by omega)
    rw [List.cons_append, readValue, if_neg (by decide), if_neg (by decide), if_pos rfl,
      readList_text (.inr rfl) hback (List.append_assoc ..)]
    rfl

theorem readTree_text {t : JsonTree} (ht : t.Doubles) : readTree t.text = some t := by
  obtain ⟨c, s, hcons, hstart⟩ := exists_cons_text t
  rw [startsItem, Bool.and_eq_true, Bool.not_eq_true'] at hstart
  have hskip : skipSpace t.text = t.text := by
    rw [hcons, skipSpace_cons hstart.1]
  have hread := readValue_text ht (Nat.le_refl t.text.length) (ends_nil stopsNumber)
  rw [List.append_nil] at hread
  rw [readTree, hskip, hread]
  rfl

/-! ### The characters of a text -/

/-- A character of printable ASCII. -/
def IsPrintable (c : Char) : Prop := 0x20 ≤ c.toNat ∧ c.toNat < 0x7f

theorem isPrintable_of_isDigit {c : Char} (h : c.isDigit = true) : IsPrintable c := by
  rw [Char.isDigit, Bool.and_eq_true, decide_eq_true_eq, decide_eq_true_eq] at h
  have hlow : 48 ≤ c.toNat := h.1
  have hhigh : c.toNat ≤ 57 := h.2
  exact ⟨by omega, by omega⟩

instance (c : Char) : Decidable (IsPrintable c) := inferInstanceAs (Decidable (_ ∧ _))

theorem isPrintable_of_mem_fixedRepr {width n : ℕ} {c : Char} (h : c ∈ fixedRepr 16 width n) :
    IsPrintable c := by
  induction width generalizing n with
  | zero => cases h
  | succ width ih =>
    have hdigit : ∀ d < 16, IsPrintable (Nat.digitChar d) := by decide
    rw [fixedRepr, List.mem_append, List.mem_singleton] at h
    rcases h with h | rfl
    · exact ih h
    · exact hdigit _ (Nat.mod_lt n (by decide))

theorem isPrintable_of_mem_asciiChar {c d : Char} (h : d ∈ asciiChar c) : IsPrintable d := by
  have hback : IsPrintable '\\' := by decide
  have hletter : ∀ e ∈ shortEscapes, IsPrintable e.1 := by simp [shortEscapes, IsPrintable]
  rw [asciiChar] at h
  split at h
  · next e hfind =>
    simp only [List.mem_cons, List.not_mem_nil, or_false] at h
    rcases h with rfl | rfl
    · exact hback
    · exact hletter e (List.mem_of_find?_eq_some hfind)
  · split at h
    · next hprint =>
      rw [List.mem_singleton.mp h]
      exact hprint
    · obtain ⟨unit, -, h⟩ := List.mem_flatMap.mp h
      rcases List.mem_cons.mp h with rfl | h
      · exact hback
      · rcases List.mem_cons.mp h with rfl | h
        · decide
        · exact isPrintable_of_mem_fixedRepr h

theorem isPrintable_of_mem_asciiStr {s : Str} {c : Char} (h : c ∈ asciiStr s) : IsPrintable c := by
  have hquote : IsPrintable '"' := by decide
  rw [asciiStr, List.mem_cons, List.mem_append, List.mem_singleton] at h
  rcases h with rfl | h | rfl
  · exact hquote
  · obtain ⟨d, -, h⟩ := List.mem_flatMap.mp h
    exact isPrintable_of_mem_asciiChar h
  · exact hquote

theorem isPrintable_of_mem_signRepr {negative : Bool} {c : Char} (h : c ∈ signRepr negative) :
    IsPrintable c := by
  rw [mem_signRepr h]
  decide

theorem isPrintable_of_mem_decimalRepr {n : ℕ} {c : Char} (h : c ∈ decimalRepr n) :
    IsPrintable c := isPrintable_of_isDigit (isDigit_of_mem_decimalRepr h)

theorem isPrintable_of_mem_intRepr {n : ℤ} {c : Char} (h : c ∈ intRepr n) : IsPrintable c := by
  rw [intRepr] at h
  split at h
  · rcases List.mem_cons.mp h with rfl | h
    · decide
    · exact isPrintable_of_mem_decimalRepr h
  · exact isPrintable_of_mem_decimalRepr h

theorem isPrintable_of_mem_repr {x : PyDecimal} {c : Char} (h : c ∈ x.repr) : IsPrintable c := by
  rw [PyDecimal.repr] at h
  split at h
  · rw [List.mem_append, List.mem_append, List.mem_append, List.mem_cons] at h
    rcases h with h | h | h | rfl | h
    · exact isPrintable_of_mem_signRepr h
    · exact isPrintable_of_mem_decimalRepr (List.mem_of_mem_take h)
    · rcases PyDecimal.mem_fraction h with rfl | h
      · decide
      · exact isPrintable_of_mem_decimalRepr (List.mem_of_mem_drop h)
    · decide
    · rcases PyDecimal.mem_exponentRepr h with hdigit | rfl | rfl
      · exact isPrintable_of_isDigit hdigit
      · decide
      · decide
  · rcases List.mem_append.mp h with h | h
    · exact isPrintable_of_mem_signRepr h
    · rcases mem_pointRepr h with hdigit | rfl
      · exact isPrintable_of_isDigit hdigit
      · decide

theorem isPrintable_of_mem_floatText {x : PyFloat} {c : Char} (h : c ∈ floatText x) :
    IsPrintable c := by
  have hwords : ∀ w ∈ words, ∀ c ∈ w.1, IsPrintable c := by simp [words, IsPrintable]
  cases x with
  | finite q => exact isPrintable_of_mem_repr h
  | nan => exact hwords (_, .float .nan) (by simp [words]) c h
  | inf negative =>
    cases negative with
    | false => exact hwords (_, .float (.inf false)) (by simp [words]) c h
    | true => exact hwords (_, .float (.inf true)) (by simp [words]) c h

theorem isPrintable_of_mem_brackets {ss : List Str} {first last c : Char}
    (hfirst : IsPrintable first) (hlast : IsPrintable last)
    (hss : ∀ s ∈ ss, ∀ c ∈ s, IsPrintable c)
    (h : c ∈ first :: (List.intercalate [','] ss ++ [last])) : IsPrintable c := by
  rw [List.mem_cons, List.mem_append, List.mem_singleton] at h
  rcases h with rfl | h | rfl
  · exact hfirst
  · rcases mem_intercalate h with rfl | ⟨s, hs, hc⟩
    · decide
    · exact hss s hs c hc
  · exact hlast

/-- **The characters of a text** are printable ASCII; there is no line break among them. -/
theorem printable_text (t : JsonTree) : ∀ c ∈ t.text, IsPrintable c := by
  induction t using JsonTree.inductionOn with
  | null => simp [text, IsPrintable]
  | bool b => cases b <;> simp [text, IsPrintable]
  | int n => exact fun c => isPrintable_of_mem_intRepr
  | float x => exact fun c => isPrintable_of_mem_floatText
  | str s => exact fun c => isPrintable_of_mem_asciiStr
  | arr items ih =>
    intro c hc
    rw [text, textItems_eq] at hc
    exact isPrintable_of_mem_brackets (by decide) (by decide) (List.forall_mem_map.mpr ih) hc
  | obj entries ih =>
    intro c hc
    rw [text, textEntries_eq] at hc
    refine isPrintable_of_mem_brackets (by decide) (by decide) ?_ hc
    refine List.forall_mem_map.mpr fun e he c hc => ?_
    rw [entryText, List.mem_append, List.mem_cons] at hc
    rcases hc with hc | rfl | hc
    · exact isPrintable_of_mem_asciiStr hc
    · decide
    · exact ih e he c hc

end JsonTree

/-- `json.loads` -/
def jsonLoads (s : Str) : Option Json := (JsonTree.readTree s).map JsonTree.value

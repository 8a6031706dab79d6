import Mathlib.Data.List.Sort
import Mathlib.Data.Prod.Lex
import Mathlib.Data.Rat.Defs
import OpenLangGraph.Foundation.Json
import OpenLangGraph.Foundation.SeparableText

/-!
# JSON values and their two texts

A JSON value as Python has it, with the text that `str` gives it, and the same value in a JSONB
column, with the text that the database gives it. The texts of a string, of a number without an
exponent and of lists of such numbers are the same. The others differ in the words for truth values
and for null, in the quotes of a string inside a list, in the order of the members of an object, and
in the numbers for which Python writes an exponent.

## Numbers

A `float` is what its shortest decimal digits are, with a power of ten; Python writes these digits.
A JSONB number is a decimal with a number of places, which the database keeps and writes.

## Scope

There is no `nan` and no infinity, which JSON has not. Which characters outside ASCII are printable
is a part of the Unicode tables, and an argument here.

## Main definitions

* `PyJson`, `PyJson.repr`, `PyJson.pyStr` — a value in Python
* `Jsonb`, `Jsonb.text`, `Jsonb.asString` — a value in the database
* `PyJson.stored` — a Python value that is stored
* `PyJson.alike`, `PyJson.printsAlike` — the two texts agree, told by the form of the value
* `mistaken` — another value has the text of this one

## Main results

* `separable_repr` — a text of Python's that the database also writes is that of the stored value
* `asString_eq_pyStr_iff` — when the texts of a stored and a given value are the same
-/

open PyString

/-! ### Strings -/

/-- A character in a Python literal with these quotes. -/
def reprChar (isprintable : Char → Bool) (quote c : Char) : Str :=
  if c = quote ∨ c = '\\' then ['\\', c]
  else if c = '\t' then ['\\', 't']
  else if c = '\n' then ['\\', 'n']
  else if c = '\r' then ['\\', 'r']
  else if c.toNat < 0x20 ∨ c.toNat = 0x7f then '\\' :: 'x' :: fixedRepr 16 2 c.toNat
  else if c.toNat < 0x7f ∨ isprintable c = true then [c]
  else if c.toNat ≤ 0xff then '\\' :: 'x' :: fixedRepr 16 2 c.toNat
  else if c.toNat ≤ 0xffff then '\\' :: 'u' :: fixedRepr 16 4 c.toNat
  else '\\' :: 'U' :: fixedRepr 16 8 c.toNat

/-- The quotes are double if there are single ones in the string and no double ones. -/
def reprQuote (s : Str) : Char := if '\'' ∈ s ∧ '"' ∉ s then '"' else '\''

/-- `repr(s)` -/
def strRepr (isprintable : Char → Bool) (s : Str) : Str :=
  reprQuote s :: (s.flatMap (reprChar isprintable (reprQuote s)) ++ [reprQuote s])

/-- A character in a JSON literal. -/
def jsonChar (c : Char) : Str :=
  if c = '\x08' then ['\\', 'b']
  else if c = '\x0c' then ['\\', 'f']
  else if c = '\n' then ['\\', 'n']
  else if c = '\r' then ['\\', 'r']
  else if c = '\t' then ['\\', 't']
  else if c = '"' then ['\\', '"']
  else if c = '\\' then ['\\', '\\']
  else if c.toNat < 0x20 then '\\' :: 'u' :: fixedRepr 16 4 c.toNat
  else [c]

/-- `escape_json` of PostgreSQL. -/
def jsonStr (s : Str) : Str := '"' :: (s.flatMap jsonChar ++ ['"'])

/-- The two literals are the same: Python also takes double quotes, and no character is written in
two ways. -/
def plainStr (isprintable : Char → Bool) (s : Str) : Bool :=
  decide ('\'' ∈ s ∧ '"' ∉ s) && s.all fun c => reprChar isprintable '"' c = jsonChar c

variable {isprintable : Char → Bool}

/-- The letters of the short escapes that Python writes between double quotes, and those of the
database. -/
def reprEscapes : List (Char × Char) := [('\\', '\\'), ('t', '\t'), ('n', '\n'), ('r', '\r')]

def jsonEscapes : List (Char × Char) :=
  [('b', '\x08'), ('f', '\x0c'), ('n', '\n'), ('r', '\r'), ('t', '\t'), ('"', '"'), ('\\', '\\')]

/-- One letter stands for one character in both. -/
theorem eq_of_mem_escapes {a c d : Char} (hc : (a, c) ∈ reprEscapes) (hd : (a, d) ∈ jsonEscapes) :
    c = d := by
  have hall : (reprEscapes.all fun e => jsonEscapes.all fun e' =>
      e.1 != e'.1 || e.2 == e'.2) = true := by decide
  have hpair := List.all_eq_true.mp (List.all_eq_true.mp hall _ hc) _ hd
  simpa using hpair

theorem ne_u_of_mem_reprEscapes {c : Char} : ('u', c) ∉ reprEscapes := by
  intro hc
  have hall : (reprEscapes.all fun e => e.1 != 'u') = true := by decide
  simpa using List.all_eq_true.mp hall _ hc

/-- The letters of the long escapes are no others. -/
theorem notMem_jsonEscapes {a c : Char} (ha : a ∈ ['u', 'x', 'U']) : (a, c) ∉ jsonEscapes := by
  intro hc
  have hall : (['u', 'x', 'U'].all fun a => jsonEscapes.all fun e => e.1 != a) = true := by decide
  simpa using List.all_eq_true.mp (List.all_eq_true.mp hall _ ha) _ hc

/-- What Python writes for a character between double quotes. -/
theorem reprChar_cases {c : Char} (hc : c ≠ '"') :
    (reprChar isprintable '"' c = [c] ∧ c ≠ '\\') ∨
    (∃ d, reprChar isprintable '"' c = ['\\', d] ∧ (d, c) ∈ reprEscapes) ∨
    (∃ d rest, reprChar isprintable '"' c = '\\' :: d :: rest ∧ d ∈ ['x', 'U']) ∨
    (reprChar isprintable '"' c = '\\' :: 'u' :: fixedRepr 16 4 c.toNat ∧
      0xff < c.toNat ∧ c.toNat ≤ 0xffff) := by
  by_cases hback : c = '\\'
  · exact .inr (.inl ⟨_, by rw [reprChar, if_pos (.inr hback)],
      by rw [hback]; decide⟩)
  rw [reprChar, if_neg (not_or.mpr ⟨hc, hback⟩)]
  split
  · rename_i h
    exact .inr (.inl ⟨_, rfl, by rw [h]; decide⟩)
  split
  · rename_i h
    exact .inr (.inl ⟨_, rfl, by rw [h]; decide⟩)
  split
  · rename_i h
    exact .inr (.inl ⟨_, rfl, by rw [h]; decide⟩)
  split
  · exact .inr (.inr (.inl ⟨_, _, rfl, List.mem_cons_self⟩))
  split
  · exact .inl ⟨rfl, hback⟩
  split
  · exact .inr (.inr (.inl ⟨_, _, rfl, List.mem_cons_self⟩))
  split
  · exact .inr (.inr (.inr ⟨rfl, by omega, by omega⟩))
  · exact .inr (.inr (.inl ⟨_, _, rfl, List.mem_cons_of_mem _ List.mem_cons_self⟩))

/-- What the database writes for a character. -/
theorem jsonChar_cases (c : Char) :
    (jsonChar c = [c] ∧ c ≠ '\\' ∧ c ≠ '"') ∨
    (∃ d, jsonChar c = ['\\', d] ∧ (d, c) ∈ jsonEscapes) ∨
    (jsonChar c = '\\' :: 'u' :: fixedRepr 16 4 c.toNat ∧ c.toNat < 0x20) := by
  rw [jsonChar]
  split
  · rename_i h
    exact .inr (.inl ⟨_, rfl, by rw [h]; decide⟩)
  split
  · rename_i h
    exact .inr (.inl ⟨_, rfl, by rw [h]; decide⟩)
  split
  · rename_i h
    exact .inr (.inl ⟨_, rfl, by rw [h]; decide⟩)
  split
  · rename_i h
    exact .inr (.inl ⟨_, rfl, by rw [h]; decide⟩)
  split
  · rename_i h
    exact .inr (.inl ⟨_, rfl, by rw [h]; decide⟩)
  split
  · rename_i h
    exact .inr (.inl ⟨_, rfl, by rw [h]; decide⟩)
  split
  · rename_i h
    exact .inr (.inl ⟨_, rfl, by rw [h]; decide⟩)
  rename_i hquote hback
  split
  · exact .inr (.inr ⟨rfl, by assumption⟩)
  · exact .inl ⟨rfl, hback, hquote⟩

/-- **Characters**: what both write is one character, written in the same way. -/
theorem char_eq_of_append {c d : Char} (hc : c ≠ '"') {r r' : Str}
    (h : reprChar isprintable '"' c ++ r = jsonChar d ++ r') :
    c = d ∧ reprChar isprintable '"' c = jsonChar d ∧ r = r' := by
  rcases @reprChar_cases isprintable _ hc with ⟨hrepr, hback⟩ | ⟨a, hrepr, ha⟩ |
    ⟨a, rest, hrepr, ha⟩ | ⟨hrepr, hlarge, hsmall⟩
  · rcases jsonChar_cases d with ⟨hjson, -⟩ | ⟨b, hjson, -⟩ | ⟨hjson, -⟩
    · rw [hrepr, hjson] at h ⊢
      obtain ⟨rfl, hrest⟩ := List.cons.inj h
      exact ⟨rfl, rfl, hrest⟩
    · rw [hrepr, hjson] at h
      exact absurd (List.cons.inj h).1 hback
    · rw [hrepr, hjson] at h
      exact absurd (List.cons.inj h).1 hback
  · rcases jsonChar_cases d with ⟨hjson, hback, -⟩ | ⟨b, hjson, hb⟩ | ⟨hjson, -⟩
    · rw [hrepr, hjson] at h
      exact absurd (List.cons.inj h).1.symm hback
    · rw [hrepr, hjson] at h ⊢
      obtain ⟨rfl, hrest⟩ := List.cons.inj (List.cons.inj h).2
      exact ⟨eq_of_mem_escapes ha hb, rfl, hrest⟩
    · rw [hrepr, hjson] at h
      obtain ⟨rfl, -⟩ := List.cons.inj (List.cons.inj h).2
      exact absurd ha ne_u_of_mem_reprEscapes
  · rcases jsonChar_cases d with ⟨hjson, hback, -⟩ | ⟨b, hjson, hb⟩ | ⟨hjson, -⟩
    · rw [hrepr, hjson] at h
      exact absurd (List.cons.inj h).1.symm hback
    · rw [hrepr, hjson] at h
      obtain ⟨rfl, -⟩ := List.cons.inj (List.cons.inj h).2
      exact absurd hb (notMem_jsonEscapes (List.mem_cons_of_mem _ ha))
    · rw [hrepr, hjson] at h
      obtain ⟨rfl, -⟩ := List.cons.inj (List.cons.inj h).2
      simp at ha
  · rcases jsonChar_cases d with ⟨hjson, hback, -⟩ | ⟨b, hjson, hb⟩ | ⟨hjson, hcontrol⟩
    · rw [hrepr, hjson] at h
      exact absurd (List.cons.inj h).1.symm hback
    · rw [hrepr, hjson] at h
      obtain ⟨rfl, -⟩ := List.cons.inj (List.cons.inj h).2
      exact absurd hb (notMem_jsonEscapes List.mem_cons_self)
    · -- the database writes no character after the control characters like this
      rw [hrepr, hjson] at h
      have hdigits := (List.append_inj (List.cons.inj (List.cons.inj h).2).2
        (by rw [length_fixedRepr, length_fixedRepr])).1
      have hmod := fixedRepr_injective (by omega) (by omega) hdigits
      rw [show 16 ^ 4 = 65536 from rfl] at hmod
      omega

/-- A character that is no double quote does not begin with one. -/
theorem head_reprChar {c : Char} (hc : c ≠ '"') (r r' : Str) :
    reprChar isprintable '"' c ++ r ≠ '"' :: r' := by
  intro h
  rcases @reprChar_cases isprintable _ hc with ⟨hrepr, -⟩ | ⟨a, hrepr, -⟩ | ⟨a, rest, hrepr, -⟩ |
    ⟨hrepr, -⟩
  · rw [hrepr] at h
    exact hc (List.cons.inj h).1
  all_goals
    rw [hrepr] at h
    cases (List.cons.inj h).1

theorem head_jsonChar (c : Char) (r r' : Str) : jsonChar c ++ r ≠ '"' :: r' := by
  intro h
  rcases jsonChar_cases c with ⟨hjson, -, hc⟩ | ⟨a, hjson, -⟩ | ⟨hjson, -⟩
  · rw [hjson] at h
    exact hc (List.cons.inj h).1
  all_goals
    rw [hjson] at h
    cases (List.cons.inj h).1

theorem chars_eq_of_append {s t : Str} (hs : '"' ∉ s) {r r' : Str}
    (h : s.flatMap (reprChar isprintable '"') ++ '"' :: r = t.flatMap jsonChar ++ '"' :: r') :
    s = t ∧ (∀ c ∈ s, reprChar isprintable '"' c = jsonChar c) ∧ r = r' := by
  induction s generalizing t with
  | nil =>
    cases t with
    | nil => exact ⟨rfl, List.forall_mem_nil _, (List.cons.inj h).2⟩
    | cons d t =>
      rw [List.flatMap_cons, List.append_assoc] at h
      exact absurd h.symm (head_jsonChar d _ _)
  | cons c s ih =>
    rw [List.mem_cons, not_or] at hs
    cases t with
    | nil =>
      rw [List.flatMap_cons, List.append_assoc] at h
      exact absurd h (head_reprChar (Ne.symm hs.1) _ _)
    | cons d t =>
      rw [List.flatMap_cons, List.flatMap_cons, List.append_assoc, List.append_assoc] at h
      obtain ⟨rfl, hsame, hrest⟩ := char_eq_of_append (Ne.symm hs.1) h
      obtain ⟨rfl, hall, hend⟩ := ih hs.2 hrest
      exact ⟨rfl, List.forall_mem_cons.mpr ⟨hsame, hall⟩, hend⟩

/-- **Strings**: a literal of Python's is a JSON literal only if it is that of the same string, and
a plain one. -/
theorem str_eq_of_append {s t r r' : Str}
    (h : strRepr isprintable s ++ r = jsonStr t ++ r') :
    s = t ∧ plainStr isprintable s = true ∧ r = r' := by
  rw [strRepr, jsonStr, List.cons_append, List.cons_append, List.append_assoc,
    List.append_assoc] at h
  obtain ⟨hquote, hrest⟩ := List.cons.inj h
  have hdouble : '\'' ∈ s ∧ '"' ∉ s := by
    by_contra hnot
    rw [reprQuote, if_neg hnot] at hquote
    cases hquote
  rw [hquote] at hrest
  obtain ⟨rfl, hall, hend⟩ := chars_eq_of_append hdouble.2 hrest
  refine ⟨rfl, ?_, hend⟩
  rw [plainStr, Bool.and_eq_true, decide_eq_true_eq, List.all_eq_true]
  exact ⟨hdouble, fun c hc => decide_eq_true (hall c hc)⟩

theorem strRepr_of_plain {s : Str} (h : plainStr isprintable s = true) :
    strRepr isprintable s = jsonStr s := by
  rw [plainStr, Bool.and_eq_true, decide_eq_true_eq, List.all_eq_true] at h
  have hchars : s.flatMap (reprChar isprintable '"') = s.flatMap jsonChar :=
    List.flatMap_congr fun c hc => of_decide_eq_true (h.2 c hc)
  rw [strRepr, reprQuote, if_pos h.1, hchars, jsonStr]

/-! ### Numbers -/

/-- A JSONB number: `± coefficient / 10 ^ scale`, of which `scale` places are kept. There is no
negative zero. -/
@[ext] structure Numeric where
  negative : Bool
  coefficient : ℕ
  scale : ℕ
  signed : negative = true → coefficient ≠ 0

theorem coefficient_ne_zero {negative : Bool} {coefficient : ℕ}
    (h : (negative && decide (coefficient ≠ 0)) = true) : coefficient ≠ 0 :=
  of_decide_eq_true ((Bool.and_eq_true _ _).mp h).2

/-- The number that is written with these digits. Zero loses its sign. -/
def Numeric.ofDigits (negative : Bool) (coefficient scale : ℕ) : Numeric :=
  ⟨negative && decide (coefficient ≠ 0), coefficient, scale, coefficient_ne_zero⟩

def signRepr (negative : Bool) : Str := if negative then ['-'] else []

/-- `numeric_out` -/
def Numeric.text (n : Numeric) : Str := signRepr n.negative ++ pointRepr n.coefficient n.scale

def Numeric.value (n : Numeric) : ℚ :=
  (if n.negative then -1 else 1) * n.coefficient / 10 ^ n.scale

/-- A finite `float`: its shortest decimal digits, as a number, and the power of ten. -/
structure PyDecimal where
  negative : Bool
  coefficient : ℕ
  exponent : ℤ
  shortest : coefficient % 10 ≠ 0 ∨ (coefficient = 0 ∧ exponent = 0)

namespace PyDecimal

/-- Where the decimal point is, counted from the first digit. -/
def point (x : PyDecimal) : ℤ := (decimalRepr x.coefficient).length + x.exponent

/-- Python writes an exponent where there would be too many zeros. -/
def usesExponent (x : PyDecimal) : Bool := decide (x.point ≤ -4 ∨ 16 < x.point)

/-- Without an exponent: the digits, and the number of places, of which there is one at least. -/
def decimal (x : PyDecimal) : ℕ × ℕ :=
  if x.exponent < 0 then (x.coefficient, x.exponent.natAbs)
  else (x.coefficient * 10 ^ (x.exponent.natAbs + 1), 1)

/-- The digits after the first one, behind a point. -/
def fraction (digits : Str) : Str := if digits = [] then [] else '.' :: digits

/-- The exponent has two digits at least. -/
def exponentRepr (e : ℤ) : Str :=
  (if e < 0 then '-' else '+') ::
    (if e.natAbs < 10 then '0' :: decimalRepr e.natAbs else decimalRepr e.natAbs)

/-- `repr(x)` -/
def repr (x : PyDecimal) : Str :=
  if x.usesExponent then
    signRepr x.negative ++ ((decimalRepr x.coefficient).take 1 ++
      (fraction ((decimalRepr x.coefficient).drop 1) ++ 'e' :: exponentRepr (x.point - 1)))
  else signRepr x.negative ++ pointRepr x.decimal.1 x.decimal.2

/-- `numeric_in` of this text. An exponent is carried out, and leaves as few places as it can. -/
def numeric (x : PyDecimal) : Numeric :=
  if x.usesExponent then
    if x.exponent < 0 then .ofDigits x.negative x.coefficient x.exponent.natAbs
    else .ofDigits x.negative (x.coefficient * 10 ^ x.exponent.natAbs) 0
  else .ofDigits x.negative x.decimal.1 x.decimal.2

/-- Its two texts agree: there is no exponent and no negative zero. -/
def plain (x : PyDecimal) : Bool := !x.usesExponent && (!x.negative || decide (x.coefficient ≠ 0))

end PyDecimal

/-- What comes after a value inside another one. -/
def isStop (c : Char) : Bool := decide (c ∈ [',', ':', ']', '}'])

theorem isStop_of_isDigit {c : Char} (h : c.isDigit = true) : isStop c = false := by
  apply decide_eq_false
  intro hmem
  simp only [List.mem_cons, List.not_mem_nil, or_false] at hmem
  rcases hmem with rfl | rfl | rfl | rfl
  all_goals cases h

theorem mem_signRepr {negative : Bool} {c : Char} (h : c ∈ signRepr negative) : c = '-' := by
  rw [signRepr] at h
  split at h
  · exact List.mem_singleton.mp h
  · cases h

/-- A sign and a decimal are known by their text. -/
theorem signRepr_append_injective {negative negative' : Bool}
    {coefficient coefficient' scale scale' : ℕ}
    (h : signRepr negative ++ pointRepr coefficient scale =
      signRepr negative' ++ pointRepr coefficient' scale') :
    negative = negative' ∧ coefficient = coefficient' ∧ scale = scale' := by
  have hminus : ∀ coefficient scale rest, '-' :: rest ≠ pointRepr coefficient scale := by
    intro coefficient scale rest heq
    obtain ⟨c, rest', hpoint, hdigit⟩ := exists_cons_pointRepr coefficient scale
    rw [hpoint] at heq
    rw [← (List.cons.inj heq).1] at hdigit
    cases hdigit
  cases negative with
  | false =>
    cases negative' with
    | false => exact ⟨rfl, pointRepr_injective h⟩
    | true => exact absurd h.symm (hminus _ _ _)
  | true =>
    cases negative' with
    | false => exact absurd h (hminus _ _ _)
    | true => exact ⟨rfl, pointRepr_injective (List.cons.inj h).2⟩

namespace Numeric

theorem text_injective {m n : Numeric} (h : m.text = n.text) : m = n := by
  obtain ⟨hnegative, hcoefficient, hscale⟩ := signRepr_append_injective h
  exact Numeric.ext hnegative hcoefficient hscale

theorem mem_text {n : Numeric} {c : Char} (h : c ∈ n.text) :
    c.isDigit = true ∨ c = '-' ∨ c = '.' := by
  rw [text, List.mem_append] at h
  rcases h with h | h
  · exact .inr (.inl (mem_signRepr h))
  · exact (mem_pointRepr h).imp_right .inr

theorem isStop_of_mem_text {n : Numeric} {c : Char} (h : c ∈ n.text) : isStop c = false := by
  rcases mem_text h with hdigit | rfl | rfl
  · exact isStop_of_isDigit hdigit
  · rfl
  · rfl

/-- A number that is not zero keeps its sign. -/
theorem text_ofDigits {negative : Bool} {coefficient : ℕ} (scale : ℕ)
    (h : negative = true → coefficient ≠ 0) :
    (ofDigits negative coefficient scale).text =
      signRepr negative ++ pointRepr coefficient scale := by
  cases negative with
  | false => rfl
  | true =>
    show signRepr (true && decide (coefficient ≠ 0)) ++ _ = _
    rw [Bool.true_and, decide_eq_true (h rfl)]
    rfl

end Numeric

/-- A whole number. -/
def intNumeric (n : ℤ) : Numeric := .ofDigits (decide (n < 0)) n.natAbs 0

theorem text_intNumeric (n : ℤ) : (intNumeric n).text = intRepr n := by
  rw [intNumeric, Numeric.text_ofDigits, signRepr, pointRepr, if_pos rfl, intRepr]
  · by_cases hneg : n < 0
    · rw [if_pos (decide_eq_true hneg), if_pos hneg]
      rfl
    · rw [if_neg (ne_true_of_eq_false (decide_eq_false hneg)), if_neg hneg]
      rfl
  · intro hneg
    have := of_decide_eq_true hneg
    omega

namespace PyDecimal

theorem coefficient_decimal {x : PyDecimal} : x.decimal.1 ≠ 0 ↔ x.coefficient ≠ 0 := by
  rw [decimal]
  split
  · rfl
  · show x.coefficient * 10 ^ (x.exponent.natAbs + 1) ≠ 0 ↔ _
    rw [Nat.mul_ne_zero_iff, and_iff_left (Nat.pow_pos (Nat.zero_lt_succ 9)).ne']

theorem mem_exponentRepr {e : ℤ} {c : Char} (h : c ∈ exponentRepr e) :
    c.isDigit = true ∨ c = '-' ∨ c = '+' := by
  rw [exponentRepr, List.mem_cons] at h
  rcases h with rfl | h
  · split
    · exact .inr (.inl rfl)
    · exact .inr (.inr rfl)
  · split at h
    · rcases List.mem_cons.mp h with rfl | h
      · exact .inl rfl
      · exact .inl (isDigit_of_mem_decimalRepr h)
    · exact .inl (isDigit_of_mem_decimalRepr h)

theorem mem_fraction {digits : Str} {c : Char} (h : c ∈ fraction digits) :
    c = '.' ∨ c ∈ digits := by
  rw [fraction] at h
  split at h
  · cases h
  · exact List.mem_cons.mp h

theorem isStop_of_mem_repr {x : PyDecimal} {c : Char} (h : c ∈ x.repr) : isStop c = false := by
  rw [repr] at h
  split at h
  · rw [List.mem_append, List.mem_append, List.mem_append, List.mem_cons] at h
    rcases h with h | h | h | rfl | h
    · obtain rfl := mem_signRepr h
      rfl
    · exact isStop_of_isDigit (isDigit_of_mem_decimalRepr (List.mem_of_mem_take h))
    · rcases mem_fraction h with rfl | h
      · rfl
      · exact isStop_of_isDigit (isDigit_of_mem_decimalRepr (List.mem_of_mem_drop h))
    · rfl
    · rcases mem_exponentRepr h with hdigit | rfl | rfl
      · exact isStop_of_isDigit hdigit
      · rfl
      · rfl
  · rcases List.mem_append.mp h with h | h
    · obtain rfl := mem_signRepr h
      rfl
    · rcases mem_pointRepr h with hdigit | rfl
      · exact isStop_of_isDigit hdigit
      · rfl

theorem e_mem_repr {x : PyDecimal} (h : x.usesExponent = true) : 'e' ∈ x.repr := by
  rw [repr, if_pos h]
  exact List.mem_append_right _ (List.mem_append_right _ (List.mem_append_right _
    List.mem_cons_self))

/-- **Numbers**: the `repr` of a float is the text of a stored number if and only if this is the
float as it is stored, and the float a plain one. -/
theorem repr_eq_text_iff (x : PyDecimal) (n : Numeric) :
    x.repr = n.text ↔ n = x.numeric ∧ x.plain = true := by
  by_cases hexponent : x.usesExponent = true
  · rw [plain, hexponent]
    refine iff_of_false (fun h => ?_) fun h => Bool.false_ne_true h.2
    have hmem := e_mem_repr hexponent
    rw [h] at hmem
    rcases Numeric.mem_text hmem with hdigit | hminus | hpoint
    · cases hdigit
    · cases hminus
    · cases hpoint
  · have hfixed : x.repr = signRepr x.negative ++ pointRepr x.decimal.1 x.decimal.2 := by
      rw [repr, if_neg hexponent]
    have hstored : x.numeric = .ofDigits x.negative x.decimal.1 x.decimal.2 := by
      rw [numeric, if_neg hexponent]
    have hplain : x.plain = true ↔ (x.negative = true → x.decimal.1 ≠ 0) := by
      rw [plain, coefficient_decimal, Bool.eq_false_of_not_eq_true hexponent]
      cases x.negative with
      | false => exact iff_of_true rfl fun h => absurd h Bool.false_ne_true
      | true =>
        rw [Bool.not_false, Bool.true_and, Bool.not_true, Bool.false_or, decide_eq_true_eq]
        exact ⟨fun h _ => h, fun h => h rfl⟩
    rw [hplain, hstored, hfixed]
    constructor
    · intro h
      obtain ⟨hnegative, hcoefficient, -⟩ := signRepr_append_injective h
      have hsigned : x.negative = true → x.decimal.1 ≠ 0 := by
        rw [hnegative, hcoefficient]
        exact n.signed
      rw [← Numeric.text_ofDigits _ hsigned] at h
      exact ⟨(Numeric.text_injective h).symm, hsigned⟩
    · rintro ⟨rfl, hsigned⟩
      exact (Numeric.text_ofDigits _ hsigned).symm

end PyDecimal

/-! ### Values -/

/-- A JSON value, as `json.loads` returns it. -/
inductive PyJson
  | null
  | bool (b : Bool)
  | int (n : ℤ)
  | float (x : PyDecimal)
  | str (s : String)
  | arr (items : List PyJson)
  | obj (entries : List (String × PyJson))

/-- A JSON value in a JSONB column. -/
inductive Jsonb
  | null
  | bool (b : Bool)
  | num (n : Numeric)
  | str (s : String)
  | arr (items : List Jsonb)
  | obj (entries : List (String × Jsonb))

/-- The order of the members of a JSONB object: shorter keys come first. -/
def InOrder {α : Type} (e d : String × α) : Prop :=
  toLex (e.1.utf8ByteSize, e.1) ≤ toLex (d.1.utf8ByteSize, d.1)

instance {α : Type} : DecidableRel (@InOrder α) := fun e d =>
  inferInstanceAs (Decidable (toLex (e.1.utf8ByteSize, e.1) ≤ toLex (d.1.utf8ByteSize, d.1)))

instance {α : Type} : Std.Total (@InOrder α) := ⟨fun _ _ => le_total _ _⟩

instance {α : Type} : IsTrans (String × α) InOrder := ⟨fun _ _ _ h h' => le_trans h h'⟩

namespace PyJson

/-- Induction on a value, with the hypothesis for every item of a list and every value of an
object. -/
@[elab_as_elim]
theorem inductionOn {motive : PyJson → Prop} (v : PyJson) (null : motive .null)
    (bool : ∀ b, motive (.bool b)) (int : ∀ n, motive (.int n)) (float : ∀ x, motive (.float x))
    (str : ∀ s, motive (.str s))
    (arr : ∀ items : List PyJson, (∀ item ∈ items, motive item) → motive (.arr items))
    (obj : ∀ entries : List (String × PyJson), (∀ e ∈ entries, motive e.2) →
      motive (.obj entries)) : motive v :=
  @PyJson.rec motive (fun items => ∀ item ∈ items, motive item)
    (fun entries => ∀ e ∈ entries, motive e.2) (fun e => motive e.2) null bool int float str arr obj
    (List.forall_mem_nil _) (fun _ _ h hs => List.forall_mem_cons.mpr ⟨h, hs⟩)
    (List.forall_mem_nil _) (fun _ _ h hs => List.forall_mem_cons.mpr ⟨h, hs⟩)
    (fun _ _ h => h) v

mutual

/-- `repr(v)` -/
def repr (isprintable : Char → Bool) : PyJson → Str
  | .null => ['N', 'o', 'n', 'e']
  | .bool b => if b then ['T', 'r', 'u', 'e'] else ['F', 'a', 'l', 's', 'e']
  | .int n => intRepr n
  | .float x => x.repr
  | .str s => strRepr isprintable s.toList
  | .arr items => '[' :: (List.intercalate [',', ' '] (reprItems isprintable items) ++ [']'])
  | .obj entries => '{' :: (List.intercalate [',', ' '] (reprEntries isprintable entries) ++ ['}'])

def reprItems (isprintable : Char → Bool) : List PyJson → List Str
  | [] => []
  | v :: items => v.repr isprintable :: reprItems isprintable items

def reprEntries (isprintable : Char → Bool) : List (String × PyJson) → List Str
  | [] => []
  | (key, v) :: entries =>
    (strRepr isprintable key.toList ++ ':' :: ' ' :: v.repr isprintable) ::
      reprEntries isprintable entries

end

mutual

/-- `jsonb_in` of `json.dumps(v)` -/
def stored : PyJson → Jsonb
  | .null => .null
  | .bool b => .bool b
  | .int n => .num (intNumeric n)
  | .float x => .num x.numeric
  | .str s => .str s
  | .arr items => .arr (storedItems items)
  | .obj entries => .obj ((storedEntries entries).insertionSort InOrder)

def storedItems : List PyJson → List Jsonb
  | [] => []
  | v :: items => v.stored :: storedItems items

def storedEntries : List (String × PyJson) → List (String × Jsonb)
  | [] => []
  | (key, v) :: entries => (key, v.stored) :: storedEntries entries

end

mutual

/-- The two texts of the value inside another one agree: nothing in it is a truth value or null, its
strings and numbers are plain, and its keys in the order of the database. -/
def alike (isprintable : Char → Bool) : PyJson → Bool
  | .null | .bool _ => false
  | .int _ => true
  | .float x => x.plain
  | .str s => plainStr isprintable s.toList
  | .arr items => alikeItems isprintable items
  | .obj entries => decide (entries.Pairwise InOrder) &&
      alikeEntries isprintable entries

def alikeItems (isprintable : Char → Bool) : List PyJson → Bool
  | [] => true
  | v :: items => v.alike isprintable && alikeItems isprintable items

def alikeEntries (isprintable : Char → Bool) : List (String × PyJson) → Bool
  | [] => true
  | (key, v) :: entries => plainStr isprintable key.toList && v.alike isprintable &&
      alikeEntries isprintable entries

end

/-- `str(v)` -/
def pyStr (isprintable : Char → Bool) : PyJson → Str
  | .str s => s.toList
  | v => v.repr isprintable

/-- The text of the stored value is `str(v)`: it is a string, or its texts agree inside another
value. -/
def printsAlike (isprintable : Char → Bool) : PyJson → Bool
  | .str _ => true
  | v => v.alike isprintable

end PyJson

namespace Jsonb

mutual

/-- `jsonb_out` -/
def text : Jsonb → Str
  | .null => ['n', 'u', 'l', 'l']
  | .bool b => if b then ['t', 'r', 'u', 'e'] else ['f', 'a', 'l', 's', 'e']
  | .num n => n.text
  | .str s => jsonStr s.toList
  | .arr items => '[' :: (List.intercalate [',', ' '] (textItems items) ++ [']'])
  | .obj entries => '{' :: (List.intercalate [',', ' '] (textEntries entries) ++ ['}'])

def textItems : List Jsonb → List Str
  | [] => []
  | j :: items => j.text :: textItems items

def textEntries : List (String × Jsonb) → List Str
  | [] => []
  | (key, j) :: entries => (jsonStr key.toList ++ ':' :: ' ' :: j.text) :: textEntries entries

end

mutual

/-- The data, in which numbers are compared by value. -/
def value : Jsonb → Json
  | .null => .null
  | .bool b => .bool b
  | .num n => .num (.finite n.value)
  | .str s => .str s
  | .arr items => .arr (valueItems items)
  | .obj entries => .obj (valueEntries entries)

def valueItems : List Jsonb → List Json
  | [] => []
  | j :: items => j.value :: valueItems items

def valueEntries : List (String × Jsonb) → List (String × Json)
  | [] => []
  | (key, j) :: entries => (key, j.value) :: valueEntries entries

end

/-- `metadata ->> key`, of the member. A JSON null is an SQL `NULL`. -/
def asString : Jsonb → Option Str
  | .null => none
  | .str s => some s.toList
  | j => some j.text

/-- The members of every object are in their order. -/
inductive Canonical : Jsonb → Prop
  | null : Canonical .null
  | bool (b : Bool) : Canonical (.bool b)
  | num (n : Numeric) : Canonical (.num n)
  | str (s : String) : Canonical (.str s)
  | arr {items : List Jsonb} (h : ∀ j ∈ items, Canonical j) : Canonical (.arr items)
  | obj {entries : List (String × Jsonb)}
      (hs : entries.Pairwise InOrder) (h : ∀ e ∈ entries, Canonical e.2) : Canonical (.obj entries)

end Jsonb

/-! ### Members -/

theorem PyJson.reprItems_eq (items : List PyJson) :
    reprItems isprintable items = items.map (repr isprintable) := by
  induction items with
  | nil => rw [reprItems, List.map_nil]
  | cons v items ih => rw [reprItems, ih, List.map_cons]

/-- A member of an object. -/
def PyJson.entryRepr (isprintable : Char → Bool) (e : String × PyJson) : Str :=
  strRepr isprintable e.1.toList ++ ':' :: ' ' :: e.2.repr isprintable

theorem PyJson.reprEntries_eq (entries : List (String × PyJson)) :
    reprEntries isprintable entries = entries.map (entryRepr isprintable) := by
  induction entries with
  | nil => rw [reprEntries, List.map_nil]
  | cons e entries ih =>
    rw [reprEntries, ih, List.map_cons]
    rfl

theorem PyJson.storedItems_eq (items : List PyJson) : storedItems items = items.map stored := by
  induction items with
  | nil => rw [storedItems, List.map_nil]
  | cons v items ih => rw [storedItems, ih, List.map_cons]

theorem PyJson.storedEntries_eq (entries : List (String × PyJson)) :
    storedEntries entries = entries.map fun e => (e.1, e.2.stored) := by
  induction entries with
  | nil => rw [storedEntries, List.map_nil]
  | cons e entries ih => rw [storedEntries, ih, List.map_cons]

theorem PyJson.alikeItems_iff (items : List PyJson) : alikeItems isprintable items = true ↔
    ∀ v ∈ items, v.alike isprintable = true := by
  induction items with
  | nil => exact iff_of_true (by rw [alikeItems]) (List.forall_mem_nil _)
  | cons v items ih => rw [alikeItems, Bool.and_eq_true, ih, List.forall_mem_cons]

theorem PyJson.alikeEntries_iff (entries : List (String × PyJson)) :
    alikeEntries isprintable entries = true ↔
      ∀ e ∈ entries, plainStr isprintable e.1.toList = true ∧ e.2.alike isprintable = true := by
  induction entries with
  | nil => exact iff_of_true (by rw [alikeEntries]) (List.forall_mem_nil _)
  | cons e entries ih =>
    rw [alikeEntries, Bool.and_eq_true, Bool.and_eq_true, ih, List.forall_mem_cons]

theorem Jsonb.textItems_eq (items : List Jsonb) : textItems items = items.map text := by
  induction items with
  | nil => rw [textItems, List.map_nil]
  | cons j items ih => rw [textItems, ih, List.map_cons]

/-- A member of an object. -/
def Jsonb.entryText (e : String × Jsonb) : Str := jsonStr e.1.toList ++ ':' :: ' ' :: e.2.text

theorem Jsonb.textEntries_eq (entries : List (String × Jsonb)) :
    textEntries entries = entries.map entryText := by
  induction entries with
  | nil => rw [textEntries, List.map_nil]
  | cons e entries ih =>
    rw [textEntries, ih, List.map_cons]
    rfl

/-- What is stored has its members in order. -/
theorem PyJson.canonical_stored (v : PyJson) : v.stored.Canonical := by
  induction v using PyJson.inductionOn with
  | null => exact .null
  | bool b => exact .bool b
  | int n => exact .num _
  | float x => exact .num _
  | str s => exact .str s
  | arr items ih =>
    rw [stored, storedItems_eq]
    exact .arr (List.forall_mem_map.mpr ih)
  | obj entries ih =>
    rw [stored, storedEntries_eq]
    refine .obj (List.pairwise_insertionSort InOrder _) fun e he => ?_
    rw [List.mem_insertionSort, List.mem_map] at he
    obtain ⟨e, he, rfl⟩ := he
    exact ih e he

/-! ### What a text begins with -/

/-- The kinds of values, told by how they begin. -/
inductive Kind
  | number
  | string
  | array
  | object
  | word
  | other

/-- `other` is what begins no JSON value. -/
def Kind.ofChar (c : Char) : Kind :=
  if c.isDigit = true ∨ c = '-' then .number
  else if c = '"' then .string
  else if c = '[' then .array
  else if c = '{' then .object
  else if c ∈ ['n', 't', 'f'] then .word
  else .other

def Jsonb.kind : Jsonb → Kind
  | .null | .bool _ => .word
  | .num _ => .number
  | .str _ => .string
  | .arr _ => .array
  | .obj _ => .object

/-- Python writes its own words. -/
def PyJson.kind : PyJson → Kind
  | .null | .bool _ => .other
  | .int _ | .float _ => .number
  | .str _ => .string
  | .arr _ => .array
  | .obj _ => .object

theorem Numeric.exists_cons_text (n : Numeric) :
    ∃ c rest, n.text = c :: rest ∧ (c.isDigit = true ∨ c = '-') := by
  rw [text]
  cases n.negative with
  | false =>
    obtain ⟨c, rest, h, hdigit⟩ := exists_cons_pointRepr n.coefficient n.scale
    exact ⟨c, rest, h, .inl hdigit⟩
  | true => exact ⟨'-', _, rfl, .inr rfl⟩

theorem PyDecimal.exists_cons_repr (x : PyDecimal) :
    ∃ c rest, x.repr = c :: rest ∧ (c.isDigit = true ∨ c = '-') := by
  rw [repr]
  cases x.negative with
  | true =>
    split
    · exact ⟨'-', _, rfl, .inr rfl⟩
    · exact ⟨'-', _, rfl, .inr rfl⟩
  | false =>
    split
    · obtain ⟨c, rest, h, hdigit⟩ := exists_cons_pointRepr x.coefficient 0
      rw [pointRepr, if_pos rfl] at h
      rw [h]
      exact ⟨c, _, rfl, .inl hdigit⟩
    · obtain ⟨c, rest, h, hdigit⟩ := exists_cons_pointRepr x.decimal.1 x.decimal.2
      exact ⟨c, rest, h, .inl hdigit⟩

theorem Kind.ofChar_of_number {c : Char} (h : c.isDigit = true ∨ c = '-') :
    Kind.ofChar c = .number ∧ isStop c = false := by
  refine ⟨if_pos h, ?_⟩
  rcases h with hdigit | rfl
  · exact isStop_of_isDigit hdigit
  · rfl

theorem Jsonb.exists_cons_text (j : Jsonb) :
    ∃ c rest, j.text = c :: rest ∧ Kind.ofChar c = j.kind ∧ isStop c = false := by
  cases j with
  | null => exact ⟨'n', _, rfl, rfl, rfl⟩
  | bool b =>
    cases b with
    | true => exact ⟨'t', _, rfl, rfl, rfl⟩
    | false => exact ⟨'f', _, rfl, rfl, rfl⟩
  | num n =>
    obtain ⟨c, rest, h, hc⟩ := n.exists_cons_text
    exact ⟨c, rest, by rw [text, h], Kind.ofChar_of_number hc⟩
  | str s => exact ⟨'"', _, by rw [text, jsonStr], rfl, rfl⟩
  | arr items => exact ⟨'[', _, by rw [text], rfl, rfl⟩
  | obj entries => exact ⟨'{', _, by rw [text], rfl, rfl⟩

theorem PyJson.exists_cons_repr (v : PyJson) :
    ∃ c rest, v.repr isprintable = c :: rest ∧
      (Kind.ofChar c = v.kind ∨ Kind.ofChar c = .other) ∧ isStop c = false := by
  cases v with
  | null => exact ⟨'N', _, rfl, .inl rfl, rfl⟩
  | bool b =>
    cases b with
    | true => exact ⟨'T', _, rfl, .inl rfl, rfl⟩
    | false => exact ⟨'F', _, rfl, .inl rfl, rfl⟩
  | int n =>
    obtain ⟨c, rest, h, hc⟩ := (intNumeric n).exists_cons_text
    obtain ⟨hkind, hstop⟩ := Kind.ofChar_of_number hc
    exact ⟨c, rest, by rw [repr, ← text_intNumeric, h], .inl hkind, hstop⟩
  | float x =>
    obtain ⟨c, rest, h, hc⟩ := x.exists_cons_repr
    obtain ⟨hkind, hstop⟩ := Kind.ofChar_of_number hc
    exact ⟨c, rest, by rw [repr, h], .inl hkind, hstop⟩
  | str s =>
    refine ⟨reprQuote s.toList, _, by rw [repr, strRepr], ?_⟩
    rw [reprQuote]
    split
    · exact ⟨.inl rfl, rfl⟩
    · exact ⟨.inr rfl, rfl⟩
  | arr items => exact ⟨'[', _, by rw [repr], .inl rfl, rfl⟩
  | obj entries => exact ⟨'{', _, by rw [repr], .inl rfl, rfl⟩

/-- Values that begin the same text are of one kind. -/
theorem kind_eq_of_append {v : PyJson} {j : Jsonb} {r r' : Str}
    (h : v.repr isprintable ++ r = j.text ++ r') : j.kind = v.kind := by
  obtain ⟨c, rest, hrepr, hkind, -⟩ := @PyJson.exists_cons_repr isprintable v
  obtain ⟨d, rest', htext, hkind', -⟩ := j.exists_cons_text
  rw [hrepr, htext] at h
  obtain rfl := (List.cons.inj h).1
  rw [hkind'] at hkind
  refine hkind.resolve_right fun hother => ?_
  cases j <;> cases hother

/-! ### The two texts -/

/-- The items of a list, if each of them is the stored item. -/
theorem eq_map_of_forall₂ {α β : Type} {f : α → β} {p : α → Prop} {as : List α} {bs : List β}
    (h : List.Forall₂ (fun a b => b = f a ∧ p a) as bs) : bs = as.map f ∧ ∀ a ∈ as, p a := by
  induction h with
  | nil => exact ⟨rfl, List.forall_mem_nil _⟩
  | cons hfirst _ ih =>
    rw [hfirst.1, ih.1]
    exact ⟨rfl, List.forall_mem_cons.mpr ⟨hfirst.2, ih.2⟩⟩

theorem Jsonb.exists_num {j : Jsonb} (h : j.kind = .number) : ∃ n, j = .num n := by
  cases j <;> cases h
  exact ⟨_, rfl⟩

theorem Jsonb.exists_str {j : Jsonb} (h : j.kind = .string) : ∃ s, j = .str s := by
  cases j <;> cases h
  exact ⟨_, rfl⟩

theorem Jsonb.exists_arr {j : Jsonb} (h : j.kind = .array) : ∃ items, j = .arr items := by
  cases j <;> cases h
  exact ⟨_, rfl⟩

theorem Jsonb.exists_obj {j : Jsonb} (h : j.kind = .object) : ∃ entries, j = .obj entries := by
  cases j <;> cases h
  exact ⟨_, rfl⟩

/-- A member is read off if its value is. -/
theorem separable_entry {e : String × PyJson} {d : String × Jsonb}
    (h : Separable isStop (e.2.repr isprintable) d.2.text
      (d.2 = e.2.stored ∧ e.2.alike isprintable = true)) :
    Separable isStop (PyJson.entryRepr isprintable e) (Jsonb.entryText d)
      (d = (e.1, e.2.stored) ∧
        plainStr isprintable e.1.toList = true ∧ e.2.alike isprintable = true) := by
  intro r r' hr hr' heq
  rw [PyJson.entryRepr, Jsonb.entryText, List.append_assoc, List.append_assoc] at heq
  obtain ⟨hkey, hplain, hrest⟩ := str_eq_of_append heq
  obtain ⟨⟨hvalue, halike⟩, hend⟩ := h r r' hr hr' (List.cons.inj (List.cons.inj hrest).2).2
  exact ⟨⟨Prod.ext (String.toList_injective hkey.symm) hvalue, hplain, halike⟩, hend⟩

theorem PyJson.begins_repr (v : PyJson) : Begins isStop (v.repr isprintable) := by
  obtain ⟨c, rest, h, -, hstop⟩ := @PyJson.exists_cons_repr isprintable v
  exact ⟨c, rest, h, hstop⟩

theorem Jsonb.begins_text (j : Jsonb) : Begins isStop j.text := by
  obtain ⟨c, rest, h, -, hstop⟩ := j.exists_cons_text
  exact ⟨c, rest, h, hstop⟩

theorem PyJson.begins_entryRepr (e : String × PyJson) :
    Begins isStop (entryRepr isprintable e) := by
  refine ⟨reprQuote e.1.toList, _, by rw [entryRepr, strRepr, List.cons_append], ?_⟩
  rw [reprQuote]
  split
  · rfl
  · rfl

theorem Jsonb.begins_entryText (e : String × Jsonb) : Begins isStop (entryText e) :=
  ⟨'"', _, by rw [entryText, jsonStr, List.cons_append], rfl⟩

theorem pairwise_stored_iff (entries : List (String × PyJson)) :
    (entries.map fun e => (e.1, e.2.stored)).Pairwise InOrder ↔ entries.Pairwise InOrder :=
  List.pairwise_map

theorem separable_arr {items : List PyJson} {js : List Jsonb}
    (h : ∀ v ∈ items, ∀ j ∈ js, Separable isStop (v.repr isprintable) j.text
      (j = v.stored ∧ v.alike isprintable = true)) :
    Separable isStop ((PyJson.arr items).repr isprintable) (Jsonb.arr js).text
      (Jsonb.arr js = (PyJson.arr items).stored ∧
        (PyJson.arr items).alike isprintable = true) := by
  intro r r' _ _ heq
  rw [PyJson.repr, PyJson.reprItems_eq, Jsonb.text, Jsonb.textItems_eq, List.cons_append,
    List.cons_append, List.append_assoc, List.append_assoc] at heq
  obtain ⟨hitems, hrest⟩ := forall₂_of_join rfl rfl (by decide) h (fun v _ => v.begins_repr)
    (fun j _ => j.begins_text) (List.cons.inj heq).2
  obtain ⟨rfl, halike⟩ := eq_map_of_forall₂ hitems
  rw [PyJson.stored, PyJson.storedItems_eq, PyJson.alike, PyJson.alikeItems_iff]
  exact ⟨⟨rfl, halike⟩, hrest⟩

/-- If the members of an object are those of a stored one in their order, they are in this order. -/
theorem separable_obj {entries : List (String × PyJson)} {es : List (String × Jsonb)}
    (hsorted : es.Pairwise InOrder)
    (h : ∀ e ∈ entries, ∀ d ∈ es, Separable isStop (e.2.repr isprintable) d.2.text
      (d.2 = e.2.stored ∧ e.2.alike isprintable = true)) :
    Separable isStop ((PyJson.obj entries).repr isprintable) (Jsonb.obj es).text
      (Jsonb.obj es = (PyJson.obj entries).stored ∧
        (PyJson.obj entries).alike isprintable = true) := by
  intro r r' _ _ heq
  rw [PyJson.repr, PyJson.reprEntries_eq, Jsonb.text, Jsonb.textEntries_eq, List.cons_append,
    List.cons_append, List.append_assoc, List.append_assoc] at heq
  obtain ⟨hentries, hrest⟩ := forall₂_of_join rfl rfl (by decide)
    (fun e he d hd => separable_entry (h e he d hd)) (fun e _ => PyJson.begins_entryRepr e)
    (fun d _ => Jsonb.begins_entryText d) (List.cons.inj heq).2
  obtain ⟨rfl, halike⟩ := eq_map_of_forall₂ hentries
  rw [PyJson.stored, PyJson.storedEntries_eq, hsorted.insertionSort_eq, PyJson.alike,
    Bool.and_eq_true, decide_eq_true_eq, PyJson.alikeEntries_iff]
  exact ⟨⟨rfl, (pairwise_stored_iff entries).mp hsorted, halike⟩, hrest⟩

/-- **What both write**: if Python's text of a value and the database's text of another one begin
the same text, the other one is the first one as it is stored, and its two texts agree. -/
theorem separable_repr (v : PyJson) {j : Jsonb} (hj : j.Canonical) :
    Separable isStop (v.repr isprintable) j.text
      (j = v.stored ∧ v.alike isprintable = true) := by
  intro r r' hr hr' heq
  induction v using PyJson.inductionOn generalizing j r r' with
  | null =>
    have hkind := kind_eq_of_append heq
    cases j <;> cases hkind
  | bool b =>
    have hkind := kind_eq_of_append heq
    cases j <;> cases hkind
  | int n =>
    obtain ⟨m, rfl⟩ := Jsonb.exists_num (kind_eq_of_append heq)
    rw [PyJson.repr, Jsonb.text, ← text_intNumeric] at heq
    refine separable_of_forall (fun c => Numeric.isStop_of_mem_text)
      (fun c => Numeric.isStop_of_mem_text) (fun h => ?_) r r' hr hr' heq
    rw [PyJson.stored, Numeric.text_injective h]
    exact ⟨rfl, rfl⟩
  | float x =>
    obtain ⟨m, rfl⟩ := Jsonb.exists_num (kind_eq_of_append heq)
    rw [PyJson.repr, Jsonb.text] at heq
    refine separable_of_forall (fun c => PyDecimal.isStop_of_mem_repr)
      (fun c => Numeric.isStop_of_mem_text) (fun h => ?_) r r' hr hr' heq
    obtain ⟨rfl, hplain⟩ := (x.repr_eq_text_iff m).mp h
    exact ⟨by rw [PyJson.stored], hplain⟩
  | str s =>
    obtain ⟨t, rfl⟩ := Jsonb.exists_str (kind_eq_of_append heq)
    rw [PyJson.repr, Jsonb.text] at heq
    obtain ⟨hs, hplain, hrest⟩ := str_eq_of_append heq
    obtain rfl := String.toList_injective hs
    exact ⟨⟨by rw [PyJson.stored], hplain⟩, hrest⟩
  | arr items ih =>
    obtain ⟨js, rfl⟩ := Jsonb.exists_arr (kind_eq_of_append heq)
    cases hj with
    | arr hjs => exact separable_arr (fun v hv j hj => ih v hv (hjs j hj)) r r' hr hr' heq
  | obj entries ih =>
    obtain ⟨es, rfl⟩ := Jsonb.exists_obj (kind_eq_of_append heq)
    cases hj with
    | obj hsorted hes =>
      exact separable_obj hsorted (fun e he d hd => ih e he (hes d hd)) r r' hr hr' heq

/-- **Alike**: the two texts of such a value agree. -/
theorem repr_of_alike {v : PyJson} (h : v.alike isprintable = true) :
    v.repr isprintable = v.stored.text := by
  induction v using PyJson.inductionOn with
  | null => cases h
  | bool b => cases h
  | int n => rw [PyJson.repr, PyJson.stored, Jsonb.text, text_intNumeric]
  | float x =>
    rw [PyJson.repr, PyJson.stored, Jsonb.text]
    exact (x.repr_eq_text_iff _).mpr ⟨rfl, h⟩
  | str s =>
    rw [PyJson.repr, PyJson.stored, Jsonb.text]
    exact strRepr_of_plain h
  | arr items ih =>
    rw [PyJson.alike, PyJson.alikeItems_iff] at h
    rw [PyJson.repr, PyJson.reprItems_eq, PyJson.stored, PyJson.storedItems_eq, Jsonb.text,
      Jsonb.textItems_eq, List.map_map]
    rw [List.map_congr_left fun v hv => ih v hv (h v hv)]
    rfl
  | obj entries ih =>
    rw [PyJson.alike, Bool.and_eq_true, decide_eq_true_eq, PyJson.alikeEntries_iff] at h
    obtain ⟨hsorted, halike⟩ := h
    have hstored := (pairwise_stored_iff entries).mpr hsorted
    have hmembers : entries.map (PyJson.entryRepr isprintable) =
        (entries.map fun e => (e.1, e.2.stored)).map Jsonb.entryText := by
      rw [List.map_map]
      refine List.map_congr_left fun e he => ?_
      rw [PyJson.entryRepr, strRepr_of_plain (halike e he).1, ih e he (halike e he).2]
      rfl
    rw [PyJson.repr, PyJson.reprEntries_eq, PyJson.stored, PyJson.storedEntries_eq,
      hstored.insertionSort_eq, Jsonb.text, Jsonb.textEntries_eq, hmembers]

theorem repr_eq_text_iff {v : PyJson} {j : Jsonb} (hj : j.Canonical) :
    v.repr isprintable = j.text ↔ j = v.stored ∧ v.alike isprintable = true := by
  constructor
  · intro h
    exact (separable_repr v hj).of_eq h
  · rintro ⟨rfl, halike⟩
    exact repr_of_alike halike

/-! ### A stored and a given value -/

/-- The stored value has the text of the given one, though one of them is a string and the other is
not. -/
def mistaken (isprintable : Char → Bool) : Jsonb → PyJson → Bool
  | .str _, .str _ => false
  | .str s, v => s.toList = v.repr isprintable
  | .null, _ => false
  | j, .str s => j.text = s.toList
  | _, _ => false

/-- What is mistaken has another value. -/
theorem value_ne_of_mistaken {j : Jsonb} {v : PyJson} (h : mistaken isprintable j v = true) :
    j.value ≠ v.stored.value := by
  intro heq
  cases v with
  | str s => cases j <;> first | cases h | cases heq
  | _ => cases j <;> first | cases h | cases heq

theorem mistaken_str_left {v : PyJson} (hv : v.kind ≠ .string) (t : String) :
    mistaken isprintable (.str t) v = decide (t.toList = v.repr isprintable) := by
  cases v with
  | str s => exact absurd rfl hv
  | _ => rfl

theorem not_mistaken_of_kind {v : PyJson} {j : Jsonb} (hv : v.kind ≠ .string)
    (hj : j.kind ≠ .string) : mistaken isprintable j v = false := by
  cases v with
  | str s => exact absurd rfl hv
  | _ =>
    cases j with
    | str t => exact absurd rfl hj
    | _ => rfl

theorem mistaken_str_right {j : Jsonb} (hj : j.kind ≠ .string) (hnull : j ≠ .null) (s : String) :
    mistaken isprintable j (.str s) = decide (j.text = s.toList) := by
  cases j with
  | null => exact absurd rfl hnull
  | str t => exact absurd rfl hj
  | _ => rfl

theorem Jsonb.asString_of_ne {j : Jsonb} (hj : j.kind ≠ .string) (hnull : j ≠ .null) :
    j.asString = some j.text := by
  cases j with
  | null => exact absurd rfl hnull
  | str t => exact absurd rfl hj
  | _ => rfl

/-- The stored value is a string only if the given one is. -/
theorem kind_of_kind_stored {v : PyJson} (h : v.stored.kind = .string) : v.kind = .string := by
  cases v <;> rw [PyJson.stored] at h <;> first | rfl | cases h

/-- The text of no given value is that of a null. -/
theorem not_null_stored {v : PyJson} :
    ¬(Jsonb.null = v.stored ∧ v.alike isprintable = true) := by
  intro h
  have htext := (repr_eq_text_iff .null).mpr h
  have hkind := kind_eq_of_append (congrArg (· ++ []) htext)
  cases v <;> cases hkind

theorem asString_eq_repr_iff {v : PyJson} {j : Jsonb} (hj : j.Canonical) (hv : v.kind ≠ .string) :
    j.asString = some (v.repr isprintable) ↔
      (j = v.stored ∧ v.alike isprintable = true) ∨ mistaken isprintable j v = true := by
  by_cases hstring : j.kind = .string
  · obtain ⟨t, rfl⟩ := Jsonb.exists_str hstring
    have hstored : Jsonb.str t ≠ v.stored := fun h => hv (kind_of_kind_stored (h ▸ hstring))
    rw [mistaken_str_left hv, decide_eq_true_eq, Jsonb.asString, Option.some.injEq,
      or_iff_right fun h => hstored h.1]
  · rw [not_mistaken_of_kind hv hstring, or_iff_left Bool.false_ne_true]
    by_cases hnull : j = .null
    · subst hnull
      exact iff_of_false (fun h => by cases h) not_null_stored
    · rw [Jsonb.asString_of_ne hstring hnull, Option.some.injEq, eq_comm]
      exact repr_eq_text_iff hj

theorem asString_eq_str_iff {s : String} {j : Jsonb} :
    j.asString = some s.toList ↔ j = .str s ∨ mistaken isprintable j (.str s) = true := by
  by_cases hstring : j.kind = .string
  · obtain ⟨t, rfl⟩ := Jsonb.exists_str hstring
    rw [mistaken, or_iff_left Bool.false_ne_true, Jsonb.asString, Option.some.injEq,
      String.toList_inj, Jsonb.str.injEq]
  · rw [or_iff_right fun h => hstring (by rw [h]; rfl)]
    by_cases hnull : j = .null
    · subst hnull
      exact iff_of_false (fun h => by cases h) Bool.false_ne_true
    · rw [Jsonb.asString_of_ne hstring hnull, Option.some.injEq, mistaken_str_right hstring hnull,
        decide_eq_true_eq]

/-- **Texts**: a stored value has the text of a given one if it is the given one and the text of
this is the same in the database, or if it is mistaken for it. -/
theorem asString_eq_pyStr_iff {v : PyJson} {j : Jsonb} (hj : j.Canonical) :
    j.asString = some (v.pyStr isprintable) ↔
      (j = v.stored ∧ v.printsAlike isprintable = true) ∨ mistaken isprintable j v = true := by
  cases v with
  | str s =>
    rw [PyJson.pyStr, PyJson.printsAlike, and_iff_left rfl, PyJson.stored]
    exact asString_eq_str_iff
  | _ => exact asString_eq_repr_iff hj fun h => by cases h

/-- A value that is stored is not mistaken for itself. -/
theorem asString_stored_iff (v : PyJson) :
    v.stored.asString = some (v.pyStr isprintable) ↔ v.printsAlike isprintable = true := by
  rw [asString_eq_pyStr_iff v.canonical_stored, and_iff_right rfl, or_iff_left]
  exact fun h => value_ne_of_mistaken h rfl

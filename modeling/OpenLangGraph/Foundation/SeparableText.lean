import Mathlib.Algebra.Group.Nat.Defs
import Mathlib.Data.List.Forall2
import Mathlib.Data.Nat.Init
import OpenLangGraph.Foundation.PyString

/-!
# Texts that can be read off

Two writers write the same text: what follows from that for what they have written. A value inside a
list ends where a comma or a closing bracket comes, so if the two texts agree up to there and
beyond, the values end at the same place.

## Main definitions

* `fixedRepr` — the digits of a number, so many of them
* `pointRepr` — a decimal with so many places
* `Separable` — two texts that begin the same text

## Main results

* `fixedRepr_injective`, `pointRepr_injective`
* `separable_of_forall` — a text without stops ends at the first stop
* `forall₂_of_join` — lists of which the items are separable have the same items
-/

namespace PyString

/-! ### Digits -/

/-- The last digits of a number, so many of them, with `0` in front if it has fewer. -/
def fixedRepr (base : ℕ) : ℕ → ℕ → Str
  | 0, _ => []
  | width + 1, n => fixedRepr base width (n / base) ++ [Nat.digitChar (n % base)]

theorem length_fixedRepr (base width n : ℕ) : (fixedRepr base width n).length = width := by
  induction width generalizing n with
  | zero => rfl
  | succ width ih => rw [fixedRepr, List.length_append, ih, List.length_singleton]

theorem digitChar_injective : ∀ m < 16, ∀ n < 16, Nat.digitChar m = Nat.digitChar n → m = n := by
  decide

theorem isDigit_digitChar : ∀ n < 10, (Nat.digitChar n).isDigit = true := by
  decide

/-- Equal digits are those of equal remainders. -/
theorem fixedRepr_injective {base : ℕ} (hpos : 0 < base) (hbase : base ≤ 16) {width m n : ℕ}
    (h : fixedRepr base width m = fixedRepr base width n) :
    m % base ^ width = n % base ^ width := by
  induction width generalizing m n with
  | zero => rw [Nat.pow_zero, Nat.mod_one, Nat.mod_one]
  | succ width ih =>
    rw [fixedRepr, fixedRepr] at h
    obtain ⟨hrest, hlast⟩ := List.append_inj' h rfl
    have hdigit := digitChar_injective _ (Nat.lt_of_lt_of_le (Nat.mod_lt m hpos) hbase) _
      (Nat.lt_of_lt_of_le (Nat.mod_lt n hpos) hbase) (List.cons.inj hlast).1
    rw [Nat.pow_succ', Nat.mod_mul, Nat.mod_mul, hdigit, ih hrest]

theorem isDigit_of_mem_fixedRepr {width n : ℕ} {c : Char} (hc : c ∈ fixedRepr 10 width n) :
    c.isDigit = true := by
  induction width generalizing n with
  | zero => cases hc
  | succ width ih =>
    rw [fixedRepr, List.mem_append, List.mem_singleton] at hc
    rcases hc with hc | rfl
    · exact ih hc
    · exact isDigit_digitChar _ (Nat.mod_lt n (Nat.zero_lt_succ _))

/-- The decimal `coefficient / 10 ^ scale`, with `scale` places. -/
def pointRepr (coefficient scale : ℕ) : Str :=
  if scale = 0 then decimalRepr coefficient
  else decimalRepr (coefficient / 10 ^ scale) ++ '.' :: fixedRepr 10 scale coefficient

theorem point_notMem_decimalRepr (n : ℕ) : '.' ∉ decimalRepr n := by
  intro h
  have hdigit := isDigit_of_mem_decimalRepr h
  cases hdigit

theorem mem_pointRepr {coefficient scale : ℕ} {c : Char} (h : c ∈ pointRepr coefficient scale) :
    c.isDigit = true ∨ c = '.' := by
  rw [pointRepr] at h
  split at h
  · exact .inl (isDigit_of_mem_decimalRepr h)
  · rcases List.mem_append.mp h with h | h
    · exact .inl (isDigit_of_mem_decimalRepr h)
    · rcases List.mem_cons.mp h with rfl | h
      · exact .inr rfl
      · exact .inl (isDigit_of_mem_fixedRepr h)

/-- A decimal begins with a digit. -/
theorem exists_cons_pointRepr (coefficient scale : ℕ) :
    ∃ c rest, pointRepr coefficient scale = c :: rest ∧ c.isDigit = true := by
  have hdecimal : ∀ n, ∃ c rest, decimalRepr n = c :: rest ∧ c.isDigit = true := by
    intro n
    obtain ⟨c, rest, h⟩ := List.exists_cons_of_ne_nil (Nat.toDigits_ne_nil (b := 10) (n := n))
    refine ⟨c, rest, h, @isDigit_of_mem_decimalRepr n c ?_⟩
    rw [decimalRepr, h]
    exact List.mem_cons_self
  rw [pointRepr]
  split
  · exact hdecimal _
  · obtain ⟨c, rest, h, hdigit⟩ := hdecimal (coefficient / 10 ^ scale)
    exact ⟨c, rest ++ _, by rw [h, List.cons_append], hdigit⟩

/-- A decimal is known by its text, and so is the number of its places. -/
theorem pointRepr_injective {coefficient coefficient' scale scale' : ℕ}
    (h : pointRepr coefficient scale = pointRepr coefficient' scale') :
    coefficient = coefficient' ∧ scale = scale' := by
  rw [pointRepr, pointRepr] at h
  by_cases hscale : scale = 0
  · by_cases hscale' : scale' = 0
    · rw [if_pos hscale, if_pos hscale'] at h
      exact ⟨decimalRepr_injective h, hscale.trans hscale'.symm⟩
    · rw [if_pos hscale, if_neg hscale'] at h
      refine absurd ?_ (point_notMem_decimalRepr coefficient)
      rw [h]
      exact List.mem_append_right _ List.mem_cons_self
  · by_cases hscale' : scale' = 0
    · rw [if_neg hscale, if_pos hscale'] at h
      refine absurd ?_ (point_notMem_decimalRepr coefficient')
      rw [← h]
      exact List.mem_append_right _ List.mem_cons_self
    · rw [if_neg hscale, if_neg hscale'] at h
      obtain ⟨hwhole, hplaces⟩ := append_cons_inj_left (point_notMem_decimalRepr _)
        (point_notMem_decimalRepr _) h
      have hlength := congrArg List.length hplaces
      rw [length_fixedRepr, length_fixedRepr] at hlength
      subst hlength
      have hmod := fixedRepr_injective (Nat.zero_lt_succ _) (by omega) hplaces
      have hdiv := decimalRepr_injective hwhole
      refine ⟨?_, rfl⟩
      rw [← Nat.div_add_mod coefficient (10 ^ scale), hdiv, hmod, Nat.div_add_mod]

/-! ### What follows -/

/-- The text is at its end, or a stop comes next. -/
def Ends (stop : Char → Bool) (r : Str) : Prop := ∀ c ∈ r.head?, stop c = true

theorem ends_nil (stop : Char → Bool) : Ends stop [] := by
  intro c hc
  cases hc

theorem ends_cons {stop : Char → Bool} {c : Char} (hc : stop c = true) (r : Str) :
    Ends stop (c :: r) := by
  intro d hd
  obtain rfl := Option.some.inj hd
  exact hc

/-- **Two texts that begin the same text**, each of them up to a stop, have the property and end at
the same place. -/
def Separable (stop : Char → Bool) (s t : Str) (P : Prop) : Prop :=
  ∀ r r', Ends stop r → Ends stop r' → s ++ r = t ++ r' → P ∧ r = r'

variable {stop : Char → Bool} {s t : Str} {P Q : Prop}

theorem Separable.imp (h : Separable stop s t P) (hPQ : P → Q) : Separable stop s t Q := by
  intro r r' hr hr' heq
  obtain ⟨hP, hrest⟩ := h r r' hr hr' heq
  exact ⟨hPQ hP, hrest⟩

/-- What two texts are separable for holds if they are equal. -/
theorem Separable.of_eq (h : Separable stop s t P) (heq : s = t) : P :=
  (h [] [] (ends_nil stop) (ends_nil stop) (by rw [heq])).1

theorem takeWhile_append_of_ends (hs : ∀ c ∈ s, stop c = false) {r : Str} (hr : Ends stop r) :
    (s ++ r).takeWhile (fun c => !stop c) = s := by
  rw [List.takeWhile_append_of_pos fun c hc => by rw [hs c hc]; rfl]
  cases r with
  | nil => rw [List.takeWhile_nil, List.append_nil]
  | cons c r => rw [List.takeWhile_cons_of_neg (by rw [hr c rfl]; exact Bool.false_ne_true),
      List.append_nil]

/-- A text without stops ends at the first stop. -/
theorem separable_of_forall (hs : ∀ c ∈ s, stop c = false) (ht : ∀ c ∈ t, stop c = false)
    (hP : s = t → P) : Separable stop s t P := by
  intro r r' hr hr' heq
  have hst : s = t := by
    rw [← takeWhile_append_of_ends hs hr, heq, takeWhile_append_of_ends ht hr']
  rw [hst] at heq
  exact ⟨hP hst, List.append_cancel_left heq⟩

/-- The text begins, and not with a stop. -/
def Begins (stop : Char → Bool) (s : Str) : Prop := ∃ c rest, s = c :: rest ∧ stop c = false

theorem Begins.append_ne_cons (h : Begins stop s) {c : Char} (hc : stop c = true) (r r' : Str) :
    s ++ r ≠ c :: r' := by
  obtain ⟨d, rest, rfl, hd⟩ := h
  intro heq
  rw [(List.cons.inj heq).1, hc] at hd
  cases hd

theorem intercalate_cons (separator s : Str) (ss : List Str) :
    List.intercalate separator (s :: ss) = s ++ ss.flatMap (separator ++ ·) := by
  induction ss generalizing s with
  | nil => rw [List.intercalate_singleton, List.flatMap_nil, List.append_nil]
  | cons s' ss ih =>
    rw [List.intercalate_cons_cons, ih, List.flatMap_cons, List.append_assoc, List.append_assoc]

section

variable {α β : Type} {f : α → Str} {g : β → Str} {R : α → β → Prop} {separator close : Char}
  {space : Str} {as : List α} {bs : List β} {r r' : Str}

/-- After an item a separator comes, or the bracket. -/
theorem ends_rest (hseparator : stop separator = true) (hclose : stop close = true) :
    Ends stop (((as.map f).flatMap fun s => (separator :: space) ++ s) ++ close :: r) := by
  cases as with
  | nil => exact ends_cons hclose _
  | cons a as => exact ends_cons hseparator _

/-- The items after the first ones. -/
theorem forall₂_of_rest (hseparator : stop separator = true) (hclose : stop close = true)
    (hne : separator ≠ close) (h : ∀ a ∈ as, ∀ b ∈ bs, Separable stop (f a) (g b) (R a b))
    (heq : ((as.map f).flatMap fun s => (separator :: space) ++ s) ++ close :: r =
      ((bs.map g).flatMap fun s => (separator :: space) ++ s) ++ close :: r') :
    List.Forall₂ R as bs ∧ r = r' := by
  induction as generalizing bs with
  | nil =>
    cases bs with
    | nil => exact ⟨.nil, (List.cons.inj heq).2⟩
    | cons b bs => exact absurd (List.cons.inj heq).1.symm hne
  | cons a as ih =>
    cases bs with
    | nil => exact absurd (List.cons.inj heq).1 hne
    | cons b bs =>
      rw [List.map_cons, List.map_cons, List.flatMap_cons, List.flatMap_cons, List.append_assoc,
        List.append_assoc, List.append_assoc, List.append_assoc] at heq
      obtain ⟨hfirst, hrest⟩ := h a List.mem_cons_self b List.mem_cons_self _ _
        (ends_rest hseparator hclose) (ends_rest hseparator hclose) (List.append_cancel_left heq)
      obtain ⟨hitems, htail⟩ := ih (fun a ha b hb =>
        h a (List.mem_cons_of_mem _ ha) b (List.mem_cons_of_mem _ hb)) hrest
      exact ⟨.cons hfirst hitems, htail⟩

/-- **Lists**: if their items are separable, two lists that begin the same text have as many items,
and the items have the property in pairs. -/
theorem forall₂_of_join (hseparator : stop separator = true) (hclose : stop close = true)
    (hne : separator ≠ close) (h : ∀ a ∈ as, ∀ b ∈ bs, Separable stop (f a) (g b) (R a b))
    (hf : ∀ a ∈ as, Begins stop (f a)) (hg : ∀ b ∈ bs, Begins stop (g b))
    (heq : List.intercalate (separator :: space) (as.map f) ++ close :: r =
      List.intercalate (separator :: space) (bs.map g) ++ close :: r') :
    List.Forall₂ R as bs ∧ r = r' := by
  cases as with
  | nil =>
    cases bs with
    | nil => exact ⟨.nil, (List.cons.inj heq).2⟩
    | cons b bs =>
      rw [List.map_cons, intercalate_cons, List.append_assoc] at heq
      exact absurd heq.symm ((hg b List.mem_cons_self).append_ne_cons hclose _ _)
  | cons a as =>
    cases bs with
    | nil =>
      rw [List.map_cons, intercalate_cons, List.append_assoc] at heq
      exact absurd heq ((hf a List.mem_cons_self).append_ne_cons hclose _ _)
    | cons b bs =>
      rw [List.map_cons, List.map_cons, intercalate_cons, intercalate_cons, List.append_assoc,
        List.append_assoc] at heq
      obtain ⟨hfirst, hrest⟩ := h a List.mem_cons_self b List.mem_cons_self _ _
        (ends_rest hseparator hclose) (ends_rest hseparator hclose) heq
      obtain ⟨hitems, htail⟩ := forall₂_of_rest hseparator hclose hne (fun a ha b hb =>
        h a (List.mem_cons_of_mem _ ha) b (List.mem_cons_of_mem _ hb)) hrest
      exact ⟨.cons hfirst hitems, htail⟩

end

end PyString

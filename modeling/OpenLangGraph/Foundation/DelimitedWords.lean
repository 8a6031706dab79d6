import Mathlib.Computability.RegularExpressions
import Mathlib.Data.List.Chain
import Mathlib.Data.List.DropRight
import OpenLangGraph.Foundation.PyString

/-!
# Words with a delimiter between them

Strings of the pattern `[letters]+(-[letters]+)*` for any letters and any delimiter, and the steps
by which a program brings a string into this form: a run of delimiters becomes one, those at the
ends are stripped, and what is too long is cut and stripped again.

The pattern is a regular expression. What the steps keep is not seen from it, so `IsDelimited` says
it by neighbours: no delimiter is first, last, or next to another.

## Main definitions

* `DelimitedWords.subRuns` — `re.sub("p+", r, s)`
* `DelimitedWords.pattern` — the regular expression
* `DelimitedWords.IsDelimited` — the same by neighbours, and also of the empty string

## Main results

* `IsDelimited.mem_pattern` — what is not empty matches
* `isDelimited_strip`, `IsDelimited.cut` — the steps lead to the form, and keep it
* `subRuns_of_isolated`, `IsDelimited.strip_eq` — and leave alone what has it
-/

open PyString

namespace DelimitedWords

/-! ### Runs -/

/-- The scan behind `subRuns`; `inRun` says that the character before has `p`. -/
def subRunsFrom (p : Char → Bool) (r : Char) : Bool → Str → Str
  | _, [] => []
  | inRun, c :: s =>
    if p c then if inRun then subRunsFrom p r true s else r :: subRunsFrom p r true s
    else c :: subRunsFrom p r false s

/-- `re.sub("p+", r, s)`: each longest run of characters with `p` becomes one `r`. -/
def subRuns (p : Char → Bool) (r : Char) (s : Str) : Str := subRunsFrom p r false s

variable {p : Char → Bool} {r c : Char} {s t : Str} {inRun : Bool}

theorem mem_of_mem_subRuns (h : c ∈ subRuns p r s) : c = r ∨ c ∈ s := by
  have hfrom : ∀ inRun s, c ∈ subRunsFrom p r inRun s → c = r ∨ c ∈ s := by
    intro inRun s
    induction s generalizing inRun with
    | nil => intro h; cases h
    | cons d s ih =>
      intro h
      rw [subRunsFrom] at h
      have hlater {b : Bool} (hb : c ∈ subRunsFrom p r b s) : c = r ∨ c ∈ d :: s :=
        (ih b hb).imp_right (List.mem_cons_of_mem d)
      split at h
      · split at h
        · exact hlater h
        · exact (List.mem_cons.mp h).elim .inl hlater
      · rcases List.mem_cons.mp h with rfl | h
        · exact .inr List.mem_cons_self
        · exact hlater h
  exact hfrom false s h

/-- Where no character has `p` nothing is replaced. -/
theorem subRuns_of_forall (h : ∀ c ∈ s, p c = false) : subRuns p r s = s := by
  show subRunsFrom p r false s = s
  induction s with
  | nil => rfl
  | cons d s ih =>
    rw [subRunsFrom, h d List.mem_cons_self, ih fun c hc => h c (List.mem_cons_of_mem _ hc)]
    rfl

/-- No two delimiters are next to each other. -/
def Isolated (sep : Char) (s : Str) : Prop := s.IsChain fun a b => a = sep → b ≠ sep

variable {sep : Char}

/-- After a run there is no delimiter. -/
theorem isolated_subRunsFrom (sep : Char) (inRun : Bool) (s : Str) :
    Isolated sep (subRunsFrom (· = sep) sep inRun s) ∧
      (inRun = true → ∀ c ∈ (subRunsFrom (· = sep) sep inRun s).head?, c ≠ sep) := by
  induction s generalizing inRun with
  | nil => exact ⟨List.IsChain.nil, by simp [subRunsFrom]⟩
  | cons d s ih =>
    rw [subRunsFrom]
    by_cases hd : d = sep
    · rw [if_pos (decide_eq_true hd)]
      obtain ⟨hrest, hhead⟩ := ih true
      cases inRun with
      | true => exact ⟨hrest, fun _ => hhead rfl⟩
      | false => exact ⟨List.isChain_cons.mpr ⟨fun c hc _ => hhead rfl c hc, hrest⟩, by simp⟩
    · rw [if_neg (by simpa using hd)]
      refine ⟨List.isChain_cons.mpr ⟨fun c _ h => absurd h hd, (ih false).1⟩, fun _ c hc => ?_⟩
      obtain rfl := Option.some.inj hc
      exact hd

theorem isolated_subRuns (sep : Char) (s : Str) : Isolated sep (subRuns (· = sep) sep s) :=
  (isolated_subRunsFrom sep false s).1

/-- Runs of one character each are left alone. -/
theorem subRuns_of_isolated (h : Isolated sep s) : subRuns (· = sep) sep s = s := by
  have hfrom : ∀ inRun s, Isolated sep s → (inRun = true → ∀ c ∈ s.head?, c ≠ sep) →
      subRunsFrom (· = sep) sep inRun s = s := by
    intro inRun s
    induction s generalizing inRun with
    | nil => intro _ _; rfl
    | cons d s ih =>
      intro h hhead
      obtain ⟨hnext, hrest⟩ := List.isChain_cons.mp h
      rw [subRunsFrom]
      by_cases hd : d = sep
      · have hout : inRun = false := by
          by_contra hin
          exact hhead (by simpa using hin) d rfl hd
        rw [if_pos (decide_eq_true hd), hout, ih true hrest fun _ c hc => hnext c hc hd, hd]
        rfl
      · rw [if_neg (by simpa using hd), ih false hrest (by simp)]
  exact hfrom false s h (by simp)

/-! ### The pattern -/

/-- One character of the list. -/
def anyOf : List Char → RegularExpression Char
  | [] => 0
  | c :: cs => .char c + anyOf cs

/-- `[letters]+(-[letters]+)*` -/
def pattern (letters : List Char) (sep : Char) : RegularExpression Char :=
  anyOf letters * (anyOf letters).star *
    (.char sep * (anyOf letters * (anyOf letters).star)).star

theorem mem_anyOf {letters : List Char} (h : c ∈ letters) : [c] ∈ (anyOf letters).matches' := by
  induction letters with
  | nil => cases h
  | cons d letters ih =>
    rw [anyOf, RegularExpression.matches'_add, Language.mem_add]
    rcases List.mem_cons.mp h with rfl | h
    · exact .inl rfl
    · exact .inr (ih h)

/-- What follows a word: more letters, and then delimiters with words. -/
def rest (letters : List Char) (sep : Char) : Language Char :=
  (anyOf letters).star.matches' * (RegularExpression.star
    (.char sep * (anyOf letters * (anyOf letters).star))).matches'

variable {letters : List Char}

/-- A letter and what may follow it. -/
theorem cons_mem_pattern (hc : c ∈ letters) (hs : s ∈ rest letters sep) :
    c :: s ∈ (pattern letters sep).matches' := by
  obtain ⟨a, ha, b, hb, rfl⟩ := Language.mem_mul.mp hs
  exact Language.mem_mul.mpr
    ⟨[c] ++ a, Language.mem_mul.mpr ⟨[c], mem_anyOf hc, a, ha, rfl⟩, b, hb, rfl⟩

theorem nil_mem_rest : [] ∈ rest letters sep :=
  Language.mem_mul.mpr ⟨[], Language.nil_mem_kstar _, [], Language.nil_mem_kstar _, rfl⟩

theorem letter_mem_rest (hc : c ∈ letters) (hs : s ∈ rest letters sep) :
    c :: s ∈ rest letters sep := by
  obtain ⟨a, ha, b, hb, rfl⟩ := Language.mem_mul.mp hs
  refine Language.mem_mul.mpr ⟨c :: a, ?_, b, hb, rfl⟩
  rw [RegularExpression.matches'_star, ← Language.one_add_self_mul_kstar_eq_kstar]
  exact .inr (Language.mem_mul.mpr ⟨[c], mem_anyOf hc, a, ha, rfl⟩)

theorem delimiter_mem_rest (hs : s ∈ (pattern letters sep).matches') :
    sep :: s ∈ rest letters sep := by
  obtain ⟨a, ha, b, hb, rfl⟩ := Language.mem_mul.mp hs
  refine Language.mem_mul.mpr ⟨[], Language.nil_mem_kstar _, sep :: (a ++ b), ?_, rfl⟩
  rw [RegularExpression.matches'_star, ← Language.one_add_self_mul_kstar_eq_kstar]
  have hword : sep :: a ∈ (RegularExpression.char sep *
      (anyOf letters * (anyOf letters).star)).matches' :=
    Language.mem_mul.mpr ⟨[sep], rfl, a, ha, rfl⟩
  exact .inr (Language.mem_mul.mpr ⟨sep :: a, hword, b, hb, rfl⟩)

/-- Letters and delimiters, and no delimiter is first, last, or next to another. -/
structure IsDelimited (letters : List Char) (sep : Char) (s : Str) : Prop where
  chars : ∀ c ∈ s, c = sep ∨ c ∈ letters
  isolated : Isolated sep s
  head : ∀ c ∈ s.head?, c ≠ sep
  last : ∀ c ∈ s.getLast?, c ≠ sep

/-- The induction is on the string, for what follows a letter. -/
theorem mem_rest (hchars : ∀ c ∈ s, c = sep ∨ c ∈ letters) (hisolated : Isolated sep s)
    (hlast : ∀ c ∈ s.getLast?, c ≠ sep) :
    s ∈ rest letters sep ∧ ((∀ c ∈ s.head?, c ≠ sep) → s ≠ [] →
      s ∈ (pattern letters sep).matches') := by
  induction s with
  | nil => exact ⟨nil_mem_rest, fun _ h => absurd rfl h⟩
  | cons c s ih =>
    obtain ⟨hnext, hrest⟩ := List.isChain_cons.mp hisolated
    have hlater : s ≠ [] → ∀ d ∈ s.getLast?, d ≠ sep := by
      intro hne d hd
      refine hlast d ?_
      rw [List.getLast?_cons, Option.mem_def.mp hd]
      rfl
    have hchars' : ∀ d ∈ s, d = sep ∨ d ∈ letters := fun d hd =>
      hchars d (List.mem_cons_of_mem _ hd)
    have hs := ih hchars' hrest fun d hd => hlater (by rintro rfl; cases hd) d hd
    by_cases hc : c = sep
    · refine ⟨?_, fun hhead => absurd hc (hhead c rfl)⟩
      have hne : s ≠ [] := by
        rintro rfl
        exact hlast c rfl hc
      rw [hc]
      exact delimiter_mem_rest (hs.2 (fun d hd => hnext d hd hc) hne)
    · have hletter := (hchars c List.mem_cons_self).resolve_left hc
      exact ⟨letter_mem_rest hletter hs.1, fun _ _ => cons_mem_pattern hletter hs.1⟩

/-- **What is not empty matches the pattern.** -/
theorem IsDelimited.mem_pattern (h : IsDelimited letters sep s) (hne : s ≠ []) :
    s ∈ (pattern letters sep).matches' :=
  (mem_rest h.chars h.isolated h.last).2 h.head hne

/-! ### Stripping and cutting -/

theorem rstrip_eq_rdropWhile (p : Char → Bool) (s : Str) : rstrip p s = s.rdropWhile p := rfl

theorem strip_eq_rstrip (p : Char → Bool) (s : Str) : strip p s = rstrip p (s.dropWhile p) := rfl

theorem last_rstrip (sep : Char) (s : Str) : ∀ c ∈ (rstrip (· = sep) s).getLast?, c ≠ sep := by
  intro c hc hsep
  rw [rstrip, List.getLast?_reverse] at hc
  have hhead := List.head?_dropWhile_not (fun c : Char => decide (c = sep)) s.reverse
  rw [Option.mem_def.mp hc] at hhead
  simp [hsep] at hhead

/-- Stripping at the end leaves the start. -/
theorem IsDelimited.of_rstrip (hchars : ∀ c ∈ s, c = sep ∨ c ∈ letters)
    (hisolated : Isolated sep s) (hhead : ∀ c ∈ s.head?, c ≠ sep) :
    IsDelimited letters sep (rstrip (· = sep) s) := by
  obtain ⟨t, ht⟩ : rstrip (· = sep) s <+: s := List.rdropWhile_prefix _ _
  refine ⟨fun c hc => hchars c (mem_of_mem_rstrip hc), ?_, fun c hc => ?_, last_rstrip sep s⟩
  · rw [← ht] at hisolated
    exact hisolated.left_of_append
  · refine hhead c ?_
    rw [← ht, List.head?_append, Option.mem_def.mp hc]
    rfl

theorem isDelimited_strip (hchars : ∀ c ∈ s, c = sep ∨ c ∈ letters) (hisolated : Isolated sep s) :
    IsDelimited letters sep (strip (· = sep) s) := by
  rw [strip_eq_rstrip]
  refine .of_rstrip (fun c hc => hchars c ((List.dropWhile_sublist _).subset hc)) ?_ ?_
  · obtain ⟨t, ht⟩ := List.dropWhile_suffix (fun c : Char => decide (c = sep)) (l := s)
    rw [← ht] at hisolated
    exact hisolated.right_of_append
  · intro c hc hsep
    have hhead := List.head?_dropWhile_not (fun c : Char => decide (c = sep)) s
    rw [Option.mem_def.mp hc] at hhead
    simp [hsep] at hhead

/-- Cutting may leave a delimiter at the end, and no other. -/
theorem IsDelimited.cut (h : IsDelimited letters sep s) (n : ℕ) :
    IsDelimited letters sep (rstrip (· = sep) (s.take n)) := by
  refine .of_rstrip (fun c hc => h.chars c (List.mem_of_mem_take hc)) (h.isolated.take n) ?_
  intro c hc
  refine h.head c ?_
  rw [List.head?_take] at hc
  split at hc
  · cases hc
  · exact hc

theorem length_rstrip_le (p : Char → Bool) (s : Str) : (rstrip p s).length ≤ s.length := by
  rw [rstrip_eq_rdropWhile]
  exact ( List.rdropWhile_prefix p s).length_le

/-- There is nothing to strip. -/
theorem IsDelimited.strip_eq (h : IsDelimited letters sep s) : strip (· = sep) s = s := by
  have hstart : s.dropWhile (· = sep) = s := by
    cases s with
    | nil => rfl
    | cons c s => exact List.dropWhile_cons_of_neg (by simpa using h.head c rfl)
  rw [strip_eq_rstrip, hstart, rstrip_eq_rdropWhile, List.rdropWhile_eq_self_iff]
  intro hne hlast
  exact h.last _ (List.getLast?_eq_some_getLast hne) (by simpa using hlast)

end DelimitedWords

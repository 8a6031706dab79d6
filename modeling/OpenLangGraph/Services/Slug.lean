import OpenLangGraph.Foundation.DelimitedWords

/-!
# Slugs

`generate_slug` of `services/organization_service.py`, and the pattern of the `slug` field of
`OrganizationCreate` in `models/organization.py`.

What NFKD normalisation does outside ASCII is left open. On ASCII it does nothing, and what is not
ASCII afterwards is dropped, so that the rest works on ASCII only.

## Main definitions

* `Slug.generateSlug`
* `Slug.slugPattern`, `Slug.isValid` — the checks of the field

## Main results

* `Slug.isDelimited_generateSlug` — the form of a slug
* `Slug.generateSlug_spec` — its length, the pattern, and that it is its own slug
* `Slug.isValid_generateSlug` — with the default length it passes the checks of the field
-/

namespace OpenLangGraph

open PyString DelimitedWords

namespace Slug

/-- `unicodedata.normalize("NFKD", s)`. Outside ASCII it may be anything. -/
structure Nfkd where
  normalize : Str → Str
  normalize_ascii : ∀ s : Str, (∀ c ∈ s, c.toNat < 128) → normalize s = s

/-- `s.encode("ascii", "ignore").decode("ascii")` -/
def asciiOnly (s : Str) : Str := s.filter (·.toNat < 128)

/-- `[a-z0-9]` -/
def slugLetters : List Char := "abcdefghijklmnopqrstuvwxyz0123456789".toList

/-- `[\s_]`, in ASCII. -/
def isBlank (c : Char) : Bool := isAsciiSpace c || c = '_'

/-- `[a-z0-9-]` -/
def isSlugChar (c : Char) : Bool := c = '-' || c ∈ slugLetters

/-- `generate_slug` -/
def generateSlug (U : Nfkd) (name : Str) (maxLength : ℕ) : Str :=
  let normalized := U.normalize name
  let asciiText := asciiOnly normalized
  let slug := asciiText.map Char.toLower
  let slug := subRuns isBlank '-' slug
  let slug := slug.filter isSlugChar
  let slug := subRuns (· = '-') '-' slug
  let slug := strip (· = '-') slug
  if maxLength < slug.length then rstrip (· = '-') (slug.take maxLength) else slug

/-- `^[a-z0-9]+(?:-[a-z0-9]+)*$` -/
def slugPattern : RegularExpression Char := pattern slugLetters '-'

/-- `Field(min_length=1, max_length=100, pattern=...)` -/
def isValid (slug : Str) : Bool :=
  1 ≤ slug.length && slug.length ≤ 100 && slugPattern.rmatch slug

/-! ### The form of a slug -/

variable {U : Nfkd} {slug : Str} {c : Char}

/-- What the steps ask of a character: the characters of a slug pass all of them. -/
theorem slugChar_ascii (h : c = '-' ∨ c ∈ slugLetters) :
    c.toNat < 128 ∧ c.toLower = c ∧ isBlank c = false ∧ isSlugChar c = true := by
  have hall : ('-' :: slugLetters).all (fun c => decide (c.toNat < 128) &&
      decide (c.toLower = c) && !isBlank c && isSlugChar c) = true := by decide
  have hc := List.all_eq_true.mp hall c (List.mem_cons.mpr h)
  simpa [and_assoc] using hc

theorem isDelimited_generateSlug (U : Nfkd) (name : Str) (maxLength : ℕ) :
    IsDelimited slugLetters '-' (generateSlug U name maxLength) := by
  rw [generateSlug]
  generalize subRuns isBlank '-' ((asciiOnly (U.normalize name)).map Char.toLower) = text
  have hchars : ∀ c ∈ subRuns (· = '-') '-' (text.filter isSlugChar),
      c = '-' ∨ c ∈ slugLetters := by
    intro c hc
    rcases mem_of_mem_subRuns hc with hsep | hmem
    · exact .inl hsep
    · simpa [isSlugChar] using (List.mem_filter.mp hmem).2
  have hstrip := isDelimited_strip hchars (isolated_subRuns '-' _)
  split
  · exact hstrip.cut maxLength
  · exact hstrip

theorem length_generateSlug_le (U : Nfkd) (name : Str) (maxLength : ℕ) :
    (generateSlug U name maxLength).length ≤ maxLength := by
  rw [generateSlug]
  split
  · exact (length_rstrip_le _ _).trans (List.length_take_le _ _)
  · omega

/-- **No step changes a slug.** -/
theorem generateSlug_of_isDelimited (h : IsDelimited slugLetters '-' slug) {maxLength : ℕ}
    (hlength : slug.length ≤ maxLength) : generateSlug U slug maxLength = slug := by
  have hchar := fun c hc => slugChar_ascii (h.chars c hc)
  have hnormalize : U.normalize slug = slug := U.normalize_ascii slug fun c hc => (hchar c hc).1
  have hascii : asciiOnly slug = slug :=
    List.filter_eq_self.mpr fun c hc => decide_eq_true (hchar c hc).1
  have hlower : slug.map Char.toLower = slug :=
    (List.map_congr_left fun c hc => (hchar c hc).2.1).trans (List.map_id slug)
  have hblank : subRuns isBlank '-' slug = slug :=
    subRuns_of_forall fun c hc => (hchar c hc).2.2.1
  have hfilter : slug.filter isSlugChar = slug :=
    List.filter_eq_self.mpr fun c hc => (hchar c hc).2.2.2
  rw [generateSlug, hnormalize, hascii, hlower, hblank, hfilter, subRuns_of_isolated h.isolated,
    h.strip_eq]
  exact if_neg (by omega)

/-- **Slugs.** A slug is not longer than it may be, is empty or matches the pattern, and is its own
slug. -/
theorem generateSlug_spec (U : Nfkd) (name : Str) (maxLength : ℕ) :
    (generateSlug U name maxLength).length ≤ maxLength ∧
      (generateSlug U name maxLength = [] ∨
        generateSlug U name maxLength ∈ slugPattern.matches') ∧
      generateSlug U (generateSlug U name maxLength) maxLength =
        generateSlug U name maxLength := by
  have hform := isDelimited_generateSlug U name maxLength
  have hlength := length_generateSlug_le U name maxLength
  refine ⟨hlength, ?_, generateSlug_of_isDelimited hform hlength⟩
  by_cases hempty : generateSlug U name maxLength = []
  · exact .inl hempty
  · exact .inr (hform.mem_pattern hempty)

/-- With the default length a slug is valid, unless nothing of the name is left. -/
theorem isValid_generateSlug (U : Nfkd) (name : Str) (hne : generateSlug U name 100 ≠ []) :
    isValid (generateSlug U name 100) = true := by
  have hlength := length_generateSlug_le U name 100
  have hmatch : generateSlug U name 100 ∈ slugPattern.matches' :=
    (isDelimited_generateSlug U name 100).mem_pattern hne
  have hpos := List.length_pos_iff.mpr hne
  rw [isValid, (RegularExpression.rmatch_iff_matches' _ _).mpr hmatch]
  simp only [Bool.and_true, Bool.and_eq_true, decide_eq_true_eq]
  exact ⟨hpos, hlength⟩

example : generateSlug ⟨id, fun _ _ => rfl⟩ "  My_Team -- 2024! ".toList 8 = "my-team".toList := by
  decide

end Slug

end OpenLangGraph

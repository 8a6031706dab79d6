import Mathlib.Data.List.Infix
import OpenLangGraph.Foundation.PyString

/-!
# The last piece of a split

`s.split(sep)[-1]` for a separator that may overlap itself. The scan goes from left to right and
never back, so that an occurrence may be missed that begins inside the one before it. What the scan
does with a text depends on nothing of it but the last piece of what it has read.

## Main definitions

* `SplitText.IsFirst` — no occurrence begins before the one that follows
* `SplitText.lastPiece` — `s.split(sep)[-1]`

## Main results

* `SplitText.splitSub_of_isFirst` — the scan finds the first occurrence
* `SplitText.lastPiece_append` — only the last piece counts for what follows
-/

open PyString

namespace SplitText

variable {sep s t a b : Str}

/-- No occurrence of the separator begins in the text, if the separator follows it. -/
def IsFirst (sep a : Str) : Prop := ∀ u v, a = u ++ v → v ≠ [] → ¬ sep <+: v ++ sep

/-- An occurrence that begins before the separator ends with it at the latest. -/
theorem isPrefix_of_append (h : sep <+: a ++ sep ++ b) : sep <+: a ++ sep := by
  refine List.prefix_of_prefix_length_le h ⟨b, rfl⟩ ?_
  rw [List.length_append]
  omega

/-- The scan comes to the first occurrence with all that is before it, and goes on after it. -/
theorem splitSubAux_of_isFirst (hsep : sep ≠ []) (piece : Str) (h : IsFirst sep a) (b : Str) :
    splitSubAux sep 0 piece (a ++ sep ++ b) = (piece.reverse ++ a) :: splitSub sep b := by
  induction a generalizing piece with
  | nil =>
    obtain ⟨c, sep', rfl⟩ := List.exists_cons_of_ne_nil hsep
    have hfound : (c :: sep').isPrefixOf (c :: (sep' ++ b)) = true := by
      rw [ List.isPrefixOf_iff_prefix]
      exact ⟨b, rfl⟩
    rw [List.nil_append, List.cons_append, splitSubAux, if_pos hfound, List.length_cons,
      Nat.add_sub_cancel, splitSubAux_skip, List.append_nil]
    rfl
  | cons c a ih =>
    have hnot : ¬ sep.isPrefixOf (c :: (a ++ sep ++ b)) = true := by
      rw [ List.isPrefixOf_iff_prefix]
      exact fun hfound => h [] (c :: a) rfl (by simp) (isPrefix_of_append hfound)
    have hrest : IsFirst sep a := fun u v huv hv => h (c :: u) v (by rw [huv]; rfl) hv
    rw [List.cons_append, List.cons_append, splitSubAux, if_neg hnot, ih _ hrest]
    simp

theorem splitSub_of_isFirst (hsep : sep ≠ []) (h : IsFirst sep a) (b : Str) :
    splitSub sep (a ++ sep ++ b) = a :: splitSub sep b :=
  splitSubAux_of_isFirst hsep [] h b

/-- Without an occurrence there is one piece. -/
theorem splitSub_of_not_contains (h : ¬ sep <:+: s) : splitSub sep s = [s] := by
  have haux : ∀ piece, splitSubAux sep 0 piece s = [piece.reverse ++ s] := by
    induction s with
    | nil => simp [splitSubAux]
    | cons c s ih =>
      intro piece
      have hnot : ¬ sep.isPrefixOf (c :: s) = true := by
        rw [ List.isPrefixOf_iff_prefix]
        exact fun hfound => h hfound.isInfix
      rw [splitSubAux, if_neg hnot,
        ih fun hlater => h (hlater.trans (List.suffix_cons c s).isInfix)]
      simp
  exact haux []

theorem exists_isFirst (h : sep <:+: s) : ∃ a b, s = a ++ sep ++ b ∧ IsFirst sep a := by
  induction s with
  | nil =>
    obtain rfl := List.infix_nil.mp h
    exact ⟨[], [], rfl, fun u v huv hv => absurd (List.append_eq_nil_iff.mp huv.symm).2 hv⟩
  | cons c s ih =>
    by_cases hhere : sep <+: c :: s
    · obtain ⟨b, hb⟩ := hhere
      exact ⟨[], b, hb.symm, fun u v huv hv => absurd (List.append_eq_nil_iff.mp huv.symm).2 hv⟩
    · obtain ⟨a, b, rfl, hfirst⟩ := ih ((List.infix_cons_iff.mp h).resolve_left hhere)
      refine ⟨c :: a, b, rfl, fun u v huv hv hfound => ?_⟩
      cases u with
      | nil =>
        rw [← show c :: a = v from huv] at hfound
        exact hhere (hfound.trans ⟨b, rfl⟩)
      | cons d u => exact hfirst u v (List.cons.inj huv).2 hv hfound

/-! ### The last piece -/

/-- `s.split(sep)[-1]`. There is always a last piece. -/
def lastPiece (sep s : Str) : Str := (splitSub sep s).getLast?.getD []

theorem splitSub_ne_nil (sep s : Str) : splitSub sep s ≠ [] := by
  have haux : ∀ skip piece, splitSubAux sep skip piece s ≠ [] := by
    induction s with
    | nil => simp [splitSubAux]
    | cons c s ih =>
      intro skip piece
      cases skip with
      | zero =>
        rw [splitSubAux]
        split
        · simp
        · exact ih _ _
      | succ skip => exact ih _ _
  exact haux 0 []

theorem getLast?_splitSub (sep s : Str) :
    (splitSub sep s).getLast? = some (lastPiece sep s) := by
  rw [lastPiece, List.getLast?_eq_some_getLast (splitSub_ne_nil sep s)]
  rfl

theorem lastPiece_of_not_contains (h : ¬ sep <:+: s) : lastPiece sep s = s := by
  rw [lastPiece, splitSub_of_not_contains h]
  rfl

theorem lastPiece_of_isFirst (hsep : sep ≠ []) (h : IsFirst sep a) (b : Str) :
    lastPiece sep (a ++ sep ++ b) = lastPiece sep b := by
  rw [lastPiece, splitSub_of_isFirst hsep h,
    show a :: splitSub sep b = [a] ++ splitSub sep b from rfl, List.getLast?_append,
    getLast?_splitSub]
  rfl

/-- The induction is on the length of the text: after the first occurrence it is shorter. -/
theorem lastPiece_spec (hsep : sep ≠ []) (s : Str) :
    ¬ sep <:+: lastPiece sep s ∧
      ∀ t, lastPiece sep (s ++ t) = lastPiece sep (lastPiece sep s ++ t) := by
  induction hn : s.length using Nat.strong_induction_on generalizing s with
  | h n ih =>
    by_cases hcontains : sep <:+: s
    · obtain ⟨a, b, rfl, hfirst⟩ := exists_isFirst hcontains
      have hlength : b.length < n := by
        have hpos := List.length_pos_iff.mpr hsep
        rw [List.length_append, List.length_append] at hn
        omega
      obtain ⟨hnot, happend⟩ := ih b.length hlength b rfl
      rw [lastPiece_of_isFirst hsep hfirst]
      refine ⟨hnot, fun t => ?_⟩
      rw [List.append_assoc (a ++ sep), lastPiece_of_isFirst hsep hfirst, happend]
    · rw [lastPiece_of_not_contains hcontains]
      exact ⟨hcontains, fun t => rfl⟩

theorem not_contains_lastPiece (hsep : sep ≠ []) (s : Str) : ¬ sep <:+: lastPiece sep s :=
  (lastPiece_spec hsep s).1

/-- **Only the last piece counts** for what the scan does with more text. -/
theorem lastPiece_append (hsep : sep ≠ []) (s t : Str) :
    lastPiece sep (s ++ t) = lastPiece sep (lastPiece sep s ++ t) :=
  (lastPiece_spec hsep s).2 t

end SplitText

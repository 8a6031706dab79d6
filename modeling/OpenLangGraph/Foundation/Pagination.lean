import Mathlib.Data.List.Nodup
import Mathlib.Data.List.Sort
import Mathlib.Data.Nat.Notation

/-!
# Pages of a sorted table

A table is read in pages, each by a query of its own with `ORDER BY key DESC`, `LIMIT` and `OFFSET`.
The key need not be unique, and rows of one key may come in another order in every query.

## Ties

The pages hold every row once, whatever the queries answer, if and only if no boundary between two
pages lies inside a group of rows of one key (`flatMap_page_perm_iff`). Otherwise there are answers
that show a row before the boundary and again behind it (`exists_both_sides`).

## Moving windows

If the rows that a query sees are those with a key between two bounds, and the bounds move up from
query to query, then rows go and come while the pages are read. Pages that hold the rows of the
first window once are only to be had if nothing has moved (`mem_within_iff_of_perm`). The row that
shows it is the last one of the first window, which has its place on the last page.

## Main definitions

* `IsAnswer` — what a query may answer
* `page`, `pages` — a page of an answer, and those of several answers one after the other
* `Unsplit` — no group of rows of one key lies on both sides of a position
* `within`, `Rising` — the rows of a window, and windows that move up

## Main results

* `flatMap_page_perm_iff`
* `mem_within_iff_of_perm`
-/

namespace OpenLangGraph

namespace Pagination

variable {α κ : Type*} [LinearOrder κ] {key : α → κ} {rows answer answer' : List α}
  {limit n b : ℕ}

/-! ### Answers -/

/-- The rows in an order of falling keys. -/
def IsAnswer (key : α → κ) (rows answer : List α) : Prop :=
  answer.Perm rows ∧ answer.Pairwise fun a a' => key a' ≤ key a

/-- A page of an answer. -/
def page (limit i : ℕ) (answer : List α) : List α := (answer.drop (i * limit)).take limit

/-- The first `n` pages, each of the answer to its own query. -/
def pages (limit n : ℕ) (answers : ℕ → List α) : List α :=
  (List.range n).flatMap fun i => page limit i (answers i)

/-- The rows of one key are all before the position, or all behind it. -/
def Unsplit (key : α → κ) (rows : List α) (b : ℕ) : Prop :=
  ∀ k, ¬ (rows.countP (fun a => k < key a) < b ∧ b < rows.countP fun a => k ≤ key a)

/-- A query can be answered. -/
theorem isAnswer_mergeSort (key : α → κ) (rows : List α) :
    IsAnswer key rows (rows.mergeSort fun a a' => key a' ≤ key a) := by
  refine ⟨List.mergeSort_perm .., ?_⟩
  have hsorted : (rows.mergeSort fun a a' => key a' ≤ key a).Pairwise
      fun a a' => decide (key a' ≤ key a) = true := by
    refine List.pairwise_mergeSort (fun a a' a'' h h' => ?_) (fun a a' => ?_) rows
    · rw [decide_eq_true_eq] at h h' ⊢
      exact h'.trans h
    · simpa using le_total (key a') (key a)
  exact hsorted.imp of_decide_eq_true

theorem IsAnswer.filter (p : α → Bool) (h : IsAnswer key rows answer) :
    IsAnswer key (rows.filter p) (answer.filter p) :=
  ⟨h.1.filter p, h.2.filter p⟩

/-- The keys come in one order. -/
theorem IsAnswer.map_key_eq (h : IsAnswer key rows answer) (h' : IsAnswer key rows answer') :
    answer.map key = answer'.map key :=
  List.Perm.eq_of_pairwise (fun _ _ _ _ hle hle' => le_antisymm hle' hle)
    (List.pairwise_map.mpr h.2) (List.pairwise_map.mpr h'.2) ((h.1.trans h'.1.symm).map key)

/-- The keys with a property that higher keys have too come first. -/
theorem lt_countP_iff {p : α → Bool} (hp : ∀ a a', key a' ≤ key a → p a' = true → p a = true) :
    ∀ {answer : List α}, (answer.Pairwise fun a a' => key a' ≤ key a) → ∀ {i : ℕ}
      (hi : i < answer.length), i < answer.countP p ↔ p answer[i] = true
  | [], _, i, hi => absurd hi (Nat.not_lt_zero i)
  | a :: answer, hsorted, i, hi => by
    obtain ⟨hfirst, hrest⟩ := List.pairwise_cons.mp hsorted
    by_cases ha : p a = true
    · rw [List.countP_cons_of_pos ha]
      match i with
      | 0 => simp [ha]
      | i + 1 =>
        rw [Nat.succ_lt_succ_iff, List.getElem_cons_succ]
        exact lt_countP_iff hp hrest (Nat.lt_of_succ_lt_succ hi)
    · have hnone : ∀ a' ∈ a :: answer, ¬ p a' = true := by
        intro a' ha' hpa'
        obtain rfl | ha' := List.mem_cons.mp ha'
        · exact ha hpa'
        · exact ha (hp a a' (hfirst a' ha') hpa')
      have hzero : (a :: answer).countP p = 0 := List.countP_eq_zero.mpr hnone
      rw [hzero]
      exact iff_of_false (Nat.not_lt_zero i) (hnone _ (List.getElem_mem hi))

theorem IsAnswer.lt_countP_lt_iff (h : IsAnswer key rows answer) (k : κ) {i : ℕ}
    (hi : i < answer.length) : (i < rows.countP fun a => k < key a) ↔ k < key answer[i] := by
  rw [← h.1.countP_eq, lt_countP_iff (fun a a' haa' ha' => ?_) h.2 hi, decide_eq_true_eq]
  rw [decide_eq_true_eq] at ha' ⊢
  exact ha'.trans_le haa'

theorem IsAnswer.lt_countP_le_iff (h : IsAnswer key rows answer) (k : κ) {i : ℕ}
    (hi : i < answer.length) : (i < rows.countP fun a => k ≤ key a) ↔ k ≤ key answer[i] := by
  rw [← h.1.countP_eq, lt_countP_iff (fun a a' haa' ha' => ?_) h.2 hi, decide_eq_true_eq]
  rw [decide_eq_true_eq] at ha' ⊢
  exact ha'.trans haa'

/-! ### Before a position -/

/-- The rows before a position that splits no group are those of the higher keys. -/
theorem take_eq_filter (h : IsAnswer key rows answer) (hb : b < answer.length)
    (hunsplit : Unsplit key rows b) :
    answer.take b = answer.filter fun a => key answer[b] < key a := by
  have hle : b < rows.countP fun a => key answer[b] ≤ key a :=
    (h.lt_countP_le_iff _ hb).mpr le_rfl
  have hlt : b ≤ rows.countP fun a => key answer[b] < key a := by
    have := hunsplit (key answer[b])
    omega
  have hbefore : ∀ a ∈ answer.take b, decide (key answer[b] < key a) = true := by
    intro a ha
    obtain ⟨i, hi, rfl⟩ := List.mem_take_iff_getElem.mp ha
    exact decide_eq_true ((h.lt_countP_lt_iff _ (by omega)).mp (by omega))
  have hbehind : ∀ a ∈ answer.drop b, ¬ decide (key answer[b] < key a) = true := by
    intro a ha
    obtain ⟨i, hi, rfl⟩ := List.mem_drop_iff_getElem.mp ha
    rw [decide_eq_true_eq, not_lt]
    obtain rfl | hi₀ := Nat.eq_zero_or_pos i
    · exact le_rfl
    · exact List.pairwise_iff_getElem.mp h.2 b (b + i) _ _ (by omega)
  have hfilter : (answer.take b ++ answer.drop b).filter (fun a => key answer[b] < key a) =
      answer.take b := by
    rw [List.filter_append, List.filter_eq_self.mpr hbefore, List.filter_eq_nil_iff.mpr hbehind,
      List.append_nil]
  rw [List.take_append_drop] at hfilter
  exact hfilter.symm

/-- Before such a position, all answers have the same rows. -/
theorem take_perm_take (h : IsAnswer key rows answer) (h' : IsAnswer key rows answer')
    (hunsplit : Unsplit key rows b) : (answer.take b).Perm (answer'.take b) := by
  have hperm := h.1.trans h'.1.symm
  by_cases hb : b < answer.length
  · have hb' : b < answer'.length := hperm.length_eq ▸ hb
    have hkey : key answer[b] = key answer'[b] := by
      have hget := congrArg (fun keys => keys[b]?) (h.map_key_eq h')
      simpa [hb, hb'] using hget
    rw [take_eq_filter h hb hunsplit, take_eq_filter h' hb' hunsplit, hkey]
    exact hperm.filter _
  · have hb' : ¬ b < answer'.length := hperm.length_eq ▸ hb
    rwa [List.take_of_length_le (Nat.le_of_not_lt hb),
      List.take_of_length_le (Nat.le_of_not_lt hb')]

/-- A group that is split can be told so that one of its rows is on both sides. -/
theorem exists_both_sides (hsplit : ¬ Unsplit key rows b) :
    ∃ answer answer', IsAnswer key rows answer ∧ IsAnswer key rows answer' ∧
      ∃ (hb : b < answer.length) (hb' : b < answer'.length), 0 < b ∧
        answer[b - 1] = answer'[b] := by
  obtain ⟨k, hbefore, hbehind⟩ : ∃ k, rows.countP (fun a => k < key a) < b ∧
      b < rows.countP fun a => k ≤ key a := by
    by_contra hnone
    exact hsplit fun k hk => hnone ⟨k, hk⟩
  obtain ⟨answer, h⟩ : ∃ answer, IsAnswer key rows answer := ⟨_, isAnswer_mergeSort key rows⟩
  obtain ⟨b, rfl⟩ : ∃ b', b = b' + 1 := ⟨b - 1, by omega⟩
  have hb : b + 1 < answer.length :=
    h.1.length_eq ▸ hbehind.trans_le List.countP_le_length
  -- the rows next to the position have the key of the group
  have hhigh : ¬ k < key answer[b] := by
    rw [← h.lt_countP_lt_iff k (Nat.lt_of_succ_lt hb)]
    omega
  have hlow : k ≤ key answer[b + 1] := (h.lt_countP_le_iff k hb).mp hbehind
  have hle : key answer[b + 1] ≤ key answer[b] :=
    List.pairwise_iff_getElem.mp h.2 b (b + 1) _ _ (Nat.lt_succ_self b)
  have hkey : key answer[b + 1] = key answer[b] :=
    le_antisymm hle ((not_lt.mp hhigh).trans hlow)
  -- so they may change places
  have hsplitted : answer =
      answer.take b ++ answer[b] :: answer[b + 1] :: answer.drop (b + 2) := by
    rw [← List.drop_eq_getElem_cons hb, ← List.drop_eq_getElem_cons (Nat.lt_of_succ_lt hb),
      List.take_append_drop]
  have hmap : (answer.take b ++ answer[b + 1] :: answer[b] :: answer.drop (b + 2)).map key =
      answer.map key := by
    conv_rhs => rw [hsplitted]
    simp only [List.map_append, List.map_cons, hkey]
  have hlength : (answer.take b).length = b := List.length_take_of_le (by omega)
  refine ⟨answer, answer.take b ++ answer[b + 1] :: answer[b] :: answer.drop (b + 2), h,
    ⟨?_, ?_⟩, hb, ?_, Nat.succ_pos b, ?_⟩
  · refine List.Perm.trans ?_ h.1
    conv_rhs => rw [hsplitted]
    exact (List.Perm.swap _ _ _).append_left _
  · have hsorted : (answer.map key).Pairwise fun k k' => k' ≤ k := List.pairwise_map.mpr h.2
    rw [← hmap] at hsorted
    exact List.pairwise_map.mp hsorted
  · simp only [List.length_append, hlength, List.length_cons]
    omega
  · rw [List.getElem_append_right (by omega)]
    simp [hlength]

/-! ### All pages -/

@[simp] theorem length_page (limit i : ℕ) (answer : List α) :
    (page limit i answer).length = min limit (answer.length - i * limit) := by
  rw [page, List.length_take, List.length_drop]

theorem page_sublist (limit i : ℕ) (answer : List α) : (page limit i answer).Sublist answer :=
  (List.take_sublist _ _).trans (List.drop_sublist _ _)

/-- A page is what its successor's offset adds. -/
theorem take_append_page (limit i : ℕ) (answer : List α) :
    answer.take (i * limit) ++ page limit i answer = answer.take ((i + 1) * limit) := by
  rw [page, Nat.succ_mul, List.take_add]

theorem mem_page_of_getElem {i j : ℕ} (hj : j < answer.length) (hle : i * limit ≤ j)
    (hlt : j < (i + 1) * limit) : answer[j] ∈ page limit i answer := by
  rw [Nat.succ_mul] at hlt
  refine List.mem_take_iff_getElem.mpr ⟨j - i * limit, ?_, ?_⟩
  · rw [List.length_drop]
    omega
  · rw [List.getElem_drop]
    congr 1
    omega

theorem pages_succ (limit n : ℕ) (answers : ℕ → List α) :
    pages limit (n + 1) answers = pages limit n answers ++ page limit n (answers n) := by
  rw [pages, List.range_succ, List.flatMap_append, List.flatMap_singleton]
  rfl

theorem length_pages_of_full {answers : ℕ → List α} :
    ∀ {n : ℕ}, (∀ i < n, limit ≤ (answers i).length - i * limit) →
      (pages limit n answers).length = n * limit
  | 0, _ => (Nat.zero_mul limit).symm
  | n + 1, h => by
    rw [pages_succ, List.length_append, length_page, Nat.succ_mul,
      length_pages_of_full fun i hi => h i (Nat.lt_succ_of_lt hi),
      Nat.min_eq_left (h n (Nat.lt_succ_self n))]

theorem mem_pages {answers : ℕ → List α} {a : α} :
    a ∈ pages limit n answers ↔ ∃ i < n, a ∈ page limit i (answers i) := by
  simp [pages, List.mem_flatMap]

/-- No row is on two pages. -/
theorem notMem_page_of_nodup {answers : ℕ → List α} (h : (pages limit n answers).Nodup) {i j : ℕ}
    (hij : i < j) (hj : j < n) {a : α} (ha : a ∈ page limit i (answers i)) :
    a ∉ page limit j (answers j) := by
  have hdisjoint := List.pairwise_iff_getElem.mp (List.nodup_flatMap.mp h).2 i j
    (by rw [List.length_range]; omega) (by rw [List.length_range]; omega) hij
  rw [List.getElem_range, List.getElem_range] at hdisjoint
  exact fun ha' => hdisjoint ha ha'

/-- If no boundary splits a group, the first pages hold what is first in any answer. -/
theorem pages_perm_take (hunsplit : ∀ k, Unsplit key rows (k * limit)) {answers : ℕ → List α} :
    ∀ {n : ℕ} {answer : List α}, (∀ i < n, IsAnswer key rows (answers i)) →
      IsAnswer key rows answer → (pages limit n answers).Perm (answer.take (n * limit))
  | 0, answer, _, _ => by
    rw [Nat.zero_mul, List.take_zero]
    exact .refl _
  | n + 1, answer, hanswers, hanswer => by
    have hn := hanswers n (Nat.lt_succ_self n)
    have hfirst : (pages limit n answers).Perm ((answers n).take (n * limit)) :=
      pages_perm_take hunsplit (fun i hi => hanswers i (Nat.lt_succ_of_lt hi)) hn
    calc pages limit (n + 1) answers
        = pages limit n answers ++ page limit n (answers n) := pages_succ limit n answers
      _ |>.Perm ((answers n).take (n * limit) ++ page limit n (answers n)) :=
          hfirst.append_right _
      _ = (answers n).take ((n + 1) * limit) := take_append_page limit n (answers n)
      _ |>.Perm (answer.take ((n + 1) * limit)) := take_perm_take hn hanswer (hunsplit (n + 1))

variable (key) in
/-- **Pages of a sorted table**: they hold every row once if and only if no boundary splits the
rows of a key. -/
theorem flatMap_page_perm_iff (hnodup : rows.Nodup) (hn : rows.length ≤ n * limit) :
    (∀ answers : ℕ → List α, (∀ i < n, IsAnswer key rows (answers i)) →
      (pages limit n answers).Perm rows) ↔ ∀ k, Unsplit key rows (k * limit) := by
  constructor
  · intro h k
    by_contra hsplit
    obtain ⟨answer, answer', hanswer, hanswer', hb, hb', hpos, heq⟩ := exists_both_sides hsplit
    obtain ⟨k, rfl⟩ : ∃ k', k = k' + 1 := by
      obtain _ | k := k
      · omega
      · exact ⟨k, rfl⟩
    -- the pages up to the boundary from one answer, the others from the other
    have hperm := h (fun i => if i ≤ k then answer else answer') fun i _ => by
      by_cases hi : i ≤ k
      · rwa [if_pos hi]
      · rwa [if_neg hi]
    have hk : k + 1 < n := by
      by_contra hle
      have := Nat.mul_le_mul_right limit (Nat.le_of_not_lt hle)
      have := hanswer.1.length_eq
      omega
    have hmul : (k + 1) * limit = k * limit + limit := Nat.succ_mul k limit
    have hlimit : 0 < limit := Nat.pos_of_ne_zero fun hzero => by simp [hzero] at hpos
    refine notMem_page_of_nodup (hperm.nodup_iff.mpr hnodup) (Nat.lt_succ_self k) hk
      (a := answer'[(k + 1) * limit]) ?_ ?_
    · rw [if_pos le_rfl, ← heq]
      exact mem_page_of_getElem _ (by omega) (by omega)
    · rw [if_neg (by omega)]
      exact mem_page_of_getElem hb' le_rfl (by rw [Nat.succ_mul (k + 1)]; omega)
  · intro hunsplit answers hanswers
    have hanswer := isAnswer_mergeSort key rows
    have hperm := pages_perm_take hunsplit hanswers hanswer
    rw [List.take_of_length_le (by rw [hanswer.1.length_eq]; exact hn)] at hperm
    exact hperm.trans hanswer.1

/-! ### Windows that move -/

/-- The rows of a window. -/
def within (key : α → κ) (rows : List α) (window : κ × κ) : List α :=
  rows.filter fun a => window.1 ≤ key a ∧ key a ≤ window.2

/-- Neither bound goes back. -/
def Rising (windows : ℕ → κ × κ) : Prop :=
  ∀ ⦃i j⦄, i ≤ j → (windows i).1 ≤ (windows j).1 ∧ (windows i).2 ≤ (windows j).2

theorem mem_within {window : κ × κ} {a : α} :
    a ∈ within key rows window ↔ a ∈ rows ∧ window.1 ≤ key a ∧ key a ≤ window.2 := by
  simp [within]

/-- The last row of a list that is part of a longer one comes late in the longer one. -/
theorem notMem_take_of_sublist {x : α} (h : (answer' ++ [x]).Sublist answer)
    (hnodup : answer.Nodup) (hb : b ≤ answer'.length) : x ∉ answer.take b := by
  intro hx
  rw [← List.take_append_drop b answer] at h
  obtain ⟨l, l', heq, hl, hl'⟩ := List.sublist_append_iff.mp h
  have hlength := congrArg List.length heq
  have hle : l.length ≤ b := hl.length_le.trans (List.length_take_le b answer)
  rw [List.length_append, List.length_append, List.length_singleton] at hlength
  obtain rfl | ⟨l', y, rfl⟩ := List.eq_nil_or_concat l'
  · rw [List.length_nil] at hlength
    omega
  · rw [List.concat_eq_append, ← List.append_assoc] at heq
    obtain rfl : x = y := List.singleton_inj.mp (List.append_inj' heq rfl).2
    have hdrop : x ∈ answer.drop b := hl'.subset (by simp)
    exact List.disjoint_take_drop hnodup le_rfl hx hdrop

section

variable {windows : ℕ → κ × κ}

/-- A row that a later window still has shows that it has all rows of the first window that are
not below it. -/
theorem mem_within_of_le (hwindows : Rising windows) {i : ℕ} {x a : α}
    (hx : x ∈ within key rows (windows i)) (ha : a ∈ within key rows (windows 0))
    (hxa : key x ≤ key a) : a ∈ within key rows (windows i) := by
  obtain ⟨-, hlow, -⟩ := mem_within.mp hx
  obtain ⟨hmem, -, hhigh⟩ := mem_within.mp ha
  exact mem_within.mpr ⟨hmem, hlow.trans hxa, hhigh.trans (hwindows (Nat.zero_le i)).2⟩

/-- The last row of the first window is on no page but the last. -/
theorem last_notMem_page (hwindows : Rising windows) (hnodup : answer.Nodup) {first : List α}
    {x : α} (hfirst : within key answer (windows 0) = first ++ [x])
    (hlast : ∀ a ∈ within key answer (windows 0), key x ≤ key a) {i : ℕ}
    (hi : (i + 1) * limit ≤ first.length) :
    x ∉ page limit i (within key answer (windows i)) := by
  intro hx
  have hmem : x ∈ within key answer (windows i) := (page_sublist _ _ _).subset hx
  have hsublist : (first ++ [x]).Sublist (within key answer (windows i)) := by
    rw [← hfirst]
    have hfilter : within key (within key answer (windows i)) (windows 0) =
        within key answer (windows 0) := by
      rw [within, within, within, List.filter_filter]
      refine List.filter_congr fun a ha => ?_
      rw [← Bool.decide_and, decide_eq_decide]
      constructor
      · exact And.left
      · intro hwindow
        have hfirst := mem_within.mpr ⟨ha, hwindow⟩
        exact ⟨hwindow, (mem_within.mp (mem_within_of_le hwindows hmem hfirst
          (hlast a hfirst))).2⟩
    rw [← hfilter]
    exact List.filter_sublist
  refine notMem_take_of_sublist hsublist (hnodup.filter _) hi ?_
  rw [← take_append_page]
  exact List.mem_append_right _ hx

/-- **Pages of a moving window** hold the rows of the first window once only if no window on the
way has other rows. -/
theorem mem_within_iff_of_perm (hnodup : rows.Nodup) (hwindows : Rising windows)
    (hanswer : IsAnswer key rows answer)
    (hpages : (pages limit (n + 1) fun i => within key answer (windows i)).Perm
      (within key rows (windows 0)))
    (hcount : (within key rows (windows n)).length ≤ (within key rows (windows 0)).length)
    (hn : n = 0 ∨ n * limit < (within key rows (windows 0)).length) {i : ℕ} (hi : i ≤ n) (a : α) :
    a ∈ within key rows (windows i) ↔ a ∈ within key rows (windows 0) := by
  obtain rfl | hn := hn
  · rw [Nat.le_zero.mp hi]
  have hperm (window : κ × κ) : (within key answer window).Perm (within key rows window) :=
    hanswer.1.filter _
  obtain hnil | ⟨first, x, hfirst⟩ := List.eq_nil_or_concat (within key answer (windows 0))
  · rw [← (hperm (windows 0)).length_eq, hnil] at hn
    exact absurd hn (Nat.not_lt_zero _)
  rw [List.concat_eq_append] at hfirst
  have hlength : (within key rows (windows 0)).length = first.length + 1 := by
    rw [← (hperm (windows 0)).length_eq, hfirst, List.length_append, List.length_singleton]
  have hlast : ∀ a ∈ within key answer (windows 0), key x ≤ key a := by
    have hsorted : (within key answer (windows 0)).Pairwise fun a a' => key a' ≤ key a :=
      hanswer.2.filter _
    rw [hfirst] at hsorted ⊢
    intro a ha
    obtain ha | ha := List.mem_append.mp ha
    · exact (List.pairwise_append.mp hsorted).2.2 a ha x (List.mem_singleton_self x)
    · rw [List.mem_singleton.mp ha]
  have hx : x ∈ within key rows (windows 0) :=
    (hperm (windows 0)).subset (hfirst ▸ by simp)
  -- the last row is on some page, so it is on the last one
  obtain ⟨j, hj, hxj⟩ := mem_pages.mp (hpages.symm.subset hx)
  have hjn : j = n := by
    by_contra hne
    refine last_notMem_page hwindows (hanswer.1.nodup_iff.mpr hnodup) hfirst hlast ?_ hxj
    have := Nat.mul_le_mul_right limit (show j + 1 ≤ n by omega)
    omega
  subst hjn
  have hxn : x ∈ within key rows (windows j) :=
    (hperm _).subset ((page_sublist _ _ _).subset hxj)
  -- so the last window has all rows of the first one, and no others
  have hsubset : within key rows (windows 0) ⊆ within key rows (windows j) := fun a ha =>
    mem_within_of_le hwindows hxn ha (hlast a ((hperm (windows 0)).symm.subset ha))
  have hsame : (within key rows (windows 0)).Perm (within key rows (windows j)) :=
    (List.subperm_of_subset (hnodup.filter _) hsubset).perm_of_length_le hcount
  constructor
  · intro ha
    obtain ⟨hmem, hlow, hhigh⟩ := mem_within.mp ha
    by_cases hwindow : (windows j).1 ≤ key a
    · exact hsame.symm.subset
        (mem_within.mpr ⟨hmem, hwindow, hhigh.trans (hwindows hi).2⟩)
    · have hax : key a ≤ key x := (not_le.mp hwindow).le.trans (mem_within.mp hxn).2.1
      exact mem_within.mpr ⟨hmem, (hwindows (Nat.zero_le i)).1.trans hlow,
        hax.trans (mem_within.mp hx).2.2⟩
  · intro ha
    have hxi : x ∈ within key rows (windows i) := mem_within.mpr
      ⟨(mem_within.mp hx).1, (hwindows hi).1.trans (mem_within.mp hxn).2.1,
        (mem_within.mp hx).2.2.trans (hwindows (Nat.zero_le i)).2⟩
    exact mem_within_of_le hwindows hxi ha (hlast a ((hperm (windows 0)).symm.subset ha))

end

end Pagination

end OpenLangGraph

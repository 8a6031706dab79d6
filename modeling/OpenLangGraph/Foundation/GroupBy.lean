import Mathlib.Algebra.GroupWithZero.Nat
import Mathlib.Data.List.Nodup
import Mathlib.Data.Nat.Notation

/-!
# Groups of rows

A query with `GROUP BY key` has one row for each key that occurs, with aggregates of the rows of
this key: their number, the number of those with a property, their largest value. Which key comes
first is open, unless the query says so.

## The groups make up the table

One after the other the groups are the table in another order (`flatMap_group_perm`), so what can be
counted in the table is the sum of what is counted in the groups, and the largest value of the table
is the largest of the largest values. A query that groups and one that does not are then compared
by their rows only.

## Main definitions

* `group`, `IsGrouping` — the rows of a key, and the keys of an answer
* `IsRanking` — the keys of an answer that begins with the largest groups

## Main results

* `sum_countP_group`, `max?_group`, `min?_group` — aggregates of the table from its groups
* `IsRanking.length_le` — what is not among the first is not larger
-/

namespace GroupBy

variable {α κ : Type*} [DecidableEq κ] {key : α → κ} {rows : List α} {keys : List κ}

/-- The rows of a key. -/
def group (key : α → κ) (rows : List α) (k : κ) : List α := rows.filter (key · = k)

/-- What a query can answer: every key that occurs, once. -/
structure IsGrouping (key : α → κ) (rows : List α) (keys : List κ) : Prop where
  nodup : keys.Nodup
  mem_iff : ∀ k, k ∈ keys ↔ ∃ row ∈ rows, key row = k

/-- The rows of some keys, which may be those of no row. -/
theorem flatMap_group_perm_filter (hnodup : keys.Nodup) :
    (keys.flatMap (group key rows)).Perm (rows.filter (key · ∈ keys)) := by
  induction keys with
  | nil => simp
  | cons k keys ih =>
    obtain ⟨hnew, hnodup⟩ := List.nodup_cons.mp hnodup
    have hfirst : (rows.filter (key · ∈ k :: keys)).filter (key · = k) = group key rows k := by
      rw [List.filter_filter]
      refine List.filter_congr fun row _ => ?_
      by_cases hrow : key row = k <;> simp [hrow]
    have hrest : (rows.filter (key · ∈ k :: keys)).filter (fun row => !decide (key row = k)) =
        rows.filter (key · ∈ keys) := by
      rw [List.filter_filter]
      refine List.filter_congr fun row _ => ?_
      by_cases hrow : key row = k
      · simp [hrow, hnew]
      · simp [hrow]
    rw [List.flatMap_cons]
    have hsplit := List.filter_append_perm (key · = k) (rows.filter (key · ∈ k :: keys))
    rw [hfirst, hrest] at hsplit
    exact ((ih hnodup).append_left _).trans hsplit

/-- **The groups make up the table.** -/
theorem flatMap_group_perm (h : IsGrouping key rows keys) :
    (keys.flatMap (group key rows)).Perm rows := by
  have hall : rows.filter (key · ∈ keys) = rows :=
    List.filter_eq_self.mpr fun row hrow => decide_eq_true ((h.mem_iff _).mpr ⟨row, hrow, rfl⟩)
  have hperm : (keys.flatMap (group key rows)).Perm (rows.filter (key · ∈ keys)) :=
    flatMap_group_perm_filter h.nodup
  rwa [hall] at hperm

/-! ### Aggregates -/

/-- Rows with a property, from the groups. -/
theorem sum_countP_group (h : IsGrouping key rows keys) (p : α → Bool) :
    (keys.map fun k => (group key rows k).countP p).sum = rows.countP p := by
  rw [← (flatMap_group_perm h).countP_eq, List.countP_flatMap]
  rfl

theorem sum_length_group (h : IsGrouping key rows keys) :
    (keys.map fun k => (group key rows k).length).sum = rows.length := by
  rw [← (flatMap_group_perm h).length_eq, List.length_flatMap]

/-- The same for some keys and the rows of no such key. -/
theorem sum_countP_group_add (key : α → κ) (rows : List α) (hnodup : keys.Nodup) (p : α → Bool) :
    (keys.map fun k => (group key rows k).countP p).sum +
      rows.countP (fun row => p row && decide (key row ∉ keys)) = rows.countP p := by
  have hin : (keys.map fun k => (group key rows k).countP p).sum =
      (rows.filter (key · ∈ keys)).countP p := by
    rw [← (flatMap_group_perm_filter hnodup).countP_eq, List.countP_flatMap]
    rfl
  rw [hin, List.countP_filter, List.countP_eq_countP_filter_add rows p (key · ∈ keys),
    List.countP_filter, List.countP_filter]
  simp

/-- The best value of a column is the best of those of the groups, whatever is better. -/
theorem best_group {β : Type*} (h : IsGrouping key rows keys) (f : α → β) {r : β → β → Prop}
    {best : List β → Option β} (hnone : ∀ {l}, best l = none ↔ l = [])
    (hsome : ∀ {l m}, best l = some m ↔ m ∈ l ∧ ∀ b ∈ l, r b m) :
    best (keys.filterMap fun k => best ((group key rows k).map f)) = best (rows.map f) := by
  have hgroup : ∀ {k b}, b ∈ (group key rows k).map f → b ∈ rows.map f := fun hb => by
    obtain ⟨row, hrow, rfl⟩ := List.mem_map.mp hb
    exact List.mem_map_of_mem (List.mem_of_mem_filter hrow)
  cases hbest : best (rows.map f) with
  | none =>
    obtain rfl : rows = [] := List.map_eq_nil_iff.mp (hnone.mp hbest)
    obtain rfl : keys = [] := List.eq_nil_iff_forall_not_mem.mpr fun k hk => by
      obtain ⟨row, hrow, -⟩ := (h.mem_iff k).mp hk
      cases hrow
    exact hnone.mpr rfl
  | some m =>
    obtain ⟨hmem, hle⟩ := hsome.mp hbest
    refine hsome.mpr ⟨?_, fun m' hm' => ?_⟩
    · -- the group of a row with the best value
      obtain ⟨row, hrow, rfl⟩ := List.mem_map.mp hmem
      have hown : f row ∈ (group key rows (key row)).map f :=
        List.mem_map_of_mem (List.mem_filter.mpr ⟨hrow, decide_eq_true rfl⟩)
      exact List.mem_filterMap.mpr ⟨key row, (h.mem_iff _).mpr ⟨row, hrow, rfl⟩,
        hsome.mpr ⟨hown, fun b hb => hle b (hgroup hb)⟩⟩
    · obtain ⟨k, -, hk⟩ := List.mem_filterMap.mp hm'
      exact hle m' (hgroup (hsome.mp hk).1)

theorem max?_group {β : Type*} [Max β] [LE β] [Std.IsLinearOrder β] [Std.LawfulOrderMax β]
    (h : IsGrouping key rows keys) (f : α → β) :
    (keys.filterMap fun k => ((group key rows k).map f).max?).max? = (rows.map f).max? :=
  best_group h f List.max?_eq_none_iff List.max?_eq_some_iff

theorem min?_group {β : Type*} [Min β] [LE β] [Std.IsLinearOrder β] [Std.LawfulOrderMin β]
    (h : IsGrouping key rows keys) (f : α → β) :
    (keys.filterMap fun k => ((group key rows k).map f).min?).min? = (rows.map f).min? :=
  best_group (r := fun b m => m ≤ b) h f List.min?_eq_none_iff List.min?_eq_some_iff

/-! ### The largest groups -/

/-- What a query with `ORDER BY count(*) DESC` can answer. -/
structure IsRanking (key : α → κ) (rows : List α) (keys : List κ) : Prop
    extends IsGrouping key rows keys where
  sorted : keys.Pairwise fun k k' => (group key rows k').length ≤ (group key rows k).length

/-- Behind `LIMIT limit` there is no group larger than one before it. -/
theorem IsRanking.length_le {limit : ℕ} {k k' : κ} (h : IsRanking key rows keys)
    (hk : k ∈ keys.take limit) (hk' : k' ∈ keys) (hnot : k' ∉ keys.take limit) :
    (group key rows k').length ≤ (group key rows k).length := by
  rw [← List.take_append_drop limit keys] at hk'
  have hdrop : k' ∈ keys.drop limit := (List.mem_append.mp hk').resolve_left hnot
  have hsorted := h.sorted
  rw [← List.take_append_drop limit keys, List.pairwise_append] at hsorted
  exact hsorted.2.2 k hk k' hdrop

end GroupBy

import Mathlib.Data.List.Nodup
import Mathlib.Data.List.Count

/-!
# Tables with a unique key

A table is a list of rows together with the fact that no two rows have the same key, so a table in
which the key is not unique cannot be built. An `INSERT` of a row whose key is taken is `none`; an
`UPDATE` must keep the key.

Each statement has a lemma that says what a lookup by key finds afterwards. As a key belongs to one
row at most, a statement that concerns one key changes the number of rows of a kind by one at most.

## Main definitions

* `Table`, `Table.find?`, `Table.insert`, `Table.updateIf`, `Table.deleteIf`

## Main results

* `find?_insert`, `find?_updateIf`, `find?_deleteIf` — a lookup after a statement
* `countP_le_updateIf`, `countP_le_deleteIf` — which rows of a kind a statement can take away
-/

/-- Rows with a unique key. -/
@[ext]
structure Table {α κ : Type*} (key : α → κ) where
  rows : List α
  unique : (rows.map key).Nodup

namespace Table

variable {α κ : Type*} {key : α → κ}

/-- A table without rows. -/
def empty : Table key := ⟨[], List.nodup_nil⟩

/-- A table with one row. -/
def single (row : α) : Table key := ⟨[row], List.nodup_singleton _⟩

/-- `UPDATE … SET … WHERE …`, for a statement that keeps the key. -/
def updateIf (t : Table key) (p : α → Bool) (f : α → α) (hf : ∀ row, key (f row) = key row) :
    Table key where
  rows := t.rows.map fun row => if p row then f row else row
  unique := by
    rw [List.map_map]
    refine List.map_congr_left (fun row _ => ?_) ▸ t.unique
    rw [Function.comp_apply]
    split
    · exact (hf row).symm
    · rfl

/-- `DELETE FROM … WHERE …` -/
def deleteIf (t : Table key) (p : α → Bool) : Table key where
  rows := t.rows.filter fun row => !p row
  unique := t.unique.sublist (List.filter_sublist.map key)

variable [DecidableEq κ]

/-- `SELECT … WHERE key = …` -/
def find? (t : Table key) (k : κ) : Option α := t.rows.find? (key · = k)

/-- `INSERT INTO …` -/
def insert (t : Table key) (row : α) : Option (Table key) :=
  if h : key row ∈ t.rows.map key then none
  else some
    { rows := t.rows ++ [row]
      unique := by
        rw [List.map_append, List.nodup_append]
        refine ⟨t.unique, by simp, ?_⟩
        rintro k hk k' hk' rfl
        obtain rfl : k = key row := by simpa using hk'
        exact h hk }

/-! ### Lookups -/

variable {t t' : Table key} {k : κ} {row : α} {p q : α → Bool} {f : α → α}

/-- A row is found by its key, and by no other. -/
theorem find?_eq_some_iff : t.find? k = some row ↔ row ∈ t.rows ∧ key row = k := by
  constructor
  · intro h
    exact ⟨List.mem_of_find?_eq_some h, by simpa using List.find?_some h⟩
  · rintro ⟨hrow, rfl⟩
    cases hfind : t.find? (key row) with
    | none =>
      have hno := List.find?_eq_none.mp hfind row hrow
      simp at hno
    | some row' =>
      have hrow' := List.mem_of_find?_eq_some hfind
      have hkey : key row' = key row := by simpa using List.find?_some hfind
      rw [List.inj_on_of_nodup_map t.unique hrow' hrow hkey]

theorem find?_key (hrow : row ∈ t.rows) : t.find? (key row) = some row :=
  find?_eq_some_iff.mpr ⟨hrow, rfl⟩

theorem insert_eq_some (h : t.insert row = some t') :
    key row ∉ t.rows.map key ∧ t'.rows = t.rows ++ [row] := by
  rw [insert] at h
  split at h
  · cases h
  · rename_i hnew
    cases h
    exact ⟨hnew, rfl⟩

theorem mem_of_insert_eq_none (h : t.insert row = none) : key row ∈ t.rows.map key := by
  rw [insert] at h
  split at h
  · assumption
  · cases h

theorem find?_insert (h : t.insert row = some t') (k : κ) :
    t'.find? k = if k = key row then some row else t.find? k := by
  obtain ⟨-, hrows⟩ := insert_eq_some h
  by_cases hk : k = key row
  · rw [if_pos hk]
    refine find?_eq_some_iff.mpr ⟨?_, hk.symm⟩
    rw [hrows]
    exact List.mem_append_right _ (List.mem_singleton_self _)
  · rw [if_neg hk, find?, find?, hrows, List.find?_append]
    simp [Ne.symm hk]

theorem find?_updateIf (hf : ∀ row, key (f row) = key row) (k : κ) :
    (t.updateIf p f hf).find? k = (t.find? k).map fun row => if p row then f row else row := by
  rw [find?, updateIf, List.find?_map]
  congr 1
  refine congrArg (List.find? · t.rows) (funext fun row => ?_)
  rw [Function.comp_apply]
  split
  · rw [hf]
  · rfl

theorem find?_deleteIf (k : κ) : (t.deleteIf p).find? k = (t.find? k).filter fun row => !p row := by
  cases h : (t.deleteIf p).find? k with
  | some row =>
    obtain ⟨hrow, hkey⟩ := find?_eq_some_iff.mp h
    obtain ⟨hrow, hp⟩ := List.mem_filter.mp hrow
    rw [find?_eq_some_iff.mpr ⟨hrow, hkey⟩, Option.filter_some, if_pos hp]
  | none =>
    cases hfind : t.find? k with
    | none => rfl
    | some row =>
      obtain ⟨hrow, hkey⟩ := find?_eq_some_iff.mp hfind
      by_cases hp : p row = true
      · rw [Option.filter_some, if_neg (by simp [hp])]
      · have : (t.deleteIf p).find? k = some row :=
          find?_eq_some_iff.mpr ⟨List.mem_filter.mpr ⟨hrow, by simp [hp]⟩, hkey⟩
        rw [h] at this
        cases this

/-- An update leaves the rows alone that it is not about. -/
theorem find?_updateIf_of_not (hf : ∀ row, key (f row) = key row)
    (hp : ∀ row, key row = k → p row = false) : (t.updateIf p f hf).find? k = t.find? k := by
  rw [find?_updateIf]
  cases hrow : t.find? k with
  | none => rfl
  | some row =>
    rw [Option.map_some, hp row (find?_eq_some_iff.mp hrow).2, if_neg Bool.false_ne_true]

/-- So does a deletion. -/
theorem find?_deleteIf_of_not (hp : ∀ row, key row = k → p row = false) :
    (t.deleteIf p).find? k = t.find? k := by
  rw [find?_deleteIf]
  cases hrow : t.find? k with
  | none => rfl
  | some row => rw [Option.filter_some, hp row (find?_eq_some_iff.mp hrow).2, if_pos (by rfl)]

/-- A statement about one key leaves the other keys alone. -/
theorem find?_updateIf_of_ne {k' : κ} (hf : ∀ row, key (f row) = key row) (hk : k ≠ k') :
    (t.updateIf (key · = k') f hf).find? k = t.find? k :=
  find?_updateIf_of_not hf fun _ hrow => decide_eq_false fun hkey => hk (hrow.symm.trans hkey)

theorem find?_deleteIf_of_ne {k' : κ} (hk : k ≠ k') :
    (t.deleteIf (key · = k')).find? k = t.find? k :=
  find?_deleteIf_of_not fun _ hrow => decide_eq_false fun hkey => hk (hrow.symm.trans hkey)

/-- A deletion of all rows that may have the key. -/
theorem find?_deleteIf_of_all (hp : ∀ row, key row = k → p row = true) :
    (t.deleteIf p).find? k = none := by
  rw [find?_deleteIf]
  cases hrow : t.find? k with
  | none => rfl
  | some row => rw [Option.filter_some, hp row (find?_eq_some_iff.mp hrow).2, if_neg (by decide)]

/-! ### Rows after a statement -/

omit [DecidableEq κ] in
theorem mem_updateIf (hf : ∀ row, key (f row) = key row) (h : row ∈ (t.updateIf p f hf).rows) :
    row ∈ t.rows ∨ ∃ old ∈ t.rows, p old = true ∧ row = f old := by
  obtain ⟨old, hold, rfl⟩ := List.mem_map.mp h
  by_cases hp : p old = true
  · exact .inr ⟨old, hold, hp, if_pos hp⟩
  · rw [if_neg hp]
    exact .inl hold

omit [DecidableEq κ] in
theorem mem_deleteIf (h : row ∈ (t.deleteIf p).rows) : row ∈ t.rows := List.mem_of_mem_filter h

/-- A condition that holds of rows with one key only holds of one row at most. -/
theorem countP_le_one (hp : ∀ row, p row = true → key row = k) : t.rows.countP p ≤ 1 := by
  have hcount := List.nodup_iff_count_le_one.mp t.unique k
  rw [List.count_eq_countP, List.countP_map] at hcount
  refine Nat.le_trans (List.countP_mono_left fun row _ hrow => ?_) hcount
  simpa using hp row hrow

omit [DecidableEq κ] in
/-- An update takes away at most the rows of a kind that it makes rows of another kind. -/
theorem countP_le_updateIf (hf : ∀ row, key (f row) = key row) :
    t.rows.countP q ≤ (t.updateIf p f hf).rows.countP q +
      t.rows.countP fun row => p row && q row && !q (f row) := by
  show t.rows.countP q ≤ (t.rows.map _).countP q + _
  induction t.rows with
  | nil => simp
  | cons row rows ih =>
    rw [List.map_cons, List.countP_cons, List.countP_cons, List.countP_cons]
    by_cases hp : p row = true
    · have hrow : (if q row = true then 1 else 0) ≤ (if q (f row) = true then 1 else 0) +
          if (p row && q row && !q (f row)) = true then 1 else 0 := by
        rw [hp]
        cases q row <;> cases q (f row) <;> decide
      rw [if_pos hp]
      omega
    · rw [if_neg hp]
      omega

omit [DecidableEq κ] in
/-- A deletion takes away the rows of a kind that it deletes. -/
theorem countP_le_deleteIf :
    t.rows.countP q ≤ (t.deleteIf p).rows.countP q + t.rows.countP fun row => p row && q row := by
  show t.rows.countP q ≤ (t.rows.filter _).countP q + _
  induction t.rows with
  | nil => simp
  | cons row rows ih =>
    by_cases hp : p row = true
    · rw [List.filter_cons_of_neg (by simp [hp]), List.countP_cons, List.countP_cons, hp,
        Bool.true_and]
      omega
    · rw [List.filter_cons_of_pos (by simp [hp]), List.countP_cons, List.countP_cons,
        List.countP_cons]
      omega

/-! ### A part of a table

What is left after a deletion is a table of its own. A statement on it does the same as one on the
whole table, or the deletion takes all that the statement is about. -/

omit [DecidableEq κ] in
theorem deleteIf_updateIf (hf : ∀ row, key (f row) = key row) (hq : ∀ row, q (f row) = q row) :
    (t.updateIf p f hf).deleteIf q = (t.deleteIf q).updateIf p f hf := by
  refine Table.ext ?_
  show (t.rows.map _).filter _ = (t.rows.filter _).map _
  rw [List.filter_map]
  refine congrArg _ (List.filter_congr fun row _ => ?_)
  rw [Function.comp_apply]
  split
  · rw [hq]
  · rfl

omit [DecidableEq κ] in
theorem deleteIf_deleteIf : (t.deleteIf p).deleteIf q = (t.deleteIf q).deleteIf p := by
  refine Table.ext ?_
  show (t.rows.filter _).filter _ = (t.rows.filter _).filter _
  rw [List.filter_filter, List.filter_filter]
  exact List.filter_congr fun row _ => Bool.and_comm _ _

/-- A row that is not deleted, nor any other with its key. -/
theorem insert_deleteIf (hrow : q row = false)
    (hq : ∀ old ∈ t.rows, key old = key row → q old = false) :
    (t.deleteIf q).insert row = (t.insert row).map (·.deleteIf q) := by
  have hmem : key row ∈ (t.deleteIf q).rows.map key ↔ key row ∈ t.rows.map key := by
    constructor
    · intro h
      obtain ⟨old, hold, hkey⟩ := List.mem_map.mp h
      exact List.mem_map.mpr ⟨old, mem_deleteIf hold, hkey⟩
    · intro h
      obtain ⟨old, hold, hkey⟩ := List.mem_map.mp h
      exact List.mem_map.mpr
        ⟨old, List.mem_filter.mpr ⟨hold, by rw [hq old hold hkey, Bool.not_false]⟩, hkey⟩
  by_cases h : key row ∈ t.rows.map key
  · rw [insert, insert, dif_pos (hmem.mpr h), dif_pos h, Option.map_none]
  · rw [insert, insert, dif_neg (mt hmem.mp h), dif_neg h, Option.map_some]
    refine congrArg some (Table.ext ?_)
    show t.rows.filter _ ++ [row] = (t.rows ++ [row]).filter _
    rw [List.filter_append, List.filter_cons_of_pos (by rw [hrow, Bool.not_false]), List.filter_nil]

theorem deleteIf_of_insert (h : t.insert row = some t') (hrow : q row = true) :
    t'.deleteIf q = t.deleteIf q := by
  refine Table.ext ?_
  show t'.rows.filter _ = t.rows.filter _
  rw [(insert_eq_some h).2, List.filter_append,
    List.filter_cons_of_neg (by rw [hrow, Bool.not_true]; decide), List.filter_nil,
    List.append_nil]

omit [DecidableEq κ] in
theorem deleteIf_updateIf_of_deleted (hf : ∀ row, key (f row) = key row)
    (hq : ∀ row, q (f row) = q row) (hp : ∀ row ∈ t.rows, p row = true → q row = true) :
    (t.updateIf p f hf).deleteIf q = t.deleteIf q := by
  rw [deleteIf_updateIf hf hq]
  refine Table.ext ?_
  show (t.rows.filter _).map _ = t.rows.filter _
  refine (List.map_congr_left fun row hrow => ?_).trans (List.map_id _)
  obtain ⟨hrow, hkept⟩ := List.mem_filter.mp hrow
  refine if_neg fun hpos => ?_
  rw [hp row hrow hpos] at hkept
  cases hkept

omit [DecidableEq κ] in
theorem deleteIf_deleteIf_of_deleted (hp : ∀ row ∈ t.rows, p row = true → q row = true) :
    (t.deleteIf p).deleteIf q = t.deleteIf q := by
  rw [deleteIf_deleteIf]
  refine Table.ext (List.filter_eq_self.mpr fun row hrow => ?_)
  obtain ⟨hrow, hkept⟩ := List.mem_filter.mp hrow
  cases hpos : p row with
  | false => rfl
  | true =>
    rw [hp row hrow hpos] at hkept
    cases hkept

end Table

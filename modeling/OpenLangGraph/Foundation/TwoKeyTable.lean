import OpenLangGraph.Foundation.Table

/-!
# Tables with two unique keys

A table whose rows have a primary key and a second key with a unique index. An `INSERT` of a row
fails if either key is taken; an `UPDATE` must keep both.

## Main definitions

* `TwoKeyTable`, `TwoKeyTable.insert`, `TwoKeyTable.updateIf`, `TwoKeyTable.deleteIf`
* `TwoKeyTable.findBy?` — a lookup by the second key

## Main results

* `findBy?_eq_some_iff` — a row is found by its second key, and by no other
* `insert_eq_some` — what an `INSERT` that did not fail has found and done
-/

/-- Rows with a unique key, and a second one. -/
structure TwoKeyTable {α κ μ : Type*} (key : α → κ) (second : α → μ) extends Table key where
  secondUnique : (rows.map second).Nodup

namespace TwoKeyTable

variable {α κ μ : Type*} {key : α → κ} {second : α → μ}

def empty : TwoKeyTable key second := ⟨Table.empty, List.nodup_nil⟩

/-- `UPDATE … SET … WHERE …`, for a statement that keeps both keys. -/
def updateIf (t : TwoKeyTable key second) (p : α → Bool) (f : α → α)
    (hkey : ∀ row, key (f row) = key row) (hsecond : ∀ row, second (f row) = second row) :
    TwoKeyTable key second where
  toTable := t.toTable.updateIf p f hkey
  secondUnique := ((⟨t.rows, t.secondUnique⟩ : Table second).updateIf p f hsecond).unique

/-- `DELETE FROM … WHERE …` -/
def deleteIf (t : TwoKeyTable key second) (p : α → Bool) : TwoKeyTable key second where
  toTable := t.toTable.deleteIf p
  secondUnique := ((⟨t.rows, t.secondUnique⟩ : Table second).deleteIf p).unique

variable [DecidableEq κ] [DecidableEq μ]

/-- `SELECT … WHERE second = …` -/
def findBy? (t : TwoKeyTable key second) (k : μ) : Option α :=
  (⟨t.rows, t.secondUnique⟩ : Table second).find? k

/-- `INSERT INTO …` -/
def insert (t : TwoKeyTable key second) (row : α) : Option (TwoKeyTable key second) :=
  if h : key row ∈ t.rows.map key ∨ second row ∈ t.rows.map second then none
  else some
    { rows := t.rows ++ [row]
      unique := by
        rw [List.map_append]
        exact t.unique.append (List.nodup_singleton _) (by simpa using (not_or.mp h).1)
      secondUnique := by
        rw [List.map_append]
        exact t.secondUnique.append (List.nodup_singleton _) (by simpa using (not_or.mp h).2) }

variable {t t' : TwoKeyTable key second} {k : μ} {row : α}

omit [DecidableEq κ] in
theorem findBy?_eq_some_iff : t.findBy? k = some row ↔ row ∈ t.rows ∧ second row = k :=
  Table.find?_eq_some_iff

theorem insert_eq_some (h : t.insert row = some t') :
    key row ∉ t.rows.map key ∧ second row ∉ t.rows.map second ∧ t'.rows = t.rows ++ [row] := by
  rw [insert] at h
  split at h
  · cases h
  · rename_i hnew
    cases h
    exact ⟨(not_or.mp hnew).1, (not_or.mp hnew).2, rfl⟩

omit [DecidableEq κ] [DecidableEq μ] in
@[simp] theorem rows_updateIf {p : α → Bool} {f : α → α} {hkey : ∀ row, key (f row) = key row}
    {hsecond : ∀ row, second (f row) = second row} :
    (t.updateIf p f hkey hsecond).rows = t.rows.map fun row => if p row then f row else row := rfl

omit [DecidableEq κ] [DecidableEq μ] in
@[simp] theorem rows_deleteIf {p : α → Bool} :
    (t.deleteIf p).rows = t.rows.filter fun row => !p row := rfl

end TwoKeyTable

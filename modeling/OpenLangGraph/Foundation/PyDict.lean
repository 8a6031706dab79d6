import Mathlib.Data.List.Nodup

/-!
# Python dictionaries

Dictionaries as lists of entries in insertion order, read with `List.lookup`. Every operation has
one lemma that says what a lookup finds afterwards. Those on the size of a dictionary ask that no
key occurs twice in it, which every operation preserves.

## Main definitions

* `PyDict.set`, `PyDict.setdefault`, `PyDict.update`, `PyDict.delete`, `PyDict.get`

## Main results

* `lookup_set`, `lookup_setdefault`, `lookup_delete`
* `lookup_update`, `lookup_update_of_absent`, `lookup_update_nil` — the updating dictionary wins
* `lookup_eq_some_iff_mem` — lookups and entries, where no key occurs twice
* `nodup_set`, `nodup_delete`, `length_set`, `length_foldl_delete` — keys and sizes
-/

namespace PyDict

variable {κ ν : Type*} [DecidableEq κ]

/-- `d[k] = v`: a key that is there keeps its place. -/
def set (d : List (κ × ν)) (k : κ) (v : ν) : List (κ × ν) :=
  match d with
  | [] => [(k, v)]
  | e :: es => if e.1 = k then (k, v) :: es else e :: set es k v

/-- `d.setdefault(k, v)` -/
def setdefault (d : List (κ × ν)) (k : κ) (v : ν) : List (κ × ν) :=
  if (d.lookup k).isSome then d else set d k v

/-- `d.update(es)` -/
def update (d es : List (κ × ν)) : List (κ × ν) := es.foldl (fun d e => set d e.1 e.2) d

/-- `d.get(k)` -/
def get (d : List (κ × ν)) (k : κ) : Option ν := d.lookup k

/-- `d.pop(k, None)` -/
def delete (d : List (κ × ν)) (k : κ) : List (κ × ν) := d.filter fun e => e.1 ≠ k

theorem lookup_cons (e : κ × ν) (es : List (κ × ν)) (k : κ) :
    (e :: es).lookup k = if k = e.1 then some e.2 else es.lookup k := by
  obtain ⟨k', v⟩ := e
  by_cases h : k = k'
  · simp [h]
  · simp [List.lookup_cons, h, beq_eq_false_iff_ne.mpr h]

/-- What is written is read, and nothing else changes. -/
theorem lookup_set (d : List (κ × ν)) (k k' : κ) (v : ν) :
    (set d k v).lookup k' = if k' = k then some v else d.lookup k' := by
  induction d with
  | nil => rw [set, lookup_cons]
  | cons e es ih =>
    rw [set]
    by_cases he : e.1 = k
    · rw [if_pos he, lookup_cons, lookup_cons, he]
      split <;> rfl
    · rw [if_neg he, lookup_cons, lookup_cons, ih]
      by_cases hk : k' = e.1
      · rw [if_pos hk, if_pos hk, if_neg fun h => he (hk ▸ h)]
      · rw [if_neg hk, if_neg hk]

/-- A value that is there wins over the default. -/
theorem lookup_setdefault (d : List (κ × ν)) (k k' : κ) (v : ν) :
    (setdefault d k v).lookup k' =
      if k' = k then some ((d.lookup k).getD v) else d.lookup k' := by
  rw [setdefault]
  cases h : d.lookup k with
  | none => simp [lookup_set]
  | some w =>
    by_cases hk : k' = k
    · simp [hk, h]
    · simp [hk]

theorem update_cons (d es : List (κ × ν)) (e : κ × ν) :
    update d (e :: es) = update (set d e.1 e.2) es := rfl

/-- The entries of the updating dictionary win over those that were there. -/
theorem lookup_update (d es : List (κ × ν)) (k : κ) :
    (update d es).lookup k = ((update [] es).lookup k).or (d.lookup k) := by
  induction es generalizing d with
  | nil => rfl
  | cons e es ih =>
    rw [update_cons, update_cons, ih, ih (set [] e.1 e.2), lookup_set, lookup_set]
    cases (update [] es).lookup k with
    | some v => rfl
    | none =>
      by_cases hk : k = e.1
      · rw [if_pos hk, if_pos hk]
        rfl
      · rw [if_neg hk, if_neg hk]
        rfl

/-- A key that the updating dictionary does not have is left alone. -/
theorem lookup_update_of_absent (d : List (κ × ν)) {es : List (κ × ν)} {k : κ}
    (h : es.lookup k = none) : (update d es).lookup k = d.lookup k := by
  induction es generalizing d with
  | nil => rfl
  | cons e es ih =>
    rw [lookup_cons] at h
    by_cases hk : k = e.1
    · rw [if_pos hk] at h
      cases h
    · rw [if_neg hk] at h
      rw [update_cons, ih _ h, lookup_set, if_neg hk]

theorem lookup_delete (d : List (κ × ν)) (k k' : κ) :
    (delete d k).lookup k' = if k' = k then none else d.lookup k' := by
  induction d with
  | nil => simp [delete]
  | cons e es ih =>
    rw [delete] at ih
    rw [delete, List.filter_cons]
    by_cases he : e.1 = k
    · rw [if_neg (by simpa using he), ih, lookup_cons, he]
      split <;> rfl
    · rw [if_pos (by simpa using he), lookup_cons, lookup_cons, ih]
      by_cases hk : k' = e.1
      · rw [if_pos hk, if_pos hk, if_neg fun h => he (hk ▸ h)]
      · rw [if_neg hk, if_neg hk]

/-- Where no key occurs twice, an entry is what a lookup finds. -/
theorem lookup_eq_some_iff_mem {d : List (κ × ν)} (hd : (d.map Prod.fst).Nodup) {k : κ} {v : ν} :
    d.lookup k = some v ↔ (k, v) ∈ d := by
  induction d with
  | nil => simp
  | cons e es ih =>
    obtain ⟨hnot, hes⟩ := List.nodup_cons.mp hd
    rw [lookup_cons, List.mem_cons]
    by_cases hk : k = e.1
    · rw [if_pos hk]
      constructor
      · intro h
        exact .inl (Prod.ext hk (Option.some.inj h).symm)
      · rintro (h | h)
        · rw [← h]
        · exact absurd (hk ▸ List.mem_map_of_mem (f := Prod.fst) h) hnot
    · rw [if_neg hk, ih hes]
      constructor
      · exact .inr
      · rintro (h | h)
        · exact absurd (congrArg Prod.fst h) hk
        · exact h

theorem lookup_eq_none_iff_notMem {d : List (κ × ν)} {k : κ} :
    d.lookup k = none ↔ k ∉ d.map Prod.fst := by
  induction d with
  | nil => simp
  | cons e es ih =>
    rw [lookup_cons, List.map_cons, List.mem_cons, not_or, ← ih]
    by_cases hk : k = e.1
    · simp [hk]
    · simp [hk]

/-- A dictionary that is built from entries with different keys has those entries. -/
theorem lookup_update_nil {es : List (κ × ν)} (h : (es.map Prod.fst).Nodup) (k : κ) :
    (update [] es).lookup k = es.lookup k := by
  induction es with
  | nil => rfl
  | cons e es ih =>
    rw [List.map_cons, List.nodup_cons] at h
    rw [update_cons, lookup_update, ih h.2, lookup_set, lookup_cons]
    by_cases hk : k = e.1
    · rw [hk, lookup_eq_none_iff_notMem.mpr h.1]
      rfl
    · rw [if_neg hk, if_neg hk]
      exact Option.or_none

/-! ### Keys and sizes -/

theorem map_fst_set (d : List (κ × ν)) (k : κ) (v : ν) :
    (set d k v).map Prod.fst =
      if k ∈ d.map Prod.fst then d.map Prod.fst else d.map Prod.fst ++ [k] := by
  induction d with
  | nil => simp [set]
  | cons e es ih =>
    rw [set]
    by_cases he : e.1 = k
    · simp [he]
    · have hmem : k ∈ (e :: es).map Prod.fst ↔ k ∈ es.map Prod.fst := by
        rw [List.map_cons, List.mem_cons, or_iff_right fun h => he h.symm]
      rw [if_neg he, List.map_cons, ih]
      by_cases hk : k ∈ es.map Prod.fst
      · rw [if_pos hk, if_pos (hmem.mpr hk), List.map_cons]
      · rw [if_neg hk, if_neg fun h => hk (hmem.mp h), List.map_cons, List.cons_append]

/-- Writing what is there changes nothing. -/
theorem set_of_lookup {d : List (κ × ν)} {k : κ} {v : ν} (h : d.lookup k = some v) :
    set d k v = d := by
  induction d with
  | nil => cases h
  | cons e es ih =>
    rw [lookup_cons] at h
    rw [set]
    by_cases he : k = e.1
    · rw [if_pos he] at h
      obtain rfl := Option.some.inj h
      rw [if_pos he.symm, he]
    · rw [if_neg he] at h
      rw [if_neg fun hk => he hk.symm, ih h]

theorem update_of_forall {d es : List (κ × ν)} (h : ∀ e ∈ es, d.lookup e.1 = some e.2) :
    update d es = d := by
  induction es with
  | nil => rfl
  | cons e es ih =>
    rw [update_cons, set_of_lookup (h e List.mem_cons_self)]
    exact ih fun e' he' => h e' (List.mem_cons_of_mem _ he')

/-- A new key comes last. -/
theorem set_of_notMem {d : List (κ × ν)} {k : κ} (hk : k ∉ d.map Prod.fst) (v : ν) :
    set d k v = d ++ [(k, v)] := by
  induction d with
  | nil => rfl
  | cons e es ih =>
    rw [List.map_cons, List.mem_cons, not_or] at hk
    rw [set, if_neg fun h => hk.1 h.symm, ih hk.2, List.cons_append]

theorem mem_set_self (d : List (κ × ν)) (k : κ) (v : ν) : (k, v) ∈ set d k v := by
  induction d with
  | nil => exact List.mem_singleton_self _
  | cons e es ih =>
    rw [set]
    split
    · exact List.mem_cons_self
    · exact List.mem_cons_of_mem _ ih

/-- The entries of the other keys stay. -/
theorem mem_set_of_ne {d : List (κ × ν)} {e : κ × ν} (he : e ∈ d) {k : κ} (hk : e.1 ≠ k) (v : ν) :
    e ∈ set d k v := by
  induction d with
  | nil => cases he
  | cons e' es ih =>
    rw [set]
    rcases List.mem_cons.mp he with rfl | he
    · rw [if_neg hk]
      exact List.mem_cons_self
    · split
      · exact List.mem_cons_of_mem _ he
      · exact List.mem_cons_of_mem _ (ih he)

/-- What is in a dictionary after writing was there, or has been written. -/
theorem mem_of_mem_set {d : List (κ × ν)} {e : κ × ν} {k : κ} {v : ν} (he : e ∈ set d k v) :
    e = (k, v) ∨ e ∈ d := by
  induction d with
  | nil => exact .inl (List.mem_singleton.mp he)
  | cons e' es ih =>
    rw [set] at he
    split at he
    · rcases List.mem_cons.mp he with rfl | he
      · exact .inl rfl
      · exact .inr (List.mem_cons_of_mem _ he)
    · rcases List.mem_cons.mp he with rfl | he
      · exact .inr List.mem_cons_self
      · exact (ih he).imp_right (List.mem_cons_of_mem _)

theorem nodup_set {d : List (κ × ν)} (hd : (d.map Prod.fst).Nodup) (k : κ) (v : ν) :
    ((set d k v).map Prod.fst).Nodup := by
  rw [map_fst_set]
  split
  · exact hd
  · refine List.nodup_append.mpr ⟨hd, List.nodup_singleton k, fun a ha b hb hab => ?_⟩
    obtain rfl := List.mem_singleton.mp hb
    exact absurd (hab ▸ ha) ‹_›

theorem nodup_setdefault {d : List (κ × ν)} (hd : (d.map Prod.fst).Nodup) (k : κ) (v : ν) :
    ((setdefault d k v).map Prod.fst).Nodup := by
  rw [setdefault]
  split
  · exact hd
  · exact nodup_set hd k v

/-- Writing makes a dictionary larger by one, unless the key is there. -/
theorem length_set (d : List (κ × ν)) (k : κ) (v : ν) :
    (set d k v).length = if (d.lookup k).isSome then d.length else d.length + 1 := by
  have hlength := congrArg List.length (map_fst_set d k v)
  rw [List.length_map] at hlength
  rw [hlength]
  cases hk : d.lookup k with
  | none => simp [lookup_eq_none_iff_notMem.mp hk]
  | some w =>
    have hmem : k ∈ d.map Prod.fst := by
      by_contra hnot
      rw [lookup_eq_none_iff_notMem.mpr hnot] at hk
      cases hk
    simp [hmem]

theorem map_fst_delete (d : List (κ × ν)) (k : κ) :
    (delete d k).map Prod.fst = (d.map Prod.fst).filter (· ≠ k) := by
  rw [delete, List.filter_map]
  rfl

theorem nodup_delete {d : List (κ × ν)} (hd : (d.map Prod.fst).Nodup) (k : κ) :
    ((delete d k).map Prod.fst).Nodup := by
  rw [map_fst_delete]
  exact hd.filter _

/-- Deleting a key that is there makes a dictionary smaller by one. -/
theorem length_delete {d : List (κ × ν)} (hd : (d.map Prod.fst).Nodup) {k : κ}
    (hk : k ∈ d.map Prod.fst) : (delete d k).length + 1 = d.length := by
  have hlength := congrArg List.length (map_fst_delete d k)
  have herase := congrArg List.length (hd.erase_eq_filter k)
  rw [List.length_erase_of_mem hk, List.length_map] at herase
  have hpos : 0 < d.length := by simpa using List.length_pos_of_mem hk
  have hfilter : (d.map Prod.fst).filter (· ≠ k) = (d.map Prod.fst).filter (· != k) := by
    refine List.filter_congr fun a _ => ?_
    by_cases h : a = k
    · simp [h]
    · simp [h]
  rw [List.length_map, hfilter, ← herase] at hlength
  omega

/-- What a lookup finds after deletions is what it found before, or nothing. -/
theorem lookup_foldl_delete (ks : List κ) (d : List (κ × ν)) (k : κ) :
    (ks.foldl delete d).lookup k = if k ∈ ks then none else d.lookup k := by
  induction ks generalizing d with
  | nil => simp
  | cons k' ks ih =>
    rw [List.foldl_cons, ih, lookup_delete]
    by_cases hk : k = k'
    · simp [hk]
    · simp [hk]

theorem nodup_foldl_delete {d : List (κ × ν)} (hd : (d.map Prod.fst).Nodup) (ks : List κ) :
    ((ks.foldl delete d).map Prod.fst).Nodup := by
  induction ks generalizing d with
  | nil => exact hd
  | cons k ks ih => exact ih (nodup_delete hd k)

/-- Deleting keys that are there makes a dictionary smaller by their number. -/
theorem length_foldl_delete {d : List (κ × ν)} (hd : (d.map Prod.fst).Nodup) {ks : List κ}
    (hks : ks.Nodup) (hsub : ∀ k ∈ ks, k ∈ d.map Prod.fst) :
    (ks.foldl delete d).length + ks.length = d.length := by
  induction ks generalizing d with
  | nil => rfl
  | cons k ks ih =>
    obtain ⟨hnot, hks⟩ := List.nodup_cons.mp hks
    have hlength := length_delete hd (hsub k List.mem_cons_self)
    have hsub' : ∀ k' ∈ ks, k' ∈ (delete d k).map Prod.fst := by
      intro k' hk'
      rw [map_fst_delete]
      refine List.mem_filter.mpr ⟨hsub k' (List.mem_cons_of_mem _ hk'), decide_eq_true ?_⟩
      rintro rfl
      exact hnot hk'
    have hrest := ih (nodup_delete hd k) hks hsub'
    rw [List.foldl_cons, List.length_cons]
    omega

end PyDict

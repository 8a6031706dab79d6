import OpenLangGraph.Foundation.PyDict

/-!
# The retry cache

`LRURetryCache` of `services/audit_outbox_service.py`: how often each record has failed, for at most
`MAX_RETRY_CACHE_SIZE` records. A record that fails moves to the end of the order, and when a new
one makes the cache too large, the first in the order is forgotten.

## Main definitions

* `LruRetryCache`, `get`, `increment`, `clear`
* `LruRetryCache.Recent` — a record is near the end of the order

## Main results

* `get_clear`, `get_increment_self`, `get_increment_other` — the counts afterwards
* `Recent.increment`, `Recent.clear` — what is near the end is not forgotten
-/

namespace OpenLangGraph

/-- `MAX_RETRY_CACHE_SIZE` -/
def maxRetryCacheSize : ℕ := 1000

/-- An `OrderedDict` of bounded size. -/
@[ext]
structure LruRetryCache where
  entries : List (String × ℕ)
  unique : (entries.map Prod.fst).Nodup
  bounded : entries.length ≤ maxRetryCacheSize

namespace LruRetryCache

variable {c : LruRetryCache} {key key' : String} {n m : ℕ}

def empty : LruRetryCache := ⟨[], List.nodup_nil, Nat.zero_le _⟩

/-- `get` -/
def get (c : LruRetryCache) (key : String) : ℕ := (c.entries.lookup key).getD 0

/-- The entries without the key. -/
def without (c : LruRetryCache) (key : String) : List (String × ℕ) := PyDict.delete c.entries key

theorem without_sublist (c : LruRetryCache) (key : String) : (c.without key).Sublist c.entries :=
  List.filter_sublist

theorem notMem_without (c : LruRetryCache) (key : String) :
    key ∉ (c.without key).map Prod.fst := by
  intro hmem
  obtain ⟨entry, hentry, rfl⟩ := List.mem_map.mp hmem
  exact absurd rfl (of_decide_eq_true (List.mem_filter.mp hentry).2)

theorem nodup_without (c : LruRetryCache) (key : String) : ((c.without key).map Prod.fst).Nodup :=
  c.unique.sublist ((c.without_sublist key).map _)

theorem length_without (h : c.entries.lookup key = some n) :
    (c.without key).length < c.entries.length := by
  refine List.length_filter_lt_length_iff_exists.mpr ?_
  exact ⟨(key, n), (PyDict.lookup_eq_some_iff_mem c.unique).mp h, by simp⟩

theorem without_of_lookup_eq_none (h : c.entries.lookup key = none) :
    c.without key = c.entries := by
  refine List.filter_eq_self.mpr fun entry hentry => decide_eq_true fun heq => ?_
  exact PyDict.lookup_eq_none_iff_notMem.mp h (List.mem_map.mpr ⟨entry, hentry, heq⟩)

/-- `clear` -/
def clear (c : LruRetryCache) (key : String) : LruRetryCache where
  entries := c.without key
  unique := c.nodup_without key
  bounded := Nat.le_trans (c.without_sublist key).length_le c.bounded

/-- The entries after `increment`: a key that is there moves to the end; with a new one, the first
are forgotten until the size is right. -/
def incrementEntries (c : LruRetryCache) (key : String) : List (String × ℕ) :=
  match c.entries.lookup key with
  | some n => c.without key ++ [(key, n + 1)]
  | none =>
    let grown := c.entries ++ [(key, 1)]
    grown.drop (grown.length - maxRetryCacheSize)

/-- In both cases the entry is put at the end, and some may go at the start. -/
theorem incrementEntries_eq (c : LruRetryCache) (key : String) :
    c.incrementEntries key =
      (c.without key ++ [(key, c.get key + 1)]).drop
        ((c.without key).length + 1 - maxRetryCacheSize) := by
  rw [incrementEntries, get]
  cases h : c.entries.lookup key with
  | some n =>
    have hlt := length_without h
    have hbound := c.bounded
    rw [Nat.sub_eq_zero_of_le (by omega)]
    rfl
  | none =>
    rw [without_of_lookup_eq_none h]
    simp only [List.length_append, List.length_singleton]
    rfl

/-- The new entries before any go. -/
theorem nodup_grown (c : LruRetryCache) (key : String) (n : ℕ) :
    ((c.without key ++ [(key, n)]).map Prod.fst).Nodup := by
  rw [List.map_append, List.nodup_append]
  refine ⟨c.nodup_without key, List.nodup_cons.mpr ⟨List.not_mem_nil, List.nodup_nil⟩,
    fun k hk k' hk' heq => ?_⟩
  rw [heq, List.mem_singleton.mp hk'] at hk
  exact c.notMem_without key hk

/-- `increment`. The new count is the count afterwards. -/
def increment (c : LruRetryCache) (key : String) : LruRetryCache where
  entries := c.incrementEntries key
  unique := by
    rw [incrementEntries_eq]
    exact (c.nodup_grown key _).sublist ((List.drop_sublist _ _).map _)
  bounded := by
    rw [incrementEntries_eq, List.length_drop, List.length_append, List.length_singleton]
    omega

/-! ### Counts -/

theorem get_eq_of_mem (h : (key, n) ∈ c.entries) : c.get key = n := by
  rw [get, (PyDict.lookup_eq_some_iff_mem c.unique).mpr h, Option.getD_some]

theorem get_clear (c : LruRetryCache) (key key' : String) :
    (c.clear key).get key' = if key' = key then 0 else c.get key' := by
  show ((PyDict.delete c.entries key).lookup key').getD 0 = _
  rw [PyDict.lookup_delete]
  split
  · rfl
  · rfl

theorem get_increment_self (c : LruRetryCache) (key : String) :
    (c.increment key).get key = c.get key + 1 := by
  refine get_eq_of_mem ?_
  show (key, _) ∈ c.incrementEntries key
  have hbound := (c.without_sublist key).length_le
  rw [incrementEntries_eq, List.drop_append_of_le_length]
  · exact List.mem_append_right _ (List.mem_singleton_self _)
  · rw [maxRetryCacheSize]
    omega

/-- The count of another key stays, or is forgotten. -/
theorem get_increment_other (c : LruRetryCache) (h : key' ≠ key) :
    (c.increment key).get key' ≤ c.get key' := by
  cases hlookup : (c.increment key).entries.lookup key' with
  | none =>
    rw [get, hlookup]
    exact Nat.zero_le _
  | some n =>
    have hmem := (PyDict.lookup_eq_some_iff_mem (c.increment key).unique).mp hlookup
    have hgrown : (key', n) ∈ c.incrementEntries key := hmem
    rw [incrementEntries_eq] at hgrown
    rcases List.mem_append.mp (List.mem_of_mem_drop hgrown) with hold | hnew
    · have hafter := get_eq_of_mem hmem
      have hbefore := get_eq_of_mem ((c.without_sublist key).subset hold)
      omega
    · exact absurd (congrArg Prod.fst (List.mem_singleton.mp hnew)) h

/-! ### What is not forgotten -/

/-- The key has the count, and at most `m` entries come after it. -/
def Recent (c : LruRetryCache) (key : String) (n m : ℕ) : Prop :=
  ∃ before after, c.entries = before ++ (key, n) :: after ∧ after.length ≤ m

theorem Recent.get_eq (h : c.Recent key n m) : c.get key = n := by
  obtain ⟨before, after, hentries, -⟩ := h
  exact get_eq_of_mem (by simp [hentries])

theorem Recent.mono (h : c.Recent key n m) {m' : ℕ} (hle : m ≤ m') : c.Recent key n m' := by
  obtain ⟨before, after, hentries, hlength⟩ := h
  exact ⟨before, after, hentries, Nat.le_trans hlength hle⟩

theorem recent_increment_self (c : LruRetryCache) (key : String) :
    (c.increment key).Recent key (c.get key + 1) 0 := by
  have hbound := (c.without_sublist key).length_le
  refine ⟨(c.without key).drop ((c.without key).length + 1 - maxRetryCacheSize), [], ?_,
    Nat.le_refl _⟩
  show c.incrementEntries key = _
  rw [incrementEntries_eq, List.drop_append_of_le_length]
  rw [maxRetryCacheSize]
  omega

/-- Clearing another key leaves it near the end. -/
theorem Recent.clear (h : c.Recent key n m) (hkey : key ≠ key') :
    (c.clear key').Recent key n m := by
  obtain ⟨before, after, hentries, hlength⟩ := h
  refine ⟨PyDict.delete before key', PyDict.delete after key', ?_, ?_⟩
  · show PyDict.delete c.entries key' = _
    rw [hentries, PyDict.delete, List.filter_append, List.filter_cons_of_pos (by simpa using hkey)]
    rfl
  · exact Nat.le_trans (List.length_filter_le _ _) hlength

/-- Another key that fails puts at most one entry after it. -/
theorem Recent.increment (h : c.Recent key n m) (hkey : key ≠ key')
    (hm : m + 1 < maxRetryCacheSize) : (c.increment key').Recent key n (m + 1) := by
  obtain ⟨before, after, hentries, hlength⟩ := h.clear hkey
  refine ⟨before.drop ((c.without key').length + 1 - maxRetryCacheSize),
    after ++ [(key', c.get key' + 1)], ?_, ?_⟩
  · show c.incrementEntries key' = _
    have hwithout : c.without key' = before ++ (key, n) :: after := hentries
    rw [incrementEntries_eq, hwithout, List.append_assoc, List.cons_append,
      List.drop_append_of_le_length]
    rw [List.length_append, List.length_cons]
    omega
  · rw [List.length_append, List.length_singleton]
    omega

end LruRetryCache

end OpenLangGraph

import OpenLangGraph.Foundation.PyDict

/-!
# A read-through cache whose entries expire

A cache keeps values under keys, each until a time of its own. Reading a query through the cache
returns the value that is kept under its key, or computes the value and keeps it.

## Coherence

The value of a query depends on a state that others write, and on the time. A cache is *coherent*
if every value that it still keeps for a query is the value of the query. Then reading through the
cache is computing. A writer keeps the cache coherent if it deletes the key of every query whose
value it changes and whose old value is still kept; nothing else is needed.

## Main definitions

* `TtlCache`, `get`, `set`, `deleteAll`, `live`
* `readThrough`, `Coherent`

## Main results

* `Coherent.readThrough_snd` — reading through a coherent cache is computing
* `Coherent.readThrough_fst`, `Coherent.write`, `Coherent.later` — what keeps a cache coherent
-/

/-- Values with the time at which they expire. -/
structure TtlCache (κ ν : Type*) where
  entries : List (κ × ν × ℕ)

namespace TtlCache

variable {κ ν : Type*}

/-- A cache without entries. -/
def empty : TtlCache κ ν := ⟨[]⟩

/-- The values that have not expired. -/
def live (c : TtlCache κ ν) (now : ℕ) : List ν :=
  (c.entries.filter fun entry => now < entry.2.2).map (·.2.1)

variable [DecidableEq κ]

/-- The value under a key, unless it has expired. -/
def get (c : TtlCache κ ν) (now : ℕ) (k : κ) : Option ν :=
  ((c.entries.lookup k).filter fun entry => now < entry.2).map Prod.fst

def set (c : TtlCache κ ν) (k : κ) (v : ν) (expiresAt : ℕ) : TtlCache κ ν :=
  ⟨PyDict.set c.entries k (v, expiresAt)⟩

def delete (c : TtlCache κ ν) (k : κ) : TtlCache κ ν := ⟨PyDict.delete c.entries k⟩

def deleteAll (c : TtlCache κ ν) (ks : List κ) : TtlCache κ ν := ks.foldl delete c

/-- Return the value under the key, or else the computed value, which is kept for a while. -/
def readThrough (c : TtlCache κ ν) (now ttl : ℕ) (k : κ) (computed : ν) : TtlCache κ ν × ν :=
  match c.get now k with
  | some v => (c, v)
  | none => (c.set k computed (now + ttl), computed)

/-! ### What is read afterwards -/

variable {c : TtlCache κ ν} {now now' : ℕ} {k : κ} {v : ν}

theorem get_eq_some_iff :
    c.get now k = some v ↔
      ∃ expiresAt, c.entries.lookup k = some (v, expiresAt) ∧ now < expiresAt := by
  rw [get]
  cases c.entries.lookup k with
  | none => simp
  | some entry =>
    obtain ⟨v', expiresAt⟩ := entry
    by_cases h : now < expiresAt
    · simp [Option.filter_some, h]
    · simp only [Option.filter_some, h, decide_false, Bool.false_eq_true, if_false]
      constructor
      · intro hnone
        cases hnone
      · rintro ⟨_, hentry, hnow⟩
        cases hentry
        exact absurd hnow h

theorem get_set (k' : κ) (expiresAt : ℕ) (h : now < expiresAt) :
    (c.set k v expiresAt).get now k' = if k' = k then some v else c.get now k' := by
  rw [get, set, PyDict.lookup_set]
  by_cases hk : k' = k
  · rw [if_pos hk, if_pos hk, Option.filter_some, if_pos (by simpa using h), Option.map_some]
  · rw [if_neg hk, if_neg hk, get]

theorem get_delete (k' : κ) :
    (c.delete k).get now k' = if k' = k then none else c.get now k' := by
  rw [get, delete, PyDict.lookup_delete]
  by_cases hk : k' = k
  · rw [if_pos hk, if_pos hk]
    rfl
  · rw [if_neg hk, if_neg hk, get]

/-- What is still read after a deletion was read before, under a key that is not deleted. -/
theorem get_deleteAll {ks : List κ} (h : (c.deleteAll ks).get now k = some v) :
    k ∉ ks ∧ c.get now k = some v := by
  induction ks generalizing c with
  | nil => exact ⟨List.not_mem_nil, h⟩
  | cons k' ks ih =>
    obtain ⟨hks, hget⟩ := ih (c := c.delete k') h
    rw [get_delete] at hget
    split at hget
    · cases hget
    · rename_i hk
      exact ⟨fun hmem => (List.mem_cons.mp hmem).elim hk hks, hget⟩

/-- What is still there later is there now. -/
theorem get_of_later (hnow : now ≤ now') (h : c.get now' k = some v) : c.get now k = some v := by
  obtain ⟨expiresAt, hlookup, hlive⟩ := get_eq_some_iff.mp h
  exact get_eq_some_iff.mpr ⟨expiresAt, hlookup, Nat.lt_of_le_of_lt hnow hlive⟩

theorem mem_live_of_get (h : c.get now k = some v) : v ∈ c.live now := by
  obtain ⟨expiresAt, hlookup, hlive⟩ := get_eq_some_iff.mp h
  obtain ⟨before, after, hentries, -⟩ := List.lookup_eq_some_iff.mp hlookup
  refine List.mem_map.mpr ⟨(k, v, expiresAt), List.mem_filter.mpr ⟨?_, by simpa using hlive⟩, rfl⟩
  rw [hentries]
  exact List.mem_append_right _ List.mem_cons_self

/-! ### What is true of all entries -/

/-- Every entry has a property, with the time at which it expires. -/
def Every (c : TtlCache κ ν) (P : κ → ν → ℕ → Prop) : Prop :=
  ∀ k v expiresAt, c.entries.lookup k = some (v, expiresAt) → P k v expiresAt

namespace Every

variable {P P' : κ → ν → ℕ → Prop}

theorem mono (hP : ∀ k v expiresAt, P k v expiresAt → P' k v expiresAt) (hc : c.Every P) :
    c.Every P' :=
  fun k v expiresAt h => hP k v expiresAt (hc k v expiresAt h)

theorem set {expiresAt : ℕ} (hc : c.Every P) (h : P k v expiresAt) :
    (c.set k v expiresAt).Every P := by
  intro k' v' expiresAt' hlookup
  rw [TtlCache.set, PyDict.lookup_set] at hlookup
  split at hlookup
  · next hk =>
    cases hlookup
    exact hk ▸ h
  · exact hc k' v' expiresAt' hlookup

theorem deleteAll (hc : c.Every P) (ks : List κ) : (c.deleteAll ks).Every P := by
  induction ks generalizing c with
  | nil => exact hc
  | cons k ks ih =>
    refine ih fun k' v expiresAt hlookup => ?_
    rw [delete, PyDict.lookup_delete] at hlookup
    split at hlookup
    · cases hlookup
    · exact hc k' v expiresAt hlookup

/-- A value that is read has not expired. -/
theorem of_get (hc : c.Every P) (h : c.get now k = some v) :
    ∃ expiresAt, now < expiresAt ∧ P k v expiresAt := by
  obtain ⟨expiresAt, hlookup, hlive⟩ := get_eq_some_iff.mp h
  exact ⟨expiresAt, hlive, hc k v expiresAt hlookup⟩

end Every

/-! ### Coherence -/

variable {Q : Type*} {key : Q → κ} {valid : Q → Prop} {eval eval' : Q → ν} {q : Q}

/-- Every value that is kept for a query is the value of the query. -/
def Coherent (c : TtlCache κ ν) (now : ℕ) (key : Q → κ) (valid : Q → Prop) (eval : Q → ν) : Prop :=
  ∀ q, valid q → ∀ v, c.get now (key q) = some v → v = eval q

namespace Coherent

theorem empty (now : ℕ) (key : Q → κ) (valid : Q → Prop) (eval : Q → ν) :
    (TtlCache.empty : TtlCache κ ν).Coherent now key valid eval := by
  intro q _ v h
  cases h

/-- **Reading through a coherent cache** is computing. -/
theorem readThrough_snd (hc : c.Coherent now key valid eval) (hq : valid q) (ttl : ℕ) :
    (c.readThrough now ttl (key q) (eval q)).2 = eval q := by
  rw [readThrough]
  cases hget : c.get now (key q) with
  | none => rfl
  | some v => exact hc q hq v hget

/-- It keeps the cache coherent, if different queries have different keys. -/
theorem readThrough_fst (hc : c.Coherent now key valid eval)
    (hkey : ∀ q q', valid q → valid q' → key q = key q' → q = q') (hq : valid q) {ttl : ℕ}
    (httl : 0 < ttl) : (c.readThrough now ttl (key q) (eval q)).1.Coherent now key valid eval := by
  rw [readThrough]
  cases c.get now (key q) with
  | some v => exact hc
  | none =>
    intro q' hq' v hv
    rw [get_set _ _ (Nat.lt_add_of_pos_right httl)] at hv
    by_cases hk : key q' = key q
    · rw [if_pos hk] at hv
      rw [hkey q' q hq' hq hk]
      exact (Option.some.inj hv).symm
    · rw [if_neg hk] at hv
      exact hc q' hq' v hv

/-- **A writer** may delete keys, and must leave alone the values of the queries that are kept
under other keys. -/
theorem write (hc : c.Coherent now key valid eval) (ks : List κ)
    (heval : ∀ q, valid q → key q ∉ ks → c.get now (key q) = some (eval q) → eval' q = eval q) :
    (c.deleteAll ks).Coherent now key valid eval' := by
  intro q hq v hv
  obtain ⟨hks, hget⟩ := get_deleteAll hv
  obtain rfl := hc q hq v hget
  exact (heval q hq hks hget).symm

/-- **The passing of time** must leave alone the values that are kept until then. -/
theorem later (hc : c.Coherent now key valid eval) (hnow : now ≤ now')
    (heval : ∀ q, valid q → c.get now' (key q) = some (eval q) → eval' q = eval q) :
    c.Coherent now' key valid eval' := by
  intro q hq v hv
  obtain rfl := hc q hq v (get_of_later hnow hv)
  exact (heval q hq hv).symm

end Coherent

end TtlCache

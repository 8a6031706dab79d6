import OpenLangGraph.Services.LruRetryCache

/-!
# What the retry cache counts

`LRURetryCache` of `services/audit_outbox_service.py` with any size and with all its operations,
against the history of its calls.

## The history

A count starts again when its key is cleared, when the cache is reset, and when the cache forgets
the key because it is full. The calls say the first two. Which key is forgotten is a choice of the
cache, so the history has the evicted keys beside each call, and the specification says which keys
these may be.

## Main definitions

* `RetryCall`, `LoggedCall` — a call, and a call with what it evicts
* `countSince`, `sinceIncrement` — the count of a key and its age, by the history
* `RetryCounts` — the ordered dictionary
* `RetryCounts.run` — any sequence of calls

## Main results

* `RetryCounts.Tracks.apply` — the dictionary keeps the counts of the history, in their order
* `RetryCounts.run_spec` — what the operations return, and which keys are evicted
* `RetryCounts.increment_ofLru` — the cache of the outbox is the one of `MAX_RETRY_CACHE_SIZE`
-/

namespace OpenLangGraph

/-! ### The history -/

inductive RetryCall
  | increment (key : String)
  | get (key : String)
  | clear (key : String)
  | reset
  deriving DecidableEq

/-- A call, with the keys that it evicts. -/
structure LoggedCall where
  call : RetryCall
  evicted : List String

/-- After this call the key has no count. -/
def LoggedCall.forgets (logged : LoggedCall) (key : String) : Bool :=
  logged.call = .clear key || logged.call = .reset || key ∈ logged.evicted

/-- How often the key has been incremented since it was last forgotten. The last call comes
first in the history. -/
def countSince (key : String) : List LoggedCall → ℕ
  | [] => 0
  | logged :: history =>
    if logged.forgets key then 0
    else if logged.call = .increment key then countSince key history + 1
    else countSince key history

/-- How many calls have been made since the key was last incremented. -/
def sinceIncrement (key : String) (history : List LoggedCall) : ℕ :=
  history.findIdx fun logged => logged.call = .increment key

/-- Of the keys that have a count, this one has waited longest. -/
def IsLeastRecent (history : List LoggedCall) (key : String) : Prop :=
  0 < countSince key history ∧ ∀ other, other ≠ key → 0 < countSince other history →
    sinceIncrement other history < sinceIncrement key history

section

variable {key : String} {call : RetryCall} {evicted : List String} {history : List LoggedCall}

theorem sinceIncrement_self (key : String) (evicted : List String) (history : List LoggedCall) :
    sinceIncrement key (⟨.increment key, evicted⟩ :: history) = 0 := by
  simp [sinceIncrement, List.findIdx_cons]

theorem sinceIncrement_cons (h : call ≠ .increment key) (evicted : List String)
    (history : List LoggedCall) :
    sinceIncrement key (⟨call, evicted⟩ :: history) = sinceIncrement key history + 1 := by
  simp [sinceIncrement, List.findIdx_cons, h]

end

/-! ### The cache -/

/-- `while len(self._cache) > self._max_size: self._cache.popitem(last=False)` -/
def popOldest (maxSize : ℕ) : List (String × ℕ) → List (String × ℕ)
  | [] => []
  | entry :: entries =>
    if maxSize < (entry :: entries).length then popOldest maxSize entries else entry :: entries

theorem popOldest_eq_drop (maxSize : ℕ) (entries : List (String × ℕ)) :
    popOldest maxSize entries = entries.drop (entries.length - maxSize) := by
  induction entries with
  | nil => simp [popOldest]
  | cons entry entries ih =>
    rw [popOldest, List.length_cons]
    split
    · rw [ih, show entries.length + 1 - maxSize = entries.length - maxSize + 1 by omega]
      rfl
    · rw [Nat.sub_eq_zero_of_le (by omega)]
      rfl

/-- `LRURetryCache`: an `OrderedDict` of at most `max_size` keys. -/
@[ext]
structure RetryCounts (maxSize : ℕ) where
  entries : List (String × ℕ)
  unique : (entries.map Prod.fst).Nodup
  bounded : entries.length ≤ maxSize

namespace RetryCounts

variable {maxSize : ℕ}

def empty (maxSize : ℕ) : RetryCounts maxSize := ⟨[], List.nodup_nil, Nat.zero_le _⟩

variable (c : RetryCounts maxSize) (key : String)

def keys : List String := c.entries.map Prod.fst

/-- `get` -/
def get : ℕ := (c.entries.lookup key).getD 0

/-- What `increment` makes of the entries. -/
def incremented : List (String × ℕ) :=
  match c.entries.lookup key with
  | some n => PyDict.delete c.entries key ++ [(key, n + 1)]
  | none => popOldest maxSize (PyDict.set c.entries key 1)

/-- The other keys, in their order. -/
def others : List (String × ℕ) := PyDict.delete c.entries key

variable {c key}

theorem others_sublist (c : RetryCounts maxSize) (key : String) :
    (c.others key).Sublist c.entries :=
  List.filter_sublist

theorem notMem_others (c : RetryCounts maxSize) (key : String) :
    key ∉ (c.others key).map Prod.fst := by
  rw [others, PyDict.map_fst_delete, List.mem_filter]
  simp

/-- A new key has the whole cache before it. -/
theorem others_of_lookup_eq_none (h : c.entries.lookup key = none) :
    c.others key = c.entries := by
  refine List.filter_eq_self.mpr fun entry hentry => decide_eq_true fun heq => ?_
  exact PyDict.lookup_eq_none_iff_notMem.mp h (List.mem_map.mpr ⟨entry, hentry, heq⟩)

/-- The key goes to the end, and what is too much goes from the start. -/
theorem incremented_eq (c : RetryCounts maxSize) (key : String) :
    c.incremented key = (c.others key ++ [(key, c.get key + 1)]).drop
      ((c.others key).length + 1 - maxSize) := by
  rw [incremented, get]
  cases h : c.entries.lookup key with
  | some n =>
    have hmem : key ∈ c.entries.map Prod.fst := by
      by_contra hnot
      rw [PyDict.lookup_eq_none_iff_notMem.mpr hnot] at h
      cases h
    have hlength : (c.others key).length + 1 = c.entries.length :=
      PyDict.length_delete c.unique hmem
    have hbound := c.bounded
    rw [Nat.sub_eq_zero_of_le (by omega)]
    rfl
  | none =>
    rw [others_of_lookup_eq_none h, popOldest_eq_drop,
      PyDict.set_of_notMem (PyDict.lookup_eq_none_iff_notMem.mp h), List.length_append]
    rfl

theorem nodup_others_append (c : RetryCounts maxSize) (key : String) (n : ℕ) :
    ((c.others key ++ [(key, n)]).map Prod.fst).Nodup := by
  rw [List.map_append, List.nodup_append]
  refine ⟨PyDict.nodup_delete c.unique key, List.nodup_singleton key, fun k hk k' hk' heq => ?_⟩
  rw [heq, List.mem_singleton.mp hk'] at hk
  exact c.notMem_others key hk

variable (c key)

/-- `increment`, and what it leaves in the cache. -/
def increment : RetryCounts maxSize where
  entries := c.incremented key
  unique := by
    rw [incremented_eq]
    exact (c.nodup_others_append key _).sublist ((List.drop_sublist _ _).map _)
  bounded := by
    rw [incremented_eq, List.length_drop, List.length_append, List.length_singleton]
    omega

/-- What `increment` returns, `self._cache[key]`. It is `none` for a `KeyError`. -/
def incrementResult : Option ℕ := (c.increment key).entries.lookup key

/-- `clear` -/
def clear : RetryCounts maxSize where
  entries := PyDict.delete c.entries key
  unique := PyDict.nodup_delete c.unique key
  bounded := Nat.le_trans (c.others_sublist key).length_le c.bounded

/-- The cache after a call. -/
def apply : RetryCall → RetryCounts maxSize
  | .increment key => c.increment key
  | .get _ => c
  | .clear key => c.clear key
  | .reset => empty maxSize

/-- The keys that a call removes although it is not asked to. -/
def evicted (call : RetryCall) : List String :=
  match call with
  | .clear _ | .reset => []
  | .increment _ | .get _ => c.keys.filter fun key => key ∉ (c.apply call).keys

/-- A call is made, and logged. -/
def logged (s : RetryCounts maxSize × List LoggedCall) (call : RetryCall) :
    RetryCounts maxSize × List LoggedCall :=
  (s.1.apply call, ⟨call, s.1.evicted call⟩ :: s.2)

/-- A sequence of calls on a new cache, with its history. -/
def run (maxSize : ℕ) (calls : List RetryCall) : RetryCounts maxSize × List LoggedCall :=
  calls.foldl logged (empty maxSize, [])

/-! ### What the dictionary keeps -/

/-- What the history says about the dictionary: which keys it has, with which counts, and in which
order. -/
structure Tracks (c : RetryCounts maxSize) (history : List LoggedCall) : Prop where
  lookup : ∀ key, c.entries.lookup key =
    if countSince key history = 0 then none else some (countSince key history)
  order : c.keys.Pairwise fun a b => sinceIncrement b history < sinceIncrement a history

theorem tracks_empty (maxSize : ℕ) : (empty maxSize).Tracks [] := by
  refine ⟨fun key => ?_, List.Pairwise.nil⟩
  simp [empty, countSince]

variable {c key} {call : RetryCall} {history : List LoggedCall} {other : String}

theorem Tracks.get_eq (h : c.Tracks history) (key : String) :
    c.get key = countSince key history := by
  rw [get, h.lookup]
  split
  · simp [*]
  · rfl

theorem Tracks.mem_keys_iff (h : c.Tracks history) :
    key ∈ c.keys ↔ 0 < countSince key history := by
  rw [← not_iff_not, keys, ← PyDict.lookup_eq_none_iff_notMem, h.lookup]
  split
  · simp [*]
  · simp only [reduceCtorEq, false_iff, not_not]
    omega

/-- No other call than an increment changes which of two keys has waited longer. -/
theorem sinceIncrement_lt_cons (hcall : ∀ key, call ≠ .increment key) (evicted : List String)
    {a b : String} (h : sinceIncrement b history < sinceIncrement a history) :
    sinceIncrement b (⟨call, evicted⟩ :: history) <
      sinceIncrement a (⟨call, evicted⟩ :: history) := by
  rw [sinceIncrement_cons (hcall a), sinceIncrement_cons (hcall b)]
  omega

/-! ### What a call does -/

theorem evicted_get (c : RetryCounts maxSize) (key : String) : c.evicted (.get key) = [] := by
  rw [evicted, List.filter_eq_nil_iff]
  intro k hk
  rw [decide_eq_true_eq, not_not]
  exact hk

theorem Tracks.get (h : c.Tracks history) (key : String) :
    (c.apply (.get key)).Tracks (⟨.get key, c.evicted (.get key)⟩ :: history) := by
  refine ⟨fun k => ?_, h.order.imp (sinceIncrement_lt_cons (by simp) _)⟩
  rw [evicted_get]
  simpa [countSince, LoggedCall.forgets, apply] using h.lookup k

theorem Tracks.clear (h : c.Tracks history) (key : String) :
    (c.apply (.clear key)).Tracks (⟨.clear key, c.evicted (.clear key)⟩ :: history) := by
  constructor
  · intro k
    show (PyDict.delete c.entries key).lookup k = _
    rw [PyDict.lookup_delete, h.lookup]
    by_cases hk : k = key
    · simp [countSince, LoggedCall.forgets, hk]
    · simp [countSince, LoggedCall.forgets, evicted, hk, Ne.symm hk]
  · have hsub : (c.apply (.clear key)).keys.Sublist c.keys := (c.others_sublist key).map _
    exact (h.order.sublist hsub).imp (sinceIncrement_lt_cons (by simp) _)

theorem Tracks.reset (_ : c.Tracks history) :
    (c.apply .reset).Tracks (⟨.reset, c.evicted .reset⟩ :: history) := by
  refine ⟨fun k => ?_, List.Pairwise.nil⟩
  simp [apply, empty, countSince, LoggedCall.forgets]

/-! ### What an increment does -/

/-- The other entries that stay. -/
def kept (c : RetryCounts maxSize) (key : String) : List (String × ℕ) :=
  (c.others key).drop ((c.others key).length + 1 - maxSize)

theorem kept_sublist (c : RetryCounts maxSize) (key : String) :
    (c.kept key).Sublist (c.others key) :=
  List.drop_sublist _ _

/-- Where there is room for a key, the new entry stays. -/
theorem entries_increment (hsize : 1 ≤ maxSize) (c : RetryCounts maxSize) (key : String) :
    (c.increment key).entries = c.kept key ++ [(key, c.get key + 1)] := by
  show c.incremented key = _
  rw [incremented_eq, List.drop_append_of_le_length (by omega), kept]

theorem keys_increment (hsize : 1 ≤ maxSize) (c : RetryCounts maxSize) (key : String) :
    (c.increment key).keys = (c.kept key).map Prod.fst ++ [key] := by
  rw [keys, entries_increment hsize, List.map_append]
  rfl

theorem mem_evicted_increment :
    other ∈ c.evicted (.increment key) ↔ other ∈ c.keys ∧ other ∉ (c.increment key).keys := by
  rw [evicted, List.mem_filter, decide_eq_true_eq]
  rfl

/-- The key has the next count. Another one has its count still, unless it is evicted. -/
theorem lookup_increment (hsize : 1 ≤ maxSize) (c : RetryCounts maxSize) (key other : String) :
    (c.increment key).entries.lookup other =
      if other = key then some (c.get key + 1)
      else if other ∈ c.evicted (.increment key) then none
      else c.entries.lookup other := by
  have hunique := (c.increment key).unique
  have hentries := entries_increment hsize c key
  by_cases hkey : other = key
  · rw [if_pos hkey, PyDict.lookup_eq_some_iff_mem hunique, hentries, hkey]
    exact List.mem_append_right _ (List.mem_singleton_self _)
  · rw [if_neg hkey]
    by_cases hafter : other ∈ (c.increment key).keys
    · rw [if_neg fun hevicted => (mem_evicted_increment.mp hevicted).2 hafter]
      obtain ⟨⟨k, n⟩, hentry, heq⟩ := List.mem_map.mp hafter
      obtain rfl : k = other := heq
      have hold : (k, n) ∈ c.kept key := by
        rw [hentries] at hentry
        refine (List.mem_append.mp hentry).resolve_right fun hnew => hkey ?_
        exact congrArg Prod.fst (List.mem_singleton.mp hnew)
      have hbefore : (k, n) ∈ c.entries :=
        (c.others_sublist key).subset ((c.kept_sublist key).subset hold)
      rw [(PyDict.lookup_eq_some_iff_mem hunique).mpr hentry,
        (PyDict.lookup_eq_some_iff_mem c.unique).mpr hbefore]
    · rw [PyDict.lookup_eq_none_iff_notMem.mpr hafter]
      split
      · rfl
      · rename_i hstays
        refine (PyDict.lookup_eq_none_iff_notMem.mpr fun hbefore => hstays ?_).symm
        exact mem_evicted_increment.mpr ⟨hbefore, hafter⟩

/-- **What an increment evicts** is the first key of a full cache, for a key that is new. -/
theorem eq_head_of_mem_evicted (hsize : 1 ≤ maxSize) (h : other ∈ c.evicted (.increment key)) :
    key ∉ c.keys ∧ c.entries.length = maxSize ∧ ∃ rest, c.keys = other :: rest := by
  obtain ⟨hbefore, hafter⟩ := mem_evicted_increment.mp h
  rw [keys_increment hsize, List.mem_append, not_or, List.mem_singleton] at hafter
  obtain ⟨hgone, hkey⟩ := hafter
  have hothers : other ∈ (c.others key).map Prod.fst := by
    rw [others, PyDict.map_fst_delete, List.mem_filter]
    exact ⟨hbefore, by simpa using hkey⟩
  have hle := (c.others_sublist key).length_le
  have hbound := c.bounded
  -- if there were room, all of them would be kept
  have hfull : (c.others key).length = maxSize := by
    by_contra hroom
    refine hgone ?_
    rw [kept, Nat.sub_eq_zero_of_le (by omega)]
    exact hothers
  have hsame : c.others key = c.entries := (c.others_sublist key).eq_of_length (by omega)
  refine ⟨?_, by omega, ?_⟩
  · rw [keys, ← hsame]
    exact c.notMem_others key
  · rw [kept, hfull, show maxSize + 1 - maxSize = 1 by omega, hsame] at hgone
    rw [keys] at hbefore ⊢
    cases hentries : c.entries with
    | nil => simp [hentries] at hbefore
    | cons entry rest =>
      rw [hentries] at hbefore hgone
      rcases List.mem_cons.mp hbefore with rfl | hrest
      · exact ⟨_, rfl⟩
      · exact absurd hrest hgone

theorem Tracks.increment (hsize : 1 ≤ maxSize) (h : c.Tracks history) (key : String) :
    (c.apply (.increment key)).Tracks
      (⟨.increment key, c.evicted (.increment key)⟩ :: history) := by
  constructor
  · intro other
    show (c.increment key).entries.lookup other = _
    rw [lookup_increment hsize]
    by_cases hkey : other = key
    · have hstays : key ∉ c.evicted (.increment key) := by
        rw [mem_evicted_increment, keys_increment hsize]
        simp
      rw [if_pos hkey, h.get_eq, hkey]
      simp [countSince, LoggedCall.forgets, hstays]
    · rw [if_neg hkey]
      by_cases hevicted : other ∈ c.evicted (.increment key)
      · simp [countSince, LoggedCall.forgets, hevicted]
      · rw [if_neg hevicted, h.lookup]
        simp [countSince, LoggedCall.forgets, hevicted, Ne.symm hkey]
  · show (c.increment key).keys.Pairwise _
    have hsub : ((c.kept key).map Prod.fst).Sublist c.keys :=
      ((c.kept_sublist key).trans (c.others_sublist key)).map _
    have hne : ∀ k ∈ (c.kept key).map Prod.fst, RetryCall.increment key ≠ .increment k := by
      rintro k hk ⟨⟩
      exact c.notMem_others key (((c.kept_sublist key).map _).subset hk)
    rw [keys_increment hsize, List.pairwise_append]
    refine ⟨(h.order.sublist hsub).imp_of_mem fun ha hb hab => ?_, List.pairwise_singleton _ _,
      fun k hk k' hk' => ?_⟩
    · rw [sinceIncrement_cons (hne _ ha), sinceIncrement_cons (hne _ hb)]
      omega
    · rw [List.mem_singleton.mp hk', sinceIncrement_self, sinceIncrement_cons (hne k hk)]
      omega

/-- **The step.** -/
theorem Tracks.apply (hsize : 1 ≤ maxSize) (h : c.Tracks history) (call : RetryCall) :
    (c.apply call).Tracks (⟨call, c.evicted call⟩ :: history) := by
  cases call with
  | increment key => exact h.increment hsize key
  | get key => exact h.get key
  | clear key => exact h.clear key
  | reset => exact h.reset

theorem tracks_run (hsize : 1 ≤ maxSize) (calls : List RetryCall) :
    (run maxSize calls).1.Tracks (run maxSize calls).2 := by
  have hstep : ∀ s : RetryCounts maxSize × List LoggedCall, s.1.Tracks s.2 →
      (calls.foldl logged s).1.Tracks (calls.foldl logged s).2 := by
    induction calls with
    | nil => exact fun s hs => hs
    | cons call calls ih => exact fun s hs => ih _ (hs.apply hsize call)
  exact hstep _ (tracks_empty maxSize)

/-- What is evicted has waited longest. -/
theorem Tracks.isLeastRecent (hsize : 1 ≤ maxSize) (h : c.Tracks history)
    (hevicted : other ∈ c.evicted (.increment key)) : IsLeastRecent history other := by
  obtain ⟨-, -, rest, hkeys⟩ := eq_head_of_mem_evicted hsize hevicted
  have horder := h.order
  rw [hkeys, List.pairwise_cons] at horder
  refine ⟨h.mem_keys_iff.mp (by simp [hkeys]), fun k hk hcount => horder.1 k ?_⟩
  have hmem := h.mem_keys_iff.mpr hcount
  rw [hkeys] at hmem
  exact (List.mem_cons.mp hmem).resolve_left hk

/-- **The cache is an LRU counter.** After any calls it has at most `max_size` keys; `increment`
returns the count of the history with this call; a key is evicted only when a new key comes to a
full cache, and is then the one that has waited longest; and `get` returns the count and changes
nothing. -/
theorem run_spec (maxSize : ℕ) (hsize : 1 ≤ maxSize) (calls : List RetryCall) :
    let c := (run maxSize calls).1
    let history := (run maxSize calls).2
    c.entries.length ≤ maxSize ∧
      (∀ key, c.incrementResult key = some (countSince key history + 1)) ∧
      (∀ call key, key ∈ c.evicted call → ∃ new, call = .increment new ∧ new ∉ c.keys ∧
        c.entries.length = maxSize ∧ IsLeastRecent history key) ∧
      ∀ key, c.apply (.get key) = c ∧ c.get key = countSince key history := by
  intro c history
  have htracks : c.Tracks history := tracks_run hsize calls
  refine ⟨c.bounded, fun key => ?_, fun call key hkey => ?_, fun key => ⟨rfl, htracks.get_eq key⟩⟩
  · rw [incrementResult, lookup_increment hsize, if_pos rfl, htracks.get_eq]
  · cases call with
    | increment new =>
      obtain ⟨hnew, hfull, -⟩ := eq_head_of_mem_evicted hsize hkey
      exact ⟨new, rfl, hnew, hfull, htracks.isLeastRecent hsize hkey⟩
    | get other =>
      rw [evicted_get] at hkey
      cases hkey
    | clear other => cases hkey
    | reset => cases hkey

/-- In a cache of two keys the third evicts the second, if the first has been incremented again. -/
theorem isLeastRecent_second :
    let calls : List RetryCall := [.increment "a", .increment "b", .increment "a"]
    (run 2 calls).1.incrementResult "a" = some 3 ∧
      "b" ∈ (run 2 calls).1.evicted (.increment "c") ∧ IsLeastRecent (run 2 calls).2 "b" := by
  intro calls
  obtain ⟨-, hincrement, hevicted, -⟩ := run_spec 2 (by decide) calls
  have hmem : "b" ∈ (run 2 calls).1.evicted (.increment "c") := by decide
  obtain ⟨-, -, -, -, hleast⟩ := hevicted (.increment "c") "b" hmem
  exact ⟨hincrement "a", hmem, hleast⟩

/-! ### The cache of the outbox -/

/-- `LRURetryCache(max_size=MAX_RETRY_CACHE_SIZE)` -/
def ofLru (cache : LruRetryCache) : RetryCounts maxRetryCacheSize :=
  ⟨cache.entries, cache.unique, cache.bounded⟩

theorem get_ofLru (cache : LruRetryCache) (key : String) :
    (ofLru cache).get key = cache.get key := rfl

theorem clear_ofLru (cache : LruRetryCache) (key : String) :
    (ofLru cache).clear key = ofLru (cache.clear key) := rfl

theorem increment_ofLru (cache : LruRetryCache) (key : String) :
    (ofLru cache).increment key = ofLru (cache.increment key) := by
  refine RetryCounts.ext ?_
  show (ofLru cache).incremented key = cache.incrementEntries key
  rw [incremented_eq, LruRetryCache.incrementEntries_eq]
  rfl

end RetryCounts

end OpenLangGraph

import Mathlib.Order.Nat
import OpenLangGraph.Foundation.PyDict

/-!
# Values that expire

What a Redis server keeps under a key: a value, and the time at which it expires, if there is one. A
command sees a key whose value has expired as one that is not there.

## Main definitions

* `Redis.Entry`, `Redis.live`
* `Redis.incr`, `Redis.incrby`, `Redis.expire` — commands on one key
* `Redis.SortedSet`, `Redis.zremrangebyscore`, `Redis.zcard`, `Redis.zadd` — a sorted set
* `Redis.Undisturbed` — nothing comes into a set, and nothing leaves it but by expiry
* `Redis.Db`, `Redis.find`, `Redis.store`, `Redis.put` — many keys

## Main results

* `live_cases` — a value that is not there, one that is live, and one that has expired
* `incr_of_live`, `incr_of_not_live` — what is counted
* `incrby_of_live`, `incrby_of_not_live` — the same for `INCRBY`
* `members_zremrangebyscore` — what is in a set afterwards
* `undisturbed_zremrangebyscore`, `undisturbed_zadd_iff`, `undisturbed_expire_iff` — which commands
  disturb a set
-/

namespace Redis

variable {α : Type*}

structure Entry (α : Type*) where
  value : α
  expiresAt : Option ℕ
deriving DecidableEq

/-- What a command sees. -/
def live (now : ℕ) (e : Option (Entry α)) : Option (Entry α) :=
  e.filter fun e => e.expiresAt.all (now < ·)

/-- `INCR`: a key that is not there counts from 0, and does not expire. -/
def incr (now : ℕ) (e : Option (Entry ℕ)) : Entry ℕ :=
  match live now e with
  | some e => ⟨e.value + 1, e.expiresAt⟩
  | none => ⟨1, none⟩

/-- `INCRBY`, which fails where the sum does not fit into 64 bits. -/
def incrby (now amount : ℕ) (e : Option (Entry ℕ)) : Option (Entry ℕ) :=
  let sum := match live now e with
    | some e => ⟨e.value + amount, e.expiresAt⟩
    | none => ⟨amount, none⟩
  if sum.value ≤ 9223372036854775807 then some sum else none

/-- `EXPIRE` -/
def expire (now ttl : ℕ) (e : Option (Entry α)) : Option (Entry α) :=
  (live now e).map fun e => ⟨e.value, some (now + ttl)⟩

variable {now ttl : ℕ} {e : Entry α}

theorem live_none (now : ℕ) : live now (none : Option (Entry α)) = none := rfl

theorem eq_of_live {e : Option (Entry α)} {r : Entry α} (h : live now e = some r) : e = some r :=
  (Option.filter_eq_some_iff.mp h).1

theorem live_of_forall (h : ∀ x ∈ e.expiresAt, now < x) : live now (some e) = some e := by
  refine Option.filter_eq_some_iff.mpr ⟨rfl, ?_⟩
  rw [Option.all_eq_true]
  exact fun x hx => decide_eq_true (h x hx)

/-- A value is live, or it has expired. -/
theorem live_cases (now : ℕ) (e : Entry α) :
    live now (some e) = some e ∨
      live now (some e) = none ∧ ∃ x, e.expiresAt = some x ∧ x ≤ now := by
  cases hx : e.expiresAt with
  | none => exact .inl (live_of_forall (by simp [hx]))
  | some x =>
    rcases Nat.lt_or_ge now x with hlt | hle
    · exact .inl (live_of_forall (by simp [hx, hlt]))
    · refine .inr ⟨?_, x, rfl, hle⟩
      rw [live, Option.filter_some, hx]
      simp [hle]

theorem incr_of_live {e : Option (Entry ℕ)} {r : Entry ℕ} (h : live now e = some r) :
    incr now e = ⟨r.value + 1, r.expiresAt⟩ := by
  rw [incr, h]

theorem incr_of_not_live {e : Option (Entry ℕ)} (h : live now e = none) :
    incr now e = ⟨1, none⟩ := by
  rw [incr, h]

theorem incrby_of_live {amount : ℕ} {e : Option (Entry ℕ)} {r sum : Entry ℕ}
    (h : live now e = some r) (hsum : incrby now amount e = some sum) :
    sum = ⟨r.value + amount, r.expiresAt⟩ := by
  rw [incrby, h] at hsum
  exact (Option.some.inj (Option.ite_none_right_eq_some.mp hsum).2).symm

theorem incrby_of_not_live {amount : ℕ} {e : Option (Entry ℕ)} {sum : Entry ℕ}
    (h : live now e = none) (hsum : incrby now amount e = some sum) : sum = ⟨amount, none⟩ := by
  rw [incrby, h] at hsum
  exact (Option.some.inj (Option.ite_none_right_eq_some.mp hsum).2).symm

theorem expire_of_forall (h : ∀ x ∈ e.expiresAt, now < x) :
    expire now ttl (some e) = some ⟨e.value, some (now + ttl)⟩ := by
  rw [expire, live_of_forall h]
  rfl

/-! ### Sorted sets -/

/-- The members with their scores. -/
abbrev SortedSet (μ : Type*) := List (μ × ℕ)

variable {μ : Type*}

/-- What a command sees of a set. -/
def members (now : ℕ) (e : Option (Entry (SortedSet μ))) : SortedSet μ :=
  match live now e with
  | some e => e.value
  | none => []

/-- `ZREMRANGEBYSCORE key -inf max`: a set without members is not kept. -/
def zremrangebyscore (now : ℕ) (max : ℤ) (e : Option (Entry (SortedSet μ))) :
    Option (Entry (SortedSet μ)) :=
  match live now e with
  | some e =>
    let kept := e.value.filter fun m => max < m.2
    if kept.isEmpty then none else some ⟨kept, e.expiresAt⟩
  | none => none

/-- `ZCARD` -/
def zcard (now : ℕ) (e : Option (Entry (SortedSet μ))) : ℕ := (members now e).length

/-- `ZADD`: a member that is there gets the new score. -/
def zadd [DecidableEq μ] (now : ℕ) (member : μ) (score : ℕ) (e : Option (Entry (SortedSet μ))) :
    Entry (SortedSet μ) :=
  match live now e with
  | some e => ⟨PyDict.set e.value member score, e.expiresAt⟩
  | none => ⟨[(member, score)], none⟩

theorem members_of_live {e : Option (Entry (SortedSet μ))} {r : Entry (SortedSet μ)}
    (h : live now e = some r) : members now e = r.value := by
  rw [members, h]

theorem members_of_not_live {e : Option (Entry (SortedSet μ))} (h : live now e = none) :
    members now e = [] := by
  rw [members, h]

theorem lt_of_live {e : Option (Entry α)} {r : Entry α} (h : live now e = some r) :
    ∀ x ∈ r.expiresAt, now < x := by
  obtain ⟨-, hall⟩ := Option.filter_eq_some_iff.mp h
  rw [Option.all_eq_true] at hall
  exact fun x hx => of_decide_eq_true (hall x hx)

/-- The members with a higher score stay, for as long as the set would have been kept. -/
theorem members_zremrangebyscore (now : ℕ) (max : ℤ) (e : Option (Entry (SortedSet μ))) :
    members now (zremrangebyscore now max e) = (members now e).filter fun m => max < m.2 := by
  rw [zremrangebyscore]
  cases hlive : live now e with
  | none => rw [members_of_not_live hlive, members, live_none, List.filter_nil]
  | some r =>
    rw [members_of_live hlive]
    dsimp only
    split
    · rename_i hempty
      rw [List.isEmpty_iff.mp hempty]
      rfl
    · have hexpires := lt_of_live hlive
      have hkept : live now (some ⟨r.value.filter fun m => max < m.2, r.expiresAt⟩) =
          some ⟨r.value.filter fun m => max < m.2, r.expiresAt⟩ := live_of_forall hexpires
      exact members_of_live hkept

theorem live_some (now : ℕ) (e : Entry α) :
    live now (some e) = if e.expiresAt.all (now < ·) = true then some e else none :=
  Option.filter_some

theorem zremrangebyscore_of_not_live {e : Option (Entry (SortedSet μ))} {max : ℤ}
    (h : live now e = none) : zremrangebyscore now max e = none := by
  rw [zremrangebyscore, h]

theorem zremrangebyscore_of_live {e : Option (Entry (SortedSet μ))} {r : Entry (SortedSet μ)}
    {max : ℤ} (h : live now e = some r) :
    zremrangebyscore now max e =
      if (r.value.filter fun m => max < m.2).isEmpty then none
      else some ⟨r.value.filter fun m => max < m.2, r.expiresAt⟩ := by
  rw [zremrangebyscore, h]

/-- **A removal after another** that removes less does the same alone. -/
theorem zremrangebyscore_zremrangebyscore {now now' : ℕ} {max max' : ℤ} (hnow : now ≤ now')
    (hmax : max ≤ max') (e : Option (Entry (SortedSet μ))) :
    zremrangebyscore now' max' (zremrangebyscore now max e) = zremrangebyscore now' max' e := by
  have hnone : zremrangebyscore now' max' (none : Option (Entry (SortedSet μ))) = none := rfl
  cases e with
  | none => rfl
  | some r =>
    have hfilter : ((r.value.filter fun m => decide (max < m.2)).filter
        fun m => decide (max' < m.2)) = r.value.filter fun m => decide (max' < m.2) := by
      rw [List.filter_filter]
      refine List.filter_congr fun m _ => ?_
      by_cases h : max' < m.2
      · rw [decide_eq_true h, decide_eq_true (Int.lt_of_le_of_lt hmax h), Bool.and_self]
      · rw [decide_eq_false h, Bool.false_and]
    by_cases hlater : r.expiresAt.all (now' < ·) = true
    · have hlive : live now (some r) = some r := live_of_forall fun x hx =>
        Nat.lt_of_le_of_lt hnow (of_decide_eq_true ((Option.all_eq_true _ _).mp hlater x hx))
      have hlive' : live now' (some r) = some r := by rw [live_some, if_pos hlater]
      rw [zremrangebyscore_of_live hlive, zremrangebyscore_of_live hlive']
      split
      · next hempty =>
        rw [← hfilter, List.isEmpty_iff.mp hempty]
        rfl
      · have hkept : live now' (some ⟨r.value.filter fun m => decide (max < m.2), r.expiresAt⟩) =
            some ⟨r.value.filter fun m => decide (max < m.2), r.expiresAt⟩ := by
          rw [live_some, if_pos hlater]
        rw [zremrangebyscore_of_live hkept, hfilter]
    · have hdead : ∀ value : SortedSet μ, live now' (some ⟨value, r.expiresAt⟩) = none :=
        fun value => by rw [live_some, if_neg hlater]
      rw [zremrangebyscore_of_not_live (e := some r) (hdead r.value)]
      cases hlive : live now (some r) with
      | none => rw [zremrangebyscore_of_not_live hlive, hnone]
      | some r' =>
        obtain rfl := Option.some.inj (eq_of_live hlive)
        rw [zremrangebyscore_of_live hlive]
        split
        · exact hnone
        · exact zremrangebyscore_of_not_live (hdead _)

/-- A set that keeps a member is kept. -/
theorem zremrangebyscore_of_mem {e : Option (Entry (SortedSet μ))} {r : Entry (SortedSet μ)}
    {m : μ × ℕ} {max : ℤ} (h : live now e = some r) (hmem : m ∈ r.value) (hmax : max < m.2) :
    ∃ kept, zremrangebyscore now max e = some ⟨kept, r.expiresAt⟩ ∧ m ∈ kept := by
  have hkept : m ∈ r.value.filter fun m => max < m.2 :=
    List.mem_filter.mpr ⟨hmem, decide_eq_true hmax⟩
  refine ⟨_, ?_, hkept⟩
  rw [zremrangebyscore, h]
  dsimp only
  rw [if_neg]
  intro hempty
  rw [List.isEmpty_iff.mp hempty] at hkept
  cases hkept

section

variable [DecidableEq μ]

theorem mem_zadd_self (now : ℕ) (member : μ) (score : ℕ) (e : Option (Entry (SortedSet μ))) :
    (member, score) ∈ (zadd now member score e).value := by
  rw [zadd]
  split
  · exact PyDict.mem_set_self _ _ _
  · exact List.mem_singleton_self _

theorem mem_zadd_of_ne {e : Option (Entry (SortedSet μ))} {r : Entry (SortedSet μ)} {m : μ × ℕ}
    {member : μ} (h : live now e = some r) (hmem : m ∈ r.value) (hne : m.1 ≠ member) (score : ℕ) :
    m ∈ (zadd now member score e).value := by
  rw [zadd, h]
  exact PyDict.mem_set_of_ne hmem hne score

/-- What has been added is live. -/
theorem expire_zadd (now ttl : ℕ) (member : μ) (score : ℕ) (e : Option (Entry (SortedSet μ))) :
    expire now ttl (some (zadd now member score e)) =
      some ⟨(zadd now member score e).value, some (now + ttl)⟩ := by
  refine expire_of_forall fun x hx => ?_
  rw [zadd] at hx
  split at hx
  · rename_i hlive
    exact lt_of_live hlive x hx
  · cases hx

end

/-! ### Sets that are left as they were -/

section

variable {s t finish : ℕ} {set set' : Option (Entry (SortedSet μ))}

/-- It is kept, and it is not seen any more. -/
def HasExpired (now : ℕ) (e : Option (Entry α)) : Prop := e.isSome ∧ live now e = none

/-- From a start to a finish nothing that `p` holds of comes into a set, and nothing leaves it,
unless the set expires. -/
structure Undisturbed (p : μ × ℕ → Prop) (start finish : ℕ)
    (set set' : Option (Entry (SortedSet μ))) : Prop where
  new : ∀ m ∈ members finish set', p m → m ∈ members start set
  kept : ∀ m ∈ members start set, p m →
    m ∈ members finish set' ∨ HasExpired finish set ∨ HasExpired finish set'

theorem live_of_le {e : Option (Entry α)} {r : Entry α} (hle : s ≤ t) (h : live t e = some r) :
    live s e = some r := by
  obtain rfl := eq_of_live h
  exact live_of_forall fun x hx => Nat.lt_of_le_of_lt hle (lt_of_live h x hx)

theorem exists_of_mem_members {m : μ × ℕ} (h : m ∈ members t set) :
    ∃ r, set = some r ∧ live t set = some r ∧ m ∈ r.value := by
  cases hlive : live t set with
  | none =>
    rw [members_of_not_live hlive] at h
    cases h
  | some r =>
    rw [members_of_live hlive] at h
    exact ⟨r, eq_of_live hlive, rfl, h⟩

theorem members_of_le (hle : s ≤ t) {m : μ × ℕ} (h : m ∈ members t set) : m ∈ members s set := by
  obtain ⟨r, -, hlive, hmem⟩ := exists_of_mem_members h
  rwa [members_of_live (live_of_le hle hlive)]

/-- A value that is there at one time is there later, or it has expired. -/
theorem live_or_hasExpired {r : Entry α} (finish : ℕ) :
    live finish (some r) = some r ∨ HasExpired finish (some r) :=
  (live_cases finish r).imp_right fun h => ⟨rfl, h.1⟩

theorem HasExpired.of_le {e : Option (Entry α)} (hle : s ≤ t) (h : HasExpired s e) :
    HasExpired t e := by
  refine ⟨h.1, ?_⟩
  cases hlive : live t e with
  | none => rfl
  | some r => exact absurd (h.2.symm.trans (live_of_le hle hlive)) (by simp)

theorem undisturbed_refl (p : μ × ℕ → Prop) (hle : s ≤ finish) :
    Undisturbed p s finish set set := by
  refine ⟨fun m hm _ => members_of_le hle hm, fun m hm _ => ?_⟩
  obtain ⟨r, rfl, -, hmem⟩ := exists_of_mem_members hm
  rcases live_or_hasExpired (r := r) finish with hlive | hexpired
  · exact .inl (by rwa [members_of_live hlive])
  · exact .inr (.inl hexpired)

/-- There are never more members later, but for those that are added. -/
theorem zcard_zremrangebyscore_le {now : ℕ} {max : ℤ} (hnow : s ≤ now) :
    zcard t (zremrangebyscore now max set) ≤ zcard s set := by
  rw [zcard, zcard]
  cases hlive : live t (zremrangebyscore now max set) with
  | none =>
    rw [members_of_not_live hlive]
    exact Nat.zero_le _
  | some r =>
    rw [members_of_live hlive]
    have hkept := eq_of_live hlive
    rw [zremrangebyscore] at hkept
    cases hbefore : live now set with
    | none =>
      rw [hbefore] at hkept
      cases hkept
    | some r' =>
      rw [hbefore] at hkept
      dsimp only at hkept
      split at hkept
      · cases hkept
      · obtain rfl := eq_of_live hbefore
        rw [← Option.some.inj hkept, members_of_live (live_of_le hnow hbefore)]
        exact List.length_filter_le _ _

/-- What is left by a removal was there before. -/
theorem mem_of_zremrangebyscore {now : ℕ} {max : ℤ} {r : Entry (SortedSet μ)} {m : μ × ℕ}
    (h : zremrangebyscore now max set = some r) (hm : m ∈ r.value) : m ∈ members now set := by
  rw [zremrangebyscore] at h
  cases hlive : live now set with
  | none =>
    rw [hlive] at h
    cases h
  | some r' =>
    rw [hlive] at h
    dsimp only at h
    split at h
    · cases h
    · rw [← Option.some.inj h] at hm
      rw [members_of_live hlive]
      exact (List.mem_filter.mp hm).1

theorem mem_of_mem_zremrangebyscore {now : ℕ} {max : ℤ} {m : μ × ℕ}
    (h : m ∈ members t (zremrangebyscore now max set)) : m ∈ members now set := by
  obtain ⟨r, hset, -, hmem⟩ := exists_of_mem_members h
  exact mem_of_zremrangebyscore hset hmem

/-- What a removal leaves in a set, until the set expires. -/
theorem kept_zremrangebyscore {now : ℕ} {max : ℤ} {m : μ × ℕ}
    (hm : m ∈ members s set) (hmax : max < m.2) (ht : now ≤ t) :
    m ∈ members t (zremrangebyscore now max set) ∨ HasExpired t set := by
  obtain ⟨r, rfl, -, hmem⟩ := exists_of_mem_members hm
  rcases live_or_hasExpired (r := r) now with hlive | hexpired
  · obtain ⟨kept, hkept, hmem⟩ := zremrangebyscore_of_mem hlive hmem hmax
    rw [hkept]
    rcases live_or_hasExpired (r := r) t with hlive | hexpired
    · refine .inl ?_
      have hlt : ∀ x ∈ r.expiresAt, t < x := lt_of_live hlive
      have hlive' : live t (some ⟨kept, r.expiresAt⟩) = some ⟨kept, r.expiresAt⟩ :=
        live_of_forall hlt
      rwa [members_of_live hlive']
    · exact .inr hexpired
  · exact .inr (hexpired.of_le ht)

/-- **A removal** of what `p` does not hold of. -/
theorem undisturbed_zremrangebyscore {p : μ × ℕ → Prop} {now : ℕ} {max : ℤ}
    (hp : ∀ m, p m → max < m.2) (hs : s ≤ now) (hfinish : now ≤ finish) :
    Undisturbed p s finish set (zremrangebyscore now max set) where
  new _ hm _ := members_of_le hs (mem_of_mem_zremrangebyscore hm)
  kept m hm hpm := (kept_zremrangebyscore hm (hp m hpm) hfinish).imp_right .inl

section

variable [DecidableEq μ] {member : μ} {score now₁ now₂ now₃ ttl : ℕ} {max : ℤ} {p : μ × ℕ → Prop}

theorem mem_of_mem_zadd {m : μ × ℕ} (h : m ∈ (zadd t member score set).value) :
    m = (member, score) ∨ m ∈ members t set := by
  rw [zadd] at h
  split at h
  · rename_i r hlive
    exact (PyDict.mem_of_mem_set h).imp_right fun hmem => by rwa [members_of_live hlive]
  · exact .inl (List.mem_singleton.mp h)

/-- What is in a set before a member is added to it is in it afterwards, if the member has one score
only. -/
theorem mem_zadd_of_mem {m : μ × ℕ} (h : m ∈ members t set) (hm : m.1 = member → m.2 = score) :
    m ∈ (zadd t member score set).value := by
  obtain ⟨r, -, hlive, hmem⟩ := exists_of_mem_members h
  by_cases hmember : m.1 = member
  · rw [show m = (member, score) from Prod.ext hmember (hm hmember)]
    exact mem_zadd_self _ _ _ _
  · exact mem_zadd_of_ne hlive hmem hmember score

/-- A set that is there has no time to live, or a later one. -/
def lasts (now stop : ℕ) (e : Option (Entry α)) : Bool :=
  (live now e).all fun r => r.expiresAt.all (stop < ·)

theorem lasts_self (now : ℕ) (e : Option (Entry α)) : lasts now now e = true := by
  rw [lasts]
  cases hlive : live now e with
  | none => rfl
  | some r =>
    rw [Option.all_some, Option.all_eq_true]
    exact fun x hx => decide_eq_true (lt_of_live hlive x hx)

theorem live_zadd_ne_none_iff (t : ℕ) (member : μ) (score : ℕ) :
    live finish (some (zadd t member score set)) ≠ none ↔ lasts t finish set = true := by
  rw [Ne, ← Option.not_isSome_iff_eq_none, not_not, live, Option.filter_some, zadd, lasts]
  cases live t set with
  | none => simp
  | some r =>
    cases h : r.expiresAt.all (finish < ·)
    · simp [h]
    · simp [h]

/-- If a set that has been added to expires, it had a time to live before. -/
theorem hasExpired_of_zadd {t : ℕ} (h₂ : now₂ ≤ t)
    (h : live t (some (zadd now₂ member score (zremrangebyscore now₁ max set))) = none) :
    HasExpired t set := by
  have hlasts : ¬ lasts now₂ t (zremrangebyscore now₁ max set) = true := fun hlasts =>
    (live_zadd_ne_none_iff now₂ member score).mpr hlasts h
  rw [lasts, zremrangebyscore] at hlasts
  cases hlive : live now₁ set with
  | none => simp [hlive, live_none] at hlasts
  | some r =>
    obtain rfl := eq_of_live hlive
    refine (live_or_hasExpired (r := r) t).resolve_left fun hlater => hlasts ?_
    have hlt : ∀ x ∈ r.expiresAt, t < x := lt_of_live hlater
    rw [hlive]
    dsimp only
    split
    · rfl
    · rw [live_of_forall, Option.all_some, Option.all_eq_true]
      · exact fun x hx => decide_eq_true (hlt x hx)
      · exact fun x hx => Nat.lt_of_le_of_lt h₂ (hlt x hx)

/-- A removal, and then an addition: the set is disturbed if the new member is seen at the end. Here
`set'` is what is left, with any time to live. -/
theorem undisturbed_added_iff (hp : ∀ m, p m → max < m.2) (hs : s ≤ now₁) (h₁₂ : now₁ ≤ now₂)
    (h₂ : now₂ ≤ finish) (hmember : ∀ m ∈ members s set, m.1 = member → m.2 = score)
    (hvalue : ∀ r, set' = some r →
      r.value = (zadd now₂ member score (zremrangebyscore now₁ max set)).value)
    (hnone : set' = none → HasExpired finish set) :
    Undisturbed p s finish set set' ↔
      ¬ (p (member, score) ∧ (member, score) ∉ members s set ∧ live finish set' ≠ none) := by
  constructor
  · rintro hset ⟨hpm, hnew, hseen⟩
    obtain ⟨r, hlive⟩ := Option.ne_none_iff_exists'.mp hseen
    refine hnew (hset.new _ ?_ hpm)
    rw [members_of_live hlive, hvalue r (eq_of_live hlive)]
    exact mem_zadd_self _ _ _ _
  · intro hnot
    refine ⟨fun m hm hpm => ?_, fun m hm hpm => ?_⟩
    · obtain ⟨r, hset', hlive, hmem⟩ := exists_of_mem_members hm
      rw [hvalue r hset'] at hmem
      rcases mem_of_mem_zadd hmem with rfl | hold
      · by_contra hnew
        exact hnot ⟨hpm, hnew, by simp [hlive]⟩
      · exact members_of_le hs (mem_of_mem_zremrangebyscore hold)
    · rcases kept_zremrangebyscore hm (hp m hpm) h₁₂ with hkept | hexpired
      · cases hset' : set' with
        | none => exact .inr (.inl (hnone hset'))
        | some r =>
          rcases live_or_hasExpired (r := r) finish with hlive | hexpired
          · refine .inl ?_
            rw [members_of_live hlive, hvalue r hset']
            exact mem_zadd_of_mem hkept (hmember m hm)
          · exact .inr (.inr hexpired)
      · exact .inr (.inl (hexpired.of_le h₂))

/-- **An addition** after a removal. -/
theorem undisturbed_zadd_iff (hp : ∀ m, p m → max < m.2) (hs : s ≤ now₁) (h₁₂ : now₁ ≤ now₂)
    (h₂ : now₂ ≤ finish) (hmember : ∀ m ∈ members s set, m.1 = member → m.2 = score) :
    Undisturbed p s finish set (some (zadd now₂ member score (zremrangebyscore now₁ max set))) ↔
      ¬ (p (member, score) ∧ (member, score) ∉ members s set ∧
        lasts now₂ finish (zremrangebyscore now₁ max set) = true) := by
  rw [undisturbed_added_iff hp hs h₁₂ h₂ hmember (fun r hr => by rw [← Option.some.inj hr])
    (fun h => by cases h), live_zadd_ne_none_iff]

/-- **A new time to live** for a set that has been added to. -/
theorem undisturbed_expire_iff (hp : ∀ m, p m → max < m.2) (hs : s ≤ now₁) (h₁₂ : now₁ ≤ now₂)
    (h₂₃ : now₂ ≤ now₃) (h₃ : now₃ ≤ finish)
    (hmember : ∀ m ∈ members s set, m.1 = member → m.2 = score) :
    Undisturbed p s finish set
        (expire now₃ ttl (some (zadd now₂ member score (zremrangebyscore now₁ max set)))) ↔
      ¬ (p (member, score) ∧ (member, score) ∉ members s set ∧
        lasts now₂ now₃ (zremrangebyscore now₁ max set) = true ∧ finish < now₃ + ttl) := by
  have hlasts : live now₃ (some (zadd now₂ member score (zremrangebyscore now₁ max set))) ≠ none ↔
      lasts now₂ now₃ (zremrangebyscore now₁ max set) = true :=
    live_zadd_ne_none_iff now₂ member score
  rw [undisturbed_added_iff hp hs h₁₂ (h₂₃.trans h₃) hmember]
  · rw [← hlasts, expire]
    cases hlive : live now₃ (some (zadd now₂ member score (zremrangebyscore now₁ max set))) with
    | none => simp [live_none]
    | some r => by_cases hlt : finish < now₃ + ttl <;> simp [live, hlt]
  · intro r hr
    obtain ⟨r', hlive, rfl⟩ := Option.map_eq_some_iff.mp hr
    rw [← Option.some.inj (eq_of_live hlive)]
  · intro hnone
    exact (hasExpired_of_zadd h₂₃ (Option.map_eq_none_iff.mp hnone)).of_le h₃

end

end

/-! ### Many keys -/

/-- What is kept under the keys. -/
abbrev Db (κ α : Type*) := List (κ × Entry α)

variable {κ : Type*} [DecidableEq κ]

def find (db : Db κ α) (k : κ) : Option (Entry α) := db.lookup k

def store (db : Db κ α) (k : κ) (e : Entry α) : Db κ α := PyDict.set db k e

theorem find_store (db : Db κ α) (k k' : κ) (e : Entry α) :
    find (store db k e) k' = if k' = k then some e else find db k' :=
  PyDict.lookup_set db k k' e

/-- What a command has left under a key. -/
def put (db : Db κ α) (k : κ) : Option (Entry α) → Db κ α
  | some e => store db k e
  | none => PyDict.delete db k

theorem find_delete (db : Db κ α) (k k' : κ) :
    find (PyDict.delete db k) k' = if k' = k then none else find db k' :=
  PyDict.lookup_delete db k k'

theorem find_put (db : Db κ α) (k k' : κ) (e : Option (Entry α)) :
    find (put db k e) k' = if k' = k then e else find db k' := by
  cases e with
  | none => exact find_delete db k k'
  | some e => exact find_store db k k' e

end Redis

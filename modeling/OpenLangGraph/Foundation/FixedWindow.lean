import Mathlib.Data.Int.Init
import Mathlib.Data.List.Basic
import Mathlib.Order.Nat

/-!
# Limits for fixed windows

A limiter with fixed windows answers the requests of many keys. An answer opens a window of its
key, or belongs to the one that is open.

## What a window grants

The windows of a key must not come too fast, and an answer that allows a request must leave no more
than so many allowed in its window. `Fits` says so of one answer, and `Lawful` of all. Then an
interval that is no longer than a window meets at most two of them: `allowedIn_le` is the bound that
holds for every position of the interval, and it is twice that of a window.

## Main definitions

* `Answer`, `Account`, `record`, `account`
* `Fits`, `Lawful`

## Main results

* `Lawful.mono` — a larger bound
* `allowedIn_le` — how many are allowed in an interval
-/

namespace FixedWindow

variable {κ : Type*}

/-- What becomes of a request. -/
structure Answer (κ : Type*) where
  key : κ
  now : ℕ
  limit : ℤ
  window : ℕ
  opens : Bool
  allowed : Bool

/-- When the window of a key was opened, and how many requests have been allowed in it. -/
structure Account where
  start : ℕ
  allowed : ℕ
deriving DecidableEq

/-- The account after an answer. The first answer opens a window in any case. -/
def record (account : Option Account) (a : Answer κ) : Account :=
  match account with
  | none => ⟨a.now, a.allowed.toNat⟩
  | some c =>
    if a.opens then ⟨a.now, a.allowed.toNat⟩ else ⟨c.start, c.allowed + a.allowed.toNat⟩

variable {a : Answer κ} {c : Account}

theorem record_none (a : Answer κ) : record none a = ⟨a.now, a.allowed.toNat⟩ := rfl

theorem record_of_opens (before : Option Account) (h : a.opens = true) :
    record before a = ⟨a.now, a.allowed.toNat⟩ := by
  cases before with
  | none => rfl
  | some c => exact if_pos h

theorem record_of_not_opens (c : Account) (h : a.opens = false) :
    record (some c) a = ⟨c.start, c.allowed + a.allowed.toNat⟩ := by
  rw [record, h]
  rfl

variable [DecidableEq κ]

/-- The account of a key. The answers are listed from the last to the first. -/
def account (key : κ) : List (Answer κ) → Option Account
  | [] => none
  | a :: log => if a.key = key then some (record (account key log) a) else account key log

/-- An answer fits the account of its key: a window is not opened too early, and at most `bound`
requests are allowed in it. -/
structure Fits (bound : ℤ) (before : Option Account) (a : Answer κ) : Prop where
  apart : a.opens = true → ∀ c ∈ before, c.start + a.window ≤ a.now
  within : a.allowed = true → ((record before a).allowed : ℤ) ≤ bound

/-- All answers fit. -/
def Lawful (bound : Answer κ → ℤ) : List (Answer κ) → Prop
  | [] => True
  | a :: log => Fits (bound a) (account a.key log) a ∧ Lawful bound log

variable {log : List (Answer κ)} {key : κ} {bound bound' : Answer κ → ℤ}

theorem account_cons_self (a : Answer κ) (log : List (Answer κ)) :
    account a.key (a :: log) = some (record (account a.key log) a) := if_pos rfl

theorem account_cons_ne (h : a.key ≠ key) : account key (a :: log) = account key log := if_neg h

/-- **A larger bound** is met as well. -/
theorem Lawful.mono (hbound : ∀ a ∈ log, a.allowed = true → bound a ≤ bound' a)
    (h : Lawful bound log) : Lawful bound' log := by
  induction log with
  | nil => trivial
  | cons a log ih =>
    refine ⟨⟨h.1.apart, fun hallowed => ?_⟩, ih (fun b hb => ?_) h.2⟩
    · exact Int.le_trans (h.1.within hallowed) (hbound a List.mem_cons_self hallowed)
    · exact hbound b (List.mem_cons_of_mem _ hb)

/-! ### Intervals -/

/-- How many requests of a key are allowed from `x` on and before `x + length`. -/
def allowedIn (key : κ) (x length : ℕ) (log : List (Answer κ)) : ℕ :=
  log.countP fun a => a.key = key && a.allowed && x ≤ a.now && a.now < x + length

theorem allowedIn_cons (x length : ℕ) :
    allowedIn key x length (a :: log) = allowedIn key x length log +
      if a.key = key && a.allowed && x ≤ a.now && a.now < x + length then 1 else 0 :=
  List.countP_cons

theorem allowedIn_of_lt {x length : ℕ} (h : ∀ a ∈ log, a.now < x) :
    allowedIn key x length log = 0 := by
  refine List.countP_eq_zero.mpr fun a ha hin => ?_
  have hlt := h a ha
  simp only [Bool.and_eq_true, decide_eq_true_eq] at hin
  omega

/-- The answers, from the last to the first, were given one after the other. -/
def Ordered (log : List (Answer κ)) : Prop := log.Pairwise fun a b => b.now ≤ a.now

theorem exists_start (h : account key log = some c) : ∃ a ∈ log, a.now = c.start := by
  induction log generalizing c with
  | nil => cases h
  | cons a log ih =>
    by_cases hkey : a.key = key
    · rw [account, if_pos hkey] at h
      obtain rfl := Option.some.inj h
      cases hbefore : account key log with
      | none => exact ⟨a, List.mem_cons_self, rfl⟩
      | some c =>
        cases hopens : a.opens with
        | true =>
          rw [record_of_opens _ hopens]
          exact ⟨a, List.mem_cons_self, rfl⟩
        | false =>
          obtain ⟨b, hb, hstart⟩ := ih hbefore
          rw [record_of_not_opens c hopens]
          exact ⟨b, List.mem_cons_of_mem _ hb, hstart⟩
    · rw [account_cons_ne hkey] at h
      obtain ⟨b, hb, hstart⟩ := ih h
      exact ⟨b, List.mem_cons_of_mem _ hb, hstart⟩

/-- How many have been allowed in the interval, by where the window of the key was opened: before
the interval, before its end, or later. -/
structure Tally (limit x length : ℕ) (account : Option Account) (n : ℕ) : Prop where
  none : account = none → n = 0
  within : ∀ c ∈ account, c.allowed ≤ limit
  before : ∀ c ∈ account, c.start < x → n ≤ c.allowed
  inside : ∀ c ∈ account, c.start < x + length → n ≤ c.allowed + limit
  all : n ≤ limit + limit

/-- A tally for an account, field by field. -/
theorem tally_some {limit x length n start allowed : ℕ} (hwithin : allowed ≤ limit)
    (hbefore : start < x → n ≤ allowed) (hinside : start < x + length → n ≤ allowed + limit)
    (hall : n ≤ limit + limit) : Tally limit x length (some ⟨start, allowed⟩) n := by
  refine ⟨by simp, ?_, ?_, ?_, hall⟩
  · rintro _ ⟨⟩
    exact hwithin
  · rintro _ ⟨⟩
    exact hbefore
  · rintro _ ⟨⟩
    exact hinside

omit [DecidableEq κ] in
/-- An answer adds at most itself to the tally: `i` is 1 if it is allowed in the interval. -/
theorem Tally.record {limit x length n i : ℕ} {before : Option Account}
    (h : Tally limit x length before n) (hfits : Fits limit before a) (hlength : length ≤ a.window)
    (hi : i ≤ a.allowed.toNat) (hin : 0 < i → x ≤ a.now ∧ a.now < x + length)
    (hstart : ∀ c ∈ before, c.start ≤ a.now) (hlater : a.now < x → n = 0) :
    Tally limit x length (some (FixedWindow.record before a)) (n + i) := by
  have hone : a.allowed.toNat ≤ 1 := Bool.toNat_le _
  have hwithin : 0 < a.allowed.toNat → (FixedWindow.record before a).allowed ≤ limit := by
    intro hpos
    have hallowed : a.allowed = true := by
      rw [← Bool.toNat_eq_one]
      omega
    have hbound := hfits.within hallowed
    omega
  have hall := h.all
  cases before with
  | none =>
    have hn := h.none rfl
    rw [record_none] at hwithin ⊢
    dsimp only at hwithin
    refine tally_some ?_ ?_ ?_ ?_ <;> omega
  | some c =>
    have hold := h.within c rfl
    have hbefore := h.before c rfl
    have hinside := h.inside c rfl
    have hstart := hstart c rfl
    cases hopens : a.opens with
    | true =>
      have hapart := hfits.apart hopens c rfl
      rw [record_of_opens _ hopens] at hwithin ⊢
      dsimp only at hwithin
      refine tally_some ?_ ?_ ?_ ?_ <;> omega
    | false =>
      rw [record_of_not_opens c hopens] at hwithin ⊢
      dsimp only at hwithin
      refine tally_some ?_ ?_ ?_ ?_ <;> omega

theorem Ordered.start_le (hordered : Ordered (a :: log)) :
    ∀ c ∈ account a.key log, c.start ≤ a.now := by
  intro c hc
  obtain ⟨b, hb, hstart⟩ := exists_start hc
  exact hstart ▸ (List.pairwise_cons.mp hordered).1 b hb

theorem tally (hordered : Ordered log) {limit x length : ℕ} (h : Lawful bound log)
    (hbound : ∀ a ∈ log, a.key = key → bound a ≤ limit ∧ length ≤ a.window) :
    Tally limit x length (account key log) (allowedIn key x length log) := by
  induction log with
  | nil =>
    refine ⟨fun _ => rfl, ?_, ?_, ?_, Nat.zero_le _⟩
    · rintro c ⟨⟩
    · rintro c ⟨⟩
    · rintro c ⟨⟩
  | cons a log ih =>
    have hlater := (List.pairwise_cons.mp hordered).1
    have ih := ih (List.pairwise_cons.mp hordered).2 h.2 fun b hb =>
      hbound b (List.mem_cons_of_mem _ hb)
    rw [allowedIn_cons]
    by_cases hkey : a.key = key
    · subst hkey
      obtain ⟨hlimit, hlength⟩ := hbound a List.mem_cons_self rfl
      have hfits : Fits limit (account a.key log) a :=
        ⟨h.1.apart, fun hallowed => Int.le_trans (h.1.within hallowed) hlimit⟩
      rw [account_cons_self]
      refine ih.record hfits hlength ?_ ?_ hordered.start_le ?_
      · cases a.allowed with
        | true => split <;> simp
        | false => simp
      · intro hpos
        split at hpos
        · rename_i hin
          simp only [Bool.and_eq_true, decide_eq_true_eq] at hin
          exact ⟨hin.1.2, hin.2⟩
        · exact absurd hpos (Nat.lt_irrefl 0)
      · intro hnow
        exact allowedIn_of_lt fun b hb => Nat.lt_of_le_of_lt (hlater b hb) hnow
    · rw [account_cons_ne hkey, decide_eq_false hkey]
      simpa using ih

/-- **How many are allowed in an interval** that is no longer than the windows: at most twice the
limit, wherever it begins. -/
theorem allowedIn_le (hordered : Ordered log) {limit : ℕ} (x length : ℕ) (h : Lawful bound log)
    (hbound : ∀ a ∈ log, a.key = key → bound a ≤ limit ∧ length ≤ a.window) :
    allowedIn key x length log ≤ limit + limit :=
  (tally hordered h hbound).all

end FixedWindow

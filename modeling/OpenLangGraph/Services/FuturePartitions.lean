import Mathlib.Data.List.Chain
import Mathlib.Data.List.Induction
import Mathlib.Data.List.Nodup
import OpenLangGraph.Services.PartitionService

/-!
# Partitions for the months ahead

`ensure_future_partitions` of `services/partition_service.py`, called again and again on one
database.

## One month after the other

A call creates what is missing from the current month to the one `months_ahead` months later. Every
partition there is that of a month, under the name of the month; so one that is missing can be
created, and no two of them overlap.

## Main definitions

* `Call`, `run`
* `Tiles` — partitions that lie next to each other
* `Monthly` — what is kept from call to call
* `TilesCalendar` — what is asked of a call

## Main results

* `tiles_months` — the partitions of consecutive months
* `ensureLoop_eq` — what a call creates
* `future_partitions_tile` — all calls
-/

namespace OpenLangGraph

namespace PartitionService

open Calendar PyString

/-! ### Partitions next to each other -/

/-- Partitions that lie next to each other, from a moment to another. -/
structure Tiles (ps : List Partition) (first last : ℕ) : Prop where
  disjoint : ps.Pairwise Partition.Disjoint
  contiguous : ps.IsChain fun p q => p.last = q.first
  covers : ∀ t, (∃ p ∈ ps, p.contains t) ↔ first ≤ t ∧ t < last

/-- The months from one on. -/
def months (k n : ℕ) : List ℕ := (List.range n).map (k + ·)

theorem mem_months {j k n : ℕ} : j ∈ months k n ↔ k ≤ j ∧ j < k + n := by
  rw [months, List.mem_map]
  constructor
  · rintro ⟨i, hi, rfl⟩
    have hlt := List.mem_range.mp hi
    omega
  · rintro ⟨hle, hlt⟩
    exact ⟨j - k, List.mem_range.mpr (by omega), by omega⟩

theorem months_succ (k n : ℕ) : months k (n + 1) = months k n ++ [k + n] := by
  rw [months, List.range_succ, List.map_append]
  rfl

/-- **Consecutive months** lie next to each other. -/
theorem tiles_months {k : ℕ} (hk : 12 ≤ k) (n : ℕ) :
    Tiles ((months k n).map monthPartition) (monthStart k) (monthStart (k + n)) := by
  induction n with
  | zero =>
    refine ⟨List.Pairwise.nil, List.IsChain.nil, fun t => iff_of_false ?_ ?_⟩
    · rintro ⟨p, hp, -⟩
      cases hp
    · rintro ⟨hle, hlt⟩
      rw [Nat.add_zero] at hlt
      omega
  | succ n ih =>
    have hin : 12 ≤ k + n := Nat.le_add_right_of_le hk
    rw [months_succ, List.map_append, List.map_singleton]
    refine ⟨?_, ?_, fun t => ?_⟩
    · rw [List.pairwise_append]
      refine ⟨ih.disjoint, List.pairwise_singleton _ _, fun p hp q hq => ?_⟩
      obtain ⟨j, hj, rfl⟩ := List.mem_map.mp hp
      obtain rfl := List.mem_singleton.mp hq
      have hbounds := mem_months.mp hj
      exact .inl (monthStart_le (by omega) (by omega))
    · rw [List.isChain_append]
      refine ⟨ih.contiguous, List.isChain_singleton _, fun p hp q hq => ?_⟩
      obtain rfl := Option.some.inj hq
      cases n with
      | zero => cases hp
      | succ n =>
        rw [months_succ, List.map_append, List.map_singleton, List.getLast?_concat] at hp
        obtain rfl := Option.some.inj hp
        rfl
    · have hnext := monthStart_lt_succ hin
      have hfirst := monthStart_le hk (Nat.le_add_right k n)
      constructor
      · rintro ⟨p, hp, hin⟩
        rcases List.mem_append.mp hp with hp | hp
        · have hold := (ih.covers t).mp ⟨p, hp, hin⟩
          exact ⟨hold.1, Nat.lt_trans hold.2 hnext⟩
        · obtain rfl := List.mem_singleton.mp hp
          exact ⟨Nat.le_trans hfirst hin.1, hin.2⟩
      · rintro ⟨hle, hlt⟩
        rcases Nat.lt_or_ge t (monthStart (k + n)) with hbefore | hafter
        · obtain ⟨p, hp, hin⟩ := (ih.covers t).mpr ⟨hle, hbefore⟩
          exact ⟨p, List.mem_append_left _ hp, hin⟩
        · exact ⟨_, List.mem_append_right _ (List.mem_singleton_self _), hafter, hlt⟩

/-! ### Calls -/

/-- A call of `ensure_future_partitions`. -/
structure Call where
  now : DateTime
  monthsAhead : ℕ

/-- The months of a call are those of the years 1000 to 9998. -/
def Call.InYears (call : Call) : Prop :=
  1000 ≤ call.now.year ∧ call.now.monthNumber + call.monthsAhead < 12 * 9999

/-- The months that a call is about. -/
def Call.window (call : Call) : List ℕ := months call.now.monthNumber (call.monthsAhead + 1)

/-- The partitions after some calls, from none on. -/
def run (U : UnicodeDb) (calls : List Call) : List Partition :=
  calls.foldl (fun ps call => (ensureFuturePartitions U call.now call.monthsAhead ps).2) []

/-- Every partition is that of a month, and no month has two. -/
structure Monthly (ps : List Partition) : Prop where
  months : ∀ p ∈ ps, ∃ k, 12000 ≤ k ∧ k < 12 * 9999 ∧ p = monthPartition k
  names : (ps.map Partition.name).Nodup

/-- The months without a partition. -/
def missing (ps : List Partition) (ks : List ℕ) : List ℕ :=
  ks.filter fun k => monthName k ∉ ps.map Partition.name

variable {U : UnicodeDb} {ps : List Partition} {k : ℕ} {now : DateTime}

/-- The name of a month stands for its partition. -/
theorem Monthly.mem_of_name (h : Monthly ps) (hk : 12000 ≤ k) (hk' : k < 12 * 9999)
    (hname : monthName k ∈ ps.map Partition.name) : monthPartition k ∈ ps := by
  obtain ⟨p, hp, hpname⟩ := List.mem_map.mp hname
  obtain ⟨j, hj, hj', rfl⟩ := h.months p hp
  obtain rfl : j = k := monthName_injective hj (by omega) hk (by omega) hpname
  exact hp

/-- **No two partitions overlap.** -/
theorem Monthly.disjoint (h : Monthly ps) : ps.Pairwise Partition.Disjoint := by
  refine (List.pairwise_map.mp h.names).imp_of_mem fun {p q} hp hq hne => ?_
  obtain ⟨j, hj, -, rfl⟩ := h.months p hp
  obtain ⟨k, hk, -, rfl⟩ := h.months q hq
  refine monthPartition_disjoint (by omega) (by omega) ?_
  rintro rfl
  exact hne rfl

theorem Monthly.append (h : Monthly ps) (hk : 12000 ≤ k) (hk' : k < 12 * 9999)
    (hname : monthName k ∉ ps.map Partition.name) : Monthly (ps ++ [monthPartition k]) where
  months p hp := by
    rcases List.mem_append.mp hp with hp | hp
    · exact h.months p hp
    · exact ⟨k, hk, hk', List.mem_singleton.mp hp⟩
  names := by
    rw [List.map_append, List.map_singleton, List.nodup_append]
    refine ⟨h.names, List.nodup_singleton _, fun name hmem other hother => ?_⟩
    rw [List.mem_singleton.mp hother]
    rintro rfl
    exact hname hmem

/-- **One month** is created if it is missing. -/
theorem createPartition_of_monthly (h : Monthly ps) (hk : 12000 ≤ now.monthNumber)
    (hk' : now.monthNumber < 12 * 9999) : createPartitionIfNotExists U now ps =
      if monthName now.monthNumber ∈ ps.map Partition.name then some (false, ps)
      else some (true, ps ++ [monthPartition now.monthNumber]) := by
  have hyear : 1000 ≤ now.year := by
    rw [← now.monthNumber_div]
    omega
  rw [createPartition_of_month U hyear (by omega)]
  split
  · rfl
  · rename_i hname
    refine if_pos fun q hq => ?_
    obtain ⟨j, hj, hj', rfl⟩ := h.months q hq
    refine monthPartition_disjoint (by omega) (by omega) ?_
    rintro rfl
    exact hname (List.mem_map_of_mem hq)

theorem missing_cons_of_mem {ks : List ℕ} (h : monthName k ∈ ps.map Partition.name) :
    missing ps (k :: ks) = missing ps ks :=
  List.filter_cons_of_neg fun hmissing => of_decide_eq_true hmissing h

theorem missing_cons_of_notMem {ks : List ℕ} (h : monthName k ∉ ps.map Partition.name) :
    missing ps (k :: ks) = k :: missing ps ks := List.filter_cons_of_pos (decide_eq_true h)

/-- A new partition is missing no more, and nothing else has changed. -/
theorem missing_append {ks : List ℕ} (hk : 12000 ≤ k) (hk' : k < 12 * 9999)
    (hks : ∀ j ∈ ks, 12000 ≤ j ∧ j < 12 * 9999 ∧ j ≠ k) :
    missing (ps ++ [monthPartition k]) ks = missing ps ks := by
  refine List.filter_congr fun j hj => ?_
  obtain ⟨hle, hlt, hne⟩ := hks j hj
  have hname : monthName j ≠ (monthPartition k).name := fun heq =>
    hne (monthName_injective hle (by omega) hk (by omega) heq)
  refine decide_eq_decide.mpr (not_congr ?_)
  rw [List.map_append, List.map_singleton, List.mem_append, List.mem_singleton,
    or_iff_left hname]

/-- **The loop** creates what is missing, in order. -/
theorem ensureLoop_eq {is : List ℕ} {created : List Str} (h : Monthly ps)
    (hk : 12000 ≤ now.monthNumber) (his : ∀ i ∈ is, now.monthNumber + i < 12 * 9999)
    (hnodup : is.Nodup) :
    Monthly (ensureLoop U now created ps is).2 ∧ ensureLoop U now created ps is =
      (some (created ++ (missing ps (is.map (now.monthNumber + ·))).map monthName),
        ps ++ (missing ps (is.map (now.monthNumber + ·))).map monthPartition) := by
  induction is generalizing ps created with
  | nil =>
    refine ⟨h, ?_⟩
    rw [ensureLoop]
    simp [missing]
  | cons i is ih =>
    have hi := his i List.mem_cons_self
    have hsome : (addMonths now i).isSome = true := addMonths_isSome_iff.mpr (by omega)
    obtain ⟨target, htarget⟩ := Option.isSome_iff_exists.mp hsome
    have hnumber : target.monthNumber = now.monthNumber + i := by
      have hadd := (monthNumber_addMonths htarget).1
      omega
    obtain ⟨hi', hrest⟩ := List.nodup_cons.mp hnodup
    have his' : ∀ j ∈ is, now.monthNumber + j < 12 * 9999 := fun j hj =>
      his j (List.mem_cons_of_mem _ hj)
    have hcreate := @createPartition_of_monthly U ps target h (by omega) (by omega)
    rw [hnumber] at hcreate
    rw [ensureLoop, htarget]
    dsimp only
    rw [hcreate]
    by_cases hname : monthName (now.monthNumber + i) ∈ ps.map Partition.name
    · rw [if_pos hname]
      dsimp only
      rw [if_neg Bool.false_ne_true, List.map_cons, missing_cons_of_mem hname]
      exact ih h his' hrest
    · have hnew : partitionName target.year target.month = monthName (now.monthNumber + i) := by
        rw [partitionName_eq_monthName, hnumber]
      have hmissing : missing (ps ++ [monthPartition (now.monthNumber + i)])
          (is.map (now.monthNumber + ·)) = missing ps (is.map (now.monthNumber + ·)) := by
        refine missing_append (by omega) hi fun j hj => ?_
        obtain ⟨i', hi'', rfl⟩ := List.mem_map.mp hj
        have hlt := his' i' hi''
        have hne : i' ≠ i := fun heq => hi' (heq ▸ hi'')
        omega
      obtain ⟨hmonthly, heq⟩ := @ih _ (created ++ [monthName (now.monthNumber + i)])
        (h.append (by omega) hi hname) his' hrest
      rw [if_neg hname]
      dsimp only
      rw [if_pos rfl, hnew]
      refine ⟨hmonthly, ?_⟩
      rw [heq, hmissing, List.map_cons, missing_cons_of_notMem hname, List.map_cons, List.map_cons,
        List.append_assoc, List.append_assoc]
      rfl

/-- What a call creates. -/
theorem ensureFuturePartitions_eq {call : Call} (h : Monthly ps) (hcall : call.InYears) :
    Monthly (ensureFuturePartitions U call.now call.monthsAhead ps).2 ∧
      ensureFuturePartitions U call.now call.monthsAhead ps =
        (some ((missing ps call.window).map monthName),
          ps ++ (missing ps call.window).map monthPartition) := by
  obtain ⟨hyear, hyears⟩ := hcall
  have hnumber : 12000 ≤ call.now.monthNumber := by
    rw [DateTime.monthNumber]
    omega
  exact ensureLoop_eq h hnumber (fun i hi => by
    have hlt := List.mem_range.mp hi
    omega) List.nodup_range

theorem monthly_run {calls : List Call} (hcalls : ∀ call ∈ calls, call.InYears) :
    Monthly (run U calls) := by
  induction calls using List.reverseRecOn with
  | nil =>
    refine ⟨fun p hp => ?_, List.nodup_nil⟩
    cases hp
  | append_singleton calls call ih =>
    have hbefore := ih fun c hc => hcalls c (List.mem_append_left _ hc)
    have hcall := hcalls call (List.mem_append_right _ (List.mem_singleton_self _))
    rw [run, List.foldl_concat]
    exact (ensureFuturePartitions_eq hbefore hcall).1

/-- After some calls, another one succeeds, and `new` is what it creates: the missing ones among the
partitions from the current month to the last one that it is about, and on a first call all of them.
These lie next to each other from the first moment to the last, and no partitions overlap. -/
structure TilesCalendar (U : UnicodeDb) (calls : List Call) (call : Call) (new : List Partition) :
    Prop where
  succeeds : ensureFuturePartitions U call.now call.monthsAhead (run U calls) =
    (some (new.map Partition.name), run U calls ++ new)
  first_call : calls = [] → new = call.window.map monthPartition
  complete : ∀ p ∈ call.window.map monthPartition, p ∈ run U calls ++ new
  no_other : ∀ p ∈ new, p ∈ call.window.map monthPartition
  tiles : Tiles (call.window.map monthPartition) call.now.firstOfMonth.instant
    (monthStart (call.now.monthNumber + call.monthsAhead + 1))
  disjoint : (run U calls ++ new).Pairwise Partition.Disjoint

/-- **Partitions tile the calendar**, whatever calls have been made before. -/
theorem future_partitions_tile (U : UnicodeDb) (calls : List Call) (call : Call)
    (hcalls : ∀ c ∈ calls, c.InYears) (hcall : call.InYears) :
    ∃ new, TilesCalendar U calls call new := by
  have hmonthly := @monthly_run U calls hcalls
  obtain ⟨hafter, heq⟩ := @ensureFuturePartitions_eq U _ call hmonthly hcall
  rw [heq] at hafter
  refine ⟨(missing (run U calls) call.window).map monthPartition, ?_, ?_, ?_, ?_, ?_,
    hafter.disjoint⟩
  · rw [heq, List.map_map]
    rfl
  · rintro rfl
    exact congrArg _ (List.filter_eq_self.mpr fun k _ => decide_eq_true List.not_mem_nil)
  · intro p hp
    obtain ⟨k, hk, rfl⟩ := List.mem_map.mp hp
    have hbounds := mem_months.mp hk
    have hyears := hcall
    rw [Call.InYears, DateTime.monthNumber] at hyears
    rw [DateTime.monthNumber] at hbounds
    by_cases hname : monthName k ∈ (run U calls).map Partition.name
    · exact List.mem_append_left _ (hmonthly.mem_of_name (by omega) (by omega) hname)
    · exact List.mem_append_right _
        (List.mem_map_of_mem (List.mem_filter.mpr ⟨hk, decide_eq_true hname⟩))
  · intro p hp
    obtain ⟨k, hk, rfl⟩ := List.mem_map.mp hp
    exact List.mem_map_of_mem (List.mem_filter.mp hk).1
  · rw [DateTime.instant_firstOfMonth]
    exact tiles_months call.now.twelve_le_monthNumber _

/-- The end of a November, three months ahead. -/
def november (year : ℕ) (h : 1 ≤ year ∧ year ≤ 9999) : Call where
  now := ⟨year, 11, 30, 23, 59, 59, 999999, h,
    ⟨Nat.le_of_ble_eq_true rfl, Nat.le_of_ble_eq_true rfl⟩,
    ⟨Nat.le_of_ble_eq_true rfl, Nat.le_refl 30⟩,
    ⟨Nat.lt_succ_self 23, Nat.lt_succ_self 59, Nat.lt_succ_self 59, Nat.lt_succ_self 999999⟩⟩
  monthsAhead := 3

theorem future_partitions_tile_november :
    ∃ new, TilesCalendar .ascii [november 2024 (by decide), november 2025 (by decide)]
      (november 2025 (by decide)) new :=
  future_partitions_tile _ _ _ (by simp [november, Call.InYears, DateTime.monthNumber])
    (by simp [november, Call.InYears, DateTime.monthNumber])

end PartitionService

end OpenLangGraph

import Mathlib.Data.List.Basic
import OpenLangGraph.Foundation.Calendar
import OpenLangGraph.Foundation.PyString

/-!
# The partitions of the audit log

`services/partition_service.py`: the partitions of `audit_logs`, one for a month, with their names
and their ranges.

## Names

A name has the year as it is and the month with two digits. The pattern of the names wants four
digits for the year, and takes every decimal digit of Unicode and a line break at the end, as `\\d`
and `$` of a regular expression do.

## Scope

The bounds of a range are read in UTC. No other table is called like a partition, and no statement
fails but for a name or a range that is taken.

## Main definitions

* `addMonths` — with the loops of `_add_months`
* `partitionName`, `parsePartitionDate`
* `Partition`, `createPartitionIfNotExists`, `ensureFuturePartitions`, `cleanupOldPartitions`
* `monthName`, `monthPartition` — the partition of a month

## Main results

* `monthNumber_addMonths`, `addMonths_isSome_iff` — months are added to the number of a month
* `parsePartitionDate_partitionName` — from the year 1000 on, names are read back
* `createPartition_of_month` — what is created
* `monthName_injective` — a month for a name
-/

namespace OpenLangGraph

open Calendar PyString

namespace PartitionService

/-! ### Adding months -/

/-- `while month > 12` -/
def rollForward (year month : ℤ) : ℤ × ℤ :=
  if 12 < month then rollForward (year + 1) (month - 12) else (year, month)
termination_by month.toNat

/-- `while month < 1` -/
def rollBack (year month : ℤ) : ℤ × ℤ :=
  if month < 1 then rollBack (year - 1) (month + 12) else (year, month)
termination_by (1 - month).toNat

/-- `_add_months`; `none` is the `ValueError` of `replace`. -/
def addMonths (dt : DateTime) (months : ℤ) : Option DateTime :=
  let (year, month) := rollForward dt.year (dt.month + months)
  let (year, month) := rollBack year month
  let maxDay := monthDays year.toNat month.toNat
  dt.replace year.toNat month.toNat (min dt.day maxDay)

/-! ### Names -/

/-- `f"{n:02d}"` -/
def twoDigits (n : ℕ) : Str := if n < 10 then '0' :: decimalRepr n else decimalRepr n

/-- `PARTITION_PREFIX` -/
def partitionPrefix : Str := "audit_logs_y".toList

/-- `_partition_name`, from the year and the month of a date -/
def partitionName (year month : ℕ) : Str :=
  partitionPrefix ++ decimalRepr year ++ 'm' :: twoDigits month

/-- A group of decimal digits, and what comes after it. -/
def digitGroup (U : UnicodeDb) (length : ℕ) (s : Str) : Option (Str × Str) :=
  let group := s.take length
  if group.length = length ∧ group.all fun c => (U.decimal c).isSome then
    some (group, s.drop length)
  else none

/-- `PARTITION_NAME_PATTERN.match`: the two groups. -/
def patternMatch (U : UnicodeDb) (name : Str) : Option (Str × Str) := do
  let rest ← if partitionPrefix.isPrefixOf name then some (name.drop partitionPrefix.length)
    else none
  let (year, rest) ← digitGroup U 4 rest
  let rest ← match rest with
    | 'm' :: rest => some rest
    | _ => none
  let (month, rest) ← digitGroup U 2 rest
  if rest = [] ∨ rest = ['\n'] then some (year, month) else none

/-- `int` of a group. -/
def groupValue (U : UnicodeDb) (group : Str) : ℕ := ofDigits (group.filterMap U.decimal)

/-- `datetime(year, month, 1, tzinfo=UTC)`; `none` is a `ValueError`. -/
def firstOf (year month : ℕ) : Option DateTime :=
  if h : (1 ≤ year ∧ year ≤ 9999) ∧ 1 ≤ month ∧ month ≤ 12 then
    some ⟨year, month, 1, 0, 0, 0, 0, h.1, h.2, ⟨Nat.le_refl 1, monthDays_pos _ _⟩,
      DateTime.midnight_bounds⟩
  else none

/-- `_parse_partition_date` -/
def parsePartitionDate (U : UnicodeDb) (name : Str) : Option DateTime :=
  (patternMatch U name).bind fun (year, month) => firstOf (groupValue U year) (groupValue U month)

/-! ### Partitions -/

/-- A partition, with the first moment of its range and the first moment after it. -/
structure Partition where
  name : Str
  first : ℕ
  last : ℕ
deriving DecidableEq

/-- The range has a moment. -/
def Partition.contains (p : Partition) (t : ℕ) : Prop := p.first ≤ t ∧ t < p.last

instance (p : Partition) (t : ℕ) : Decidable (p.contains t) :=
  inferInstanceAs (Decidable (_ ∧ _))

/-- The ranges have no moment in common. -/
def Partition.Disjoint (p q : Partition) : Prop := p.last ≤ q.first ∨ q.last ≤ p.first

instance (p q : Partition) : Decidable (p.Disjoint q) := inferInstanceAs (Decidable (_ ∨ _))

/-- The midnight of a date, which is written with `strftime('%Y-%m-%d')`. -/
def midnight (dt : DateTime) : ℕ := dt.dayNumber * dayTicks

/-- `_create_partition_if_not_exists`: whether it is new, and the partitions afterwards; `none` is
an exception. -/
def createPartitionIfNotExists (U : UnicodeDb) (dt : DateTime) (partitions : List Partition) :
    Option (Bool × List Partition) := do
  let name := partitionName dt.year dt.month
  let monthStart := dt.firstOfMonth
  let monthEnd ← addMonths monthStart 1
  if name ∈ partitions.map Partition.name then some (false, partitions)
  else if (patternMatch U name).isNone then none
  else
    let p : Partition := ⟨name, midnight monthStart, midnight monthEnd⟩
    if ∀ q ∈ partitions, p.Disjoint q then some (true, partitions ++ [p]) else none

/-- The loop of `ensure_future_partitions`, with the names of the new partitions. -/
def ensureLoop (U : UnicodeDb) (now : DateTime) (created : List Str) (partitions : List Partition) :
    List ℕ → Option (List Str) × List Partition
  | [] => (some created, partitions)
  | i :: is =>
    match addMonths now i with
    | none => (none, partitions)
    | some target =>
      match createPartitionIfNotExists U target partitions with
      | none => (none, partitions)
      | some (isNew, partitions) =>
        ensureLoop U now
          (if isNew then created ++ [partitionName target.year target.month] else created)
          partitions is

/-- `ensure_future_partitions`: the names, or an exception, and the partitions afterwards. -/
def ensureFuturePartitions (U : UnicodeDb) (now : DateTime) (monthsAhead : ℕ)
    (partitions : List Partition) : Option (List Str) × List Partition :=
  ensureLoop U now [] partitions (List.range (monthsAhead + 1))

/-- The loop of `cleanup_old_partitions`, where every `DROP` succeeds: the names that have been
dropped, and whether it raises. -/
def cleanupLoop (U : UnicodeDb) (cutoffMonth : DateTime) (dropped : List Str) :
    List Str → List Str × Bool
  | [] => (dropped, false)
  | name :: names =>
    match parsePartitionDate U name with
    | none => cleanupLoop U cutoffMonth dropped names
    | some partitionDate =>
      match addMonths partitionDate 1 with
      | none => (dropped, true)
      | some partitionEnd =>
        cleanupLoop U cutoffMonth
          (if partitionEnd.instant ≤ cutoffMonth.instant then dropped ++ [name] else dropped) names

/-- `cleanup_old_partitions`, once the cutoff is known. -/
def cleanupOldPartitions (U : UnicodeDb) (cutoff : DateTime) (names : List Str) :
    List Str × Bool :=
  cleanupLoop U cutoff.firstOfMonth [] names

/-- The name of a month. -/
def monthName (k : ℕ) : Str := partitionName (k / 12) (k % 12 + 1)

/-- The partition of a month. -/
def monthPartition (k : ℕ) : Partition := ⟨monthName k, monthStart k, monthStart (k + 1)⟩

/-! ### What adding months comes to -/

variable {dt dt' : DateTime} {months : ℤ}

theorem rollForward_eq (year month : ℤ) : rollForward year month =
    if 12 < month then (year + (month - 1) / 12, (month - 1) % 12 + 1) else (year, month) := by
  induction year, month using rollForward.induct with
  | case1 year month hover ih =>
    rw [rollForward, if_pos hover, if_pos hover, ih]
    split
    · rw [Prod.mk.injEq]
      omega
    · rw [Prod.mk.injEq]
      omega
  | case2 year month hin => rw [rollForward, if_neg hin, if_neg hin]

theorem rollBack_eq (year month : ℤ) : rollBack year month =
    if month < 1 then (year + (month - 1) / 12, (month - 1) % 12 + 1) else (year, month) := by
  induction year, month using rollBack.induct with
  | case1 year month hunder ih =>
    rw [rollBack, if_pos hunder, if_pos hunder, ih]
    split
    · rw [Prod.mk.injEq]
      omega
    · rw [Prod.mk.injEq]
      omega
  | case2 year month hin => rw [rollBack, if_neg hin, if_neg hin]

/-- The two loops divide by 12. -/
theorem roll_eq (year month : ℤ) :
    rollBack (rollForward year month).1 (rollForward year month).2 =
      (year + (month - 1) / 12, (month - 1) % 12 + 1) := by
  rw [rollForward_eq, rollBack_eq]
  split
  · rw [if_neg (by omega)]
  · dsimp only
    split
    · rfl
    · rw [Prod.mk.injEq]
      omega

theorem addMonths_eq (dt : DateTime) (months : ℤ) : addMonths dt months =
    dt.replace ((dt.monthNumber + months) / 12).toNat ((dt.monthNumber + months) % 12 + 1).toNat
      (min dt.day (monthDays ((dt.monthNumber + months) / 12).toNat
        ((dt.monthNumber + months) % 12 + 1).toNat)) := by
  have hmonth := dt.month_bounds
  have hyear : (dt.year : ℤ) + (dt.month + months - 1) / 12 = (dt.monthNumber + months) / 12 := by
    rw [DateTime.monthNumber]
    omega
  have hrest : ((dt.month : ℤ) + months - 1) % 12 + 1 = (dt.monthNumber + months) % 12 + 1 := by
    rw [DateTime.monthNumber]
    omega
  have hroll := roll_eq dt.year (dt.month + months)
  rw [hyear, hrest] at hroll
  rw [addMonths]
  dsimp only
  rw [hroll]

/-- **Months are added** to the number of a month. -/
theorem monthNumber_addMonths (h : addMonths dt months = some dt') :
    (dt'.monthNumber : ℤ) = dt.monthNumber + months ∧
      dt'.day = min dt.day (monthDays dt'.year dt'.month) := by
  rw [addMonths_eq] at h
  obtain ⟨hyear, hmonth, hday, -⟩ := DateTime.replace_eq_some_iff.mp h
  have hbounds := dt'.year_bounds
  refine ⟨?_, by rw [hday, hyear, hmonth]⟩
  rw [DateTime.monthNumber, hyear, hmonth]
  omega

/-- Every date of the years 1 to 9999 is reached. -/
theorem addMonths_isSome_iff : (addMonths dt months).isSome = true ↔
    12 ≤ dt.monthNumber + months ∧ dt.monthNumber + months < 120000 := by
  have hday := dt.day_bounds
  rw [addMonths_eq, DateTime.replace]
  constructor
  · intro h
    split at h
    · rename_i hbounds
      omega
    · cases h
  · intro h
    have hpos := monthDays_pos ((dt.monthNumber + months) / 12).toNat
      ((dt.monthNumber + months) % 12 + 1).toNat
    rw [dif_pos]
    · rfl
    · refine ⟨by omega, by omega, Nat.le_min.mpr ⟨hday.1, hpos⟩, Nat.min_le_right _ _⟩

/-! ### Names are read back -/

theorem groupValue_decimalRepr (U : UnicodeDb) (n : ℕ) : groupValue U (decimalRepr n) = n := by
  have hdecimal : (decimalRepr n).filterMap U.decimal =
      (decimalRepr n).map fun c => c.toNat - '0'.toNat := by
    rw [← List.filterMap_eq_map]
    exact List.filterMap_congr fun c hc => U.decimal_digit c (isDigit_of_mem_decimalRepr hc)
  rw [groupValue, hdecimal, ofDigits_map_digit, decimalRepr, Nat.ofDigitChars_ten_toDigits]

theorem groupValue_twoDigits (U : UnicodeDb) (n : ℕ) : groupValue U (twoDigits n) = n := by
  rw [twoDigits]
  split
  · rw [groupValue, List.filterMap_cons, U.decimal_digit '0' (by decide)]
    exact groupValue_decimalRepr U n
  · exact groupValue_decimalRepr U n

theorem length_decimalRepr_year {year : ℕ} (h : 1000 ≤ year) (h' : year ≤ 9999) :
    (decimalRepr year).length = 4 := by
  have hle : (decimalRepr year).length ≤ 4 :=
    (Nat.length_toDigits_le_iff (by omega) (by omega)).mpr (by omega)
  have hgt : ¬ (decimalRepr year).length ≤ 3 := fun hle => by
    have hlt := (Nat.length_toDigits_le_iff (b := 10) (by omega) (by omega)).mp hle
    omega
  omega

theorem length_twoDigits {month : ℕ} (h : month ≤ 12) : (twoDigits month).length = 2 := by
  revert month
  decide

theorem isDigit_of_mem_twoDigits {n : ℕ} {c : Char} (h : c ∈ twoDigits n) : c.isDigit = true := by
  rw [twoDigits] at h
  split at h
  · rcases List.mem_cons.mp h with rfl | h
    · rfl
    · exact isDigit_of_mem_decimalRepr h
  · exact isDigit_of_mem_decimalRepr h

theorem decimal_twoDigits (U : UnicodeDb) (n : ℕ) :
    ((twoDigits n).all fun c => (U.decimal c).isSome) = true := by
  rw [List.all_eq_true]
  intro c hc
  rw [U.decimal_digit c (isDigit_of_mem_twoDigits hc)]
  rfl

theorem digitGroup_append {U : UnicodeDb} {length : ℕ} {group rest : Str}
    (hlength : group.length = length)
    (hgroup : (group.all fun c => (U.decimal c).isSome) = true) :
    digitGroup U length (group ++ rest) = some (group, rest) := by
  rw [digitGroup, ← hlength, List.take_left, List.drop_left]
  exact if_pos ⟨rfl, hgroup⟩

/-- The names of the service match the pattern. -/
theorem patternMatch_partitionName (U : UnicodeDb) {year month : ℕ} (hyear : 1000 ≤ year)
    (hyear' : year ≤ 9999) (hmonth : month ≤ 12) :
    patternMatch U (partitionName year month) = some (decimalRepr year, twoDigits month) := by
  have hdecimal : ((decimalRepr year).all fun c => (U.decimal c).isSome) = true := by
    rw [List.all_eq_true]
    intro c hc
    rw [U.decimal_digit c (isDigit_of_mem_decimalRepr hc)]
    rfl
  have hgroup : digitGroup U 2 (twoDigits month) = some (twoDigits month, []) := by
    have happend := @digitGroup_append U 2 _ [] (length_twoDigits hmonth)
      (decimal_twoDigits U month)
    rwa [List.append_nil] at happend
  rw [patternMatch, partitionName, List.append_assoc,
    if_pos (List.isPrefixOf_iff_prefix.mpr (List.prefix_append _ _)), List.drop_left]
  show (digitGroup U 4 _).bind _ = _
  rw [digitGroup_append (length_decimalRepr_year hyear hyear') hdecimal]
  show (digitGroup U 2 _).bind _ = _
  rw [hgroup]
  rfl

/-- A name has the year before its month. -/
theorem takeWhile_partitionName (year month : ℕ) :
    ((partitionName year month).drop partitionPrefix.length).takeWhile Char.isDigit =
      decimalRepr year := by
  rw [partitionName, List.append_assoc, List.drop_left,
    List.takeWhile_append_of_pos fun c hc => isDigit_of_mem_decimalRepr hc,
    List.takeWhile_cons_of_neg (by decide), List.append_nil]

/-- A name that matches has an `m` after four characters. -/
theorem m_of_patternMatch {U : UnicodeDb} {name : Str} {groups : Str × Str}
    (h : patternMatch U name = some groups) :
    'm' ∈ (name.drop partitionPrefix.length).drop 4 := by
  unfold patternMatch at h
  dsimp only [Option.bind_eq_bind, Option.bind_some, Option.bind_none] at h
  split at h
  · obtain ⟨⟨year, rest⟩, hgroup, h⟩ := Option.bind_eq_some_iff.mp h
    have hrest : rest = (name.drop partitionPrefix.length).drop 4 := by
      unfold digitGroup at hgroup
      dsimp only at hgroup
      split at hgroup
      · exact (Prod.mk.inj (Option.some.inj hgroup)).2.symm
      · cases hgroup
    rw [← hrest]
    dsimp only at h
    split at h
    · exact List.mem_cons_self
    · cases h
  · cases h

/-- Before the year 1000 no name matches. -/
theorem year_of_patternMatch {U : UnicodeDb} {year month : ℕ} {groups : Str × Str}
    (h : patternMatch U (partitionName year month) = some groups) : 1000 ≤ year := by
  by_contra hlt
  have hlength : (decimalRepr year).length ≤ 3 :=
    (Nat.length_toDigits_le_iff (by omega) (by omega)).mpr (by omega)
  have hm := m_of_patternMatch h
  rw [partitionName, List.append_assoc, List.drop_left, List.drop_append,
    List.drop_eq_nil_of_le (by omega), List.nil_append] at hm
  have hn : 4 - (decimalRepr year).length = 3 - (decimalRepr year).length + 1 := by omega
  rw [hn, List.drop_succ_cons] at hm
  exact absurd (isDigit_of_mem_twoDigits (List.mem_of_mem_drop hm)) (by decide)

/-- **Names are read back** from the year 1000 on. -/
theorem parsePartitionDate_partitionName (U : UnicodeDb) (hyear : 1000 ≤ dt.year) :
    parsePartitionDate U (partitionName dt.year dt.month) = some dt.firstOfMonth := by
  rw [parsePartitionDate, patternMatch_partitionName U hyear dt.year_bounds.2 dt.month_bounds.2,
    Option.bind_some]
  dsimp only
  rw [groupValue_decimalRepr, groupValue_twoDigits, firstOf,
    dif_pos ⟨dt.year_bounds, dt.month_bounds⟩]
  rfl

/-! ### What is created -/

theorem partitionName_eq_monthName (dt : DateTime) :
    partitionName dt.year dt.month = monthName dt.monthNumber := by
  rw [monthName, dt.monthNumber_div, dt.monthNumber_mod]

theorem midnight_firstOfMonth (dt : DateTime) :
    midnight dt.firstOfMonth = monthStart dt.monthNumber := by
  rw [midnight, DateTime.dayNumber, monthStart]
  rfl

/-- The month after a month starts where it ends. -/
theorem midnight_addMonths {start next : DateTime} (h : addMonths start 1 = some next)
    (hstart : start.day = 1) : midnight next = monthStart (start.monthNumber + 1) := by
  obtain ⟨hnumber, hday⟩ := monthNumber_addMonths h
  have hpos := monthDays_pos next.year next.month
  have hnext : next.monthNumber = start.monthNumber + 1 := by omega
  rw [midnight, DateTime.dayNumber, hnext, hday, hstart, Nat.min_eq_left hpos, monthStart]
  rfl

/-- **What is created** for a date whose month is one of the years 1000 to 9999, and not the last
one. -/
theorem createPartition_of_month (U : UnicodeDb) (hyear : 1000 ≤ dt.year)
    (hlast : dt.monthNumber + 1 < 120000) (partitions : List Partition) :
    createPartitionIfNotExists U dt partitions =
      if monthName dt.monthNumber ∈ partitions.map Partition.name then some (false, partitions)
      else if ∀ q ∈ partitions, (monthPartition dt.monthNumber).Disjoint q then
        some (true, partitions ++ [monthPartition dt.monthNumber])
      else none := by
  have hnext : (addMonths dt.firstOfMonth 1).isSome = true := by
    have h := dt.twelve_le_monthNumber
    rw [addMonths_isSome_iff, DateTime.monthNumber_firstOfMonth]
    omega
  obtain ⟨monthEnd, hmonthEnd⟩ := Option.isSome_iff_exists.mp hnext
  have hmatch : (patternMatch U (partitionName dt.year dt.month)).isNone = false := by
    rw [patternMatch_partitionName U hyear dt.year_bounds.2 dt.month_bounds.2]
    rfl
  rw [createPartitionIfNotExists, hmonthEnd]
  show (if partitionName dt.year dt.month ∈ partitions.map Partition.name then _ else _) = _
  rw [hmatch, if_neg Bool.false_ne_true, midnight_firstOfMonth, midnight_addMonths hmonthEnd rfl,
    partitionName_eq_monthName]
  rfl

/-- Before the year 1000 there is no partition to create, and none for the last month. -/
theorem createPartition_isSome (U : UnicodeDb) {isNew : Bool}
    {partitions partitions' : List Partition}
    (h : createPartitionIfNotExists U dt partitions = some (isNew, partitions')) :
    dt.monthNumber + 1 < 120000 := by
  obtain ⟨monthEnd, hmonthEnd, -⟩ := Option.bind_eq_some_iff.mp h
  have hsome := addMonths_isSome_iff.mp (Option.isSome_of_mem hmonthEnd)
  rw [DateTime.monthNumber_firstOfMonth] at hsome
  omega

/-! ### Months apart -/

/-- The partition of a month has room for exactly the moments of the month. -/
theorem monthPartition_contains_iff {k : ℕ} (hk : 12 ≤ k) (t : DateTime) :
    (monthPartition k).contains t.instant ↔ t.monthNumber = k := by
  constructor
  · rintro ⟨hfirst, hlast⟩
    exact DateTime.monthNumber_eq_of_mem hk hfirst hlast
  · rintro rfl
    exact ⟨t.monthStart_le_instant, t.instant_lt_monthStart⟩

/-- The ranges of two months have no moment in common. -/
theorem monthPartition_disjoint {j k : ℕ} (hj : 12 ≤ j) (hk : 12 ≤ k) (hne : j ≠ k) :
    (monthPartition j).Disjoint (monthPartition k) := by
  rcases Nat.lt_or_gt_of_ne hne with hlt | hgt
  · exact .inl (monthStart_le (Nat.le_succ_of_le hj) hlt)
  · exact .inr (monthStart_le (Nat.le_succ_of_le hk) hgt)

/-- Two months of the years 1000 to 9999 have two names. -/
theorem monthName_injective {j k : ℕ} (hj : 12000 ≤ j) (hj' : j < 120000) (hk : 12000 ≤ k)
    (hk' : k < 120000) (h : monthName j = monthName k) : j = k := by
  have hmatch : ∀ n, 12000 ≤ n → n < 120000 →
      patternMatch .ascii (monthName n) =
        some (decimalRepr (n / 12), twoDigits (n % 12 + 1)) := fun n hn hn' =>
    patternMatch_partitionName .ascii (by omega) (by omega) (by omega)
  have heq := (hmatch j hj hj').symm.trans ((congrArg _ h).trans (hmatch k hk hk'))
  obtain ⟨hyear, hmonth⟩ := Prod.mk.inj (Option.some.inj heq)
  have hyear' := decimalRepr_injective hyear
  have hmonth' : j % 12 + 1 = k % 12 + 1 := by
    rw [← groupValue_twoDigits .ascii (j % 12 + 1), ← groupValue_twoDigits .ascii (k % 12 + 1),
      hmonth]
  omega

end PartitionService

end OpenLangGraph

import OpenLangGraph.Services.PartitionService

/-!
# Old partitions

`cleanup_old_partitions` of `services/partition_service.py`: which of the listed partitions it
drops.

## Names that the service does not make

A partition is dropped for its name, which is matched with a pattern. The pattern takes years before
1000 with zeros in front. The names of the service have no zeros there, so no such partition is one
of the service; and the service has none before the year 1000, since their names do not match.

## The last month

There is no month after December 9999. A name of this month ends the loop with an exception.

## Main definitions

* `cleanup` — with the cutoff
* `isOld`, `isLastMonth`, `readNames`
* `DropsGenerated` — only partitions of the service are dropped
* `DropsOld` — what is dropped

## Main results

* `cleanupLoop_eq` — what the loop drops
* `cleanup_drops_old` — it is what `DropsOld` says
* `not_dropsGenerated`
-/

namespace OpenLangGraph

namespace PartitionService

open Calendar PyString

/-- `cleanup_old_partitions`; `none` is the exception of a cutoff before the year 1. -/
def cleanup (U : UnicodeDb) (now : DateTime) (retentionDays : ℕ) (names : List Str) :
    Option (List Str × Bool) :=
  (now.subDays retentionDays).map fun cutoff => cleanupOldPartitions U cutoff names

/-- The name has a month, and the whole month is before that of the cutoff. -/
def isOld (U : UnicodeDb) (cutoff : DateTime) (name : Str) : Bool :=
  (parsePartitionDate U name).any fun date => date.monthNumber < cutoff.monthNumber

/-- The name has the last month that there is. -/
def isLastMonth (U : UnicodeDb) (name : Str) : Bool :=
  (parsePartitionDate U name).any fun date => date.monthNumber + 1 = 120000

/-- What is dropped are the partitions under the names of old months that the service makes, and
every such name is read back. -/
def DropsGenerated (U : UnicodeDb) : Prop :=
  ∀ (now cutoff : DateTime) (retentionDays : ℕ) (names : List Str),
    now.subDays retentionDays = some cutoff → 1000 ≤ cutoff.year → cutoff.year ≤ 9998 →
      (∀ name, name ∈ (cleanupOldPartitions U cutoff names).1 ↔ name ∈ names ∧
        ∃ dt : DateTime, name = partitionName dt.year dt.month ∧
          dt.monthNumber < cutoff.monthNumber) ∧
      ∀ dt : DateTime, parsePartitionDate U (partitionName dt.year dt.month) = some dt.firstOfMonth

/-! ### The loop -/

variable {U : UnicodeDb} {cutoff date dt : DateTime} {names dropped : List Str} {name : Str}

/-- What has been read is the first of a month. -/
theorem firstOfMonth_of_parse (h : parsePartitionDate U name = some date) :
    date = date.firstOfMonth := by
  obtain ⟨⟨year, month⟩, -, hfirst⟩ := Option.bind_eq_some_iff.mp h
  dsimp only at hfirst
  unfold firstOf at hfirst
  split at hfirst
  · obtain rfl := Option.some.inj hfirst
    rfl
  · cases hfirst

theorem isOld_of_parse (h : parsePartitionDate U name = some date) :
    isOld U cutoff name = decide (date.monthNumber < cutoff.monthNumber) := by
  rw [isOld, h]
  rfl

theorem isLastMonth_of_parse (h : parsePartitionDate U name = some date) :
    isLastMonth U name = decide (date.monthNumber + 1 = 120000) := by
  rw [isLastMonth, h]
  rfl

/-- Only the last month has none after it. -/
theorem addMonths_eq_none_iff (h : parsePartitionDate U name = some date) :
    addMonths date 1 = none ↔ isLastMonth U name = true := by
  have hyear := date.year_bounds
  have hmonth := date.month_bounds
  rw [isLastMonth_of_parse h, decide_eq_true_iff, ← Option.not_isSome_iff_eq_none,
    addMonths_isSome_iff, DateTime.monthNumber]
  omega

/-- **The end of a month** is compared with the month of the cutoff. -/
theorem end_le_iff {partitionEnd : DateTime} (h : parsePartitionDate U name = some date)
    (hend : addMonths date 1 = some partitionEnd) :
    partitionEnd.instant ≤ cutoff.firstOfMonth.instant ↔
      date.monthNumber < cutoff.monthNumber := by
  obtain ⟨hnumber, hday⟩ := monthNumber_addMonths hend
  have hfirst : partitionEnd.instant = monthStart partitionEnd.monthNumber := by
    have hclock : partitionEnd.clock = 0 := by
      rw [addMonths_eq] at hend
      rw [DateTime.clock_of_replace hend, firstOfMonth_of_parse h, DateTime.clock]
      simp only [DateTime.firstOfMonth]
    have hone : date.day = 1 := congrArg DateTime.day (firstOfMonth_of_parse h)
    have hpos := monthDays_pos partitionEnd.year partitionEnd.month
    rw [DateTime.instant, DateTime.dayNumber, hclock, hday, hone, Nat.min_eq_left hpos, monthStart,
      Nat.sub_self, Nat.add_zero, Nat.add_zero]
  rw [hfirst, DateTime.instant_firstOfMonth,
    monthStart_le_iff partitionEnd.twelve_le_monthNumber cutoff.twelve_le_monthNumber]
  omega

/-- The names up to one of the last month. -/
def readNames (U : UnicodeDb) (names : List Str) : List Str :=
  names.takeWhile fun name => !isLastMonth U name

theorem readNames_cons_of_last (h : isLastMonth U name = true) :
    readNames U (name :: names) = [] := by
  rw [readNames, List.takeWhile_cons, h]
  rfl

theorem readNames_cons (h : isLastMonth U name = false) :
    readNames U (name :: names) = name :: readNames U names := by
  rw [readNames, List.takeWhile_cons, h]
  rfl

/-- **What the loop drops**: the names of old months, up to a name of the last month. -/
theorem cleanupLoop_eq (U : UnicodeDb) (cutoff : DateTime) (names dropped : List Str) :
    cleanupLoop U cutoff.firstOfMonth dropped names =
      (dropped ++ (readNames U names).filter (isOld U cutoff), names.any (isLastMonth U)) := by
  induction names generalizing dropped with
  | nil =>
    rw [cleanupLoop, readNames, List.takeWhile_nil, List.filter_nil, List.append_nil, List.any_nil]
  | cons name names ih =>
    rw [cleanupLoop, List.any_cons]
    rcases hparse : parsePartitionDate U name with _ | date
    · -- no name of a partition
      have hlast : isLastMonth U name = false := by
        rw [isLastMonth, hparse]
        rfl
      have hold : ¬ isOld U cutoff name = true := by
        rw [isOld, hparse]
        exact Bool.false_ne_true
      dsimp only
      rw [ih, readNames_cons hlast, List.filter_cons_of_neg hold, hlast, Bool.false_or]
    · dsimp only
      rcases hend : addMonths date 1 with _ | partitionEnd
      · have hlast := (addMonths_eq_none_iff hparse).mp hend
        dsimp only
        rw [readNames_cons_of_last hlast, List.filter_nil, List.append_nil, hlast, Bool.true_or]
      · have hlast : isLastMonth U name = false := by
          rw [← Bool.not_eq_true, ← addMonths_eq_none_iff hparse, hend]
          exact Option.some_ne_none _
        have hcompare := @end_le_iff U cutoff date name partitionEnd hparse hend
        have hold := @isOld_of_parse U cutoff date name hparse
        dsimp only
        rw [ih, readNames_cons hlast, hlast, Bool.false_or]
        by_cases hbefore : date.monthNumber < cutoff.monthNumber
        · rw [decide_eq_true hbefore] at hold
          rw [if_pos (hcompare.mpr hbefore), List.filter_cons_of_pos hold, List.append_assoc]
          rfl
        · rw [decide_eq_false hbefore] at hold
          rw [if_neg (mt hcompare.mp hbefore), List.filter_cons_of_neg (ne_true_of_eq_false hold)]

/-! ### Calls -/

/-- What a call has dropped, with whether it raises at the end: the listed names of old months, up
to a name of the last month. The names of the service for the years from 1000 on are read back, so
they are dropped when the month is before that of the cutoff, and nothing that is dropped has room
for a row that is not older than the retention. -/
structure DropsOld (U : UnicodeDb) (now cutoff : DateTime) (retentionDays : ℕ) (names : List Str)
    (dropped : List Str) (raises : Bool) : Prop where
  dropped_eq : dropped = (readNames U names).filter (isOld U cutoff)
  raises_eq : raises = names.any (isLastMonth U)
  generated : ∀ dt : DateTime, 1000 ≤ dt.year →
    parsePartitionDate U (partitionName dt.year dt.month) = some dt.firstOfMonth ∧
    isOld U cutoff (partitionName dt.year dt.month) =
      decide (dt.monthNumber < cutoff.monthNumber)
  no_young_row : ∀ name ∈ dropped, ∃ date, parsePartitionDate U name = some date ∧
    ∀ t, (monthPartition date.monthNumber).contains t →
      t < cutoff.instant ∧ t + retentionDays * dayTicks < now.instant

/-- **Cleaning up drops old months**, and nothing else. -/
theorem cleanup_drops_old (U : UnicodeDb) (now cutoff : DateTime) (retentionDays : ℕ)
    (names : List Str) (hcutoff : now.subDays retentionDays = some cutoff) :
    ∃ dropped raises, cleanup U now retentionDays names = some (dropped, raises) ∧
      DropsOld U now cutoff retentionDays names dropped raises := by
  have heq := cleanupLoop_eq U cutoff names []
  rw [List.nil_append] at heq
  refine ⟨_, _, ?_, rfl, rfl, fun dt hyear => ?_, fun name hname => ?_⟩
  · rw [cleanup, hcutoff, Option.map_some, cleanupOldPartitions, heq]
  · have hparse := parsePartitionDate_partitionName U hyear
    exact ⟨hparse, (isOld_of_parse hparse).trans (by rw [DateTime.monthNumber_firstOfMonth])⟩
  · obtain ⟨date, hparse, hbefore⟩ :=
      (Option.any_eq_true _ _).mp (List.mem_filter.mp hname).2
    refine ⟨date, hparse, fun t ht => ?_⟩
    have hmonth : monthStart (date.monthNumber + 1) ≤ monthStart cutoff.monthNumber :=
      monthStart_le (Nat.le_succ_of_le date.twelve_le_monthNumber) (of_decide_eq_true hbefore)
    have hyoung : t < cutoff.instant :=
      Nat.lt_of_lt_of_le ht.2 (Nat.le_trans hmonth cutoff.monthStart_le_instant)
    have hnow := DateTime.instant_subDays hcutoff
    exact ⟨hyoung, by omega⟩

/-- The first of March 2024. -/
def march : DateTime :=
  ⟨2024, 3, 1, 0, 0, 0, 0, ⟨Nat.le_of_ble_eq_true rfl, Nat.le_of_ble_eq_true rfl⟩,
    ⟨Nat.le_of_ble_eq_true rfl, Nat.le_of_ble_eq_true rfl⟩,
    ⟨Nat.le_of_ble_eq_true rfl, Nat.le_of_ble_eq_true rfl⟩,
    DateTime.midnight_bounds⟩

/-- Two days before it, over the end of a February with 29 days. -/
theorem cleanup_drops_old_march : ∃ cutoff dropped raises,
    cleanup .ascii march 2 ["audit_logs_y2024m01".toList, "audit_logs_y2024m02".toList] =
      some (dropped, raises) ∧
    DropsOld .ascii march cutoff 2 ["audit_logs_y2024m01".toList, "audit_logs_y2024m02".toList]
      dropped raises :=
  ⟨_, cleanup_drops_old .ascii march _ 2 _ rfl⟩

/-! ### Names that the service does not make -/

/-- A year before 1000, with a zero in front. -/
def zeroName : Str := "audit_logs_y0999m01".toList

theorem isOld_zeroName : isOld .ascii march zeroName = true := by decide

theorem not_isLastMonth_zeroName : isLastMonth .ascii zeroName = false := by decide

theorem cleanup_zeroName : (cleanupOldPartitions .ascii march [zeroName]).1 = [zeroName] := by
  rw [cleanupOldPartitions, cleanupLoop_eq, readNames_cons not_isLastMonth_zeroName,
    List.filter_cons_of_pos isOld_zeroName]
  rfl

/-- The service writes years without zeros in front. -/
theorem zeroName_ne (year month : ℕ) : zeroName ≠ partitionName year month := by
  intro h
  have hyear : decimalRepr year = "0999".toList := by
    rw [← takeWhile_partitionName year month, ← h]
    rfl
  have hvalue := groupValue_decimalRepr .ascii year
  rw [hyear] at hvalue
  have h999 : year = 999 := by
    rw [← hvalue]
    decide
  rw [h999] at hyear
  exact absurd hyear (by decide)

/-- A partition that is not one of the service can be dropped. -/
theorem not_dropsGenerated : ¬ DropsGenerated .ascii := by
  intro h
  have hdrops := (h march march 0 [zeroName] rfl (by decide) (by decide)).1 zeroName
  rw [cleanup_zeroName] at hdrops
  obtain ⟨-, dt, hname, -⟩ := hdrops.mp (List.mem_singleton_self _)
  exact zeroName_ne dt.year dt.month hname

end PartitionService

end OpenLangGraph

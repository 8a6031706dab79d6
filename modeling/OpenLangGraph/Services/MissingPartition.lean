import OpenLangGraph.Services.FuturePartitions

/-!
# The partition of a row that has none

`_parse_timestamp` of `services/audit_outbox_service.py` and `create_partition_for_date` of
`services/partition_service.py`: when a row has no partition, one is made for its timestamp, and the
row is inserted again.

## The two months of a moment

The new partition is that of the month on the calendar of the timestamp. Its range is read in UTC,
and so is the timestamp when the row is inserted. With an offset these are two months, near the end
of one of them: the partition is then made for the wrong one. A string without an offset is read as
it is, while a `datetime` without one is taken as UTC.

## Scope

`datetime.fromisoformat` is a parameter. A payload may have a string that is read as any timestamp,
or as none.

## Main definitions

* `Stamp`, `Value`, `parseTimestamp`, `createPartitionForDate`
* `MakesRoom` — the row has a partition afterwards
* `InOneMonth`, `ReadInOneMonth` — the offset does not lead out of the month

## Main results

* `contains_instant_iff` — when the partition of the calendar month has the moment
* `makesRoom_iff` — when the row has a partition afterwards
* `room_in_another_month`
-/

namespace OpenLangGraph

namespace PartitionService

open Calendar PyString

/-! ### Timestamps -/

/-- An offset from UTC, in microseconds. -/
structure Offset where
  ticks : ℤ
  bounds : -86400000000 < ticks ∧ ticks < 86400000000

theorem utc_bounds : -86400000000 < (0 : ℤ) ∧ (0 : ℤ) < 86400000000 := by omega

/-- UTC itself. -/
def Offset.utc : Offset := ⟨0, utc_bounds⟩

@[simp] theorem ticks_utc : Offset.utc.ticks = 0 := rfl

/-- A `datetime`, with what a clock at its place shows. -/
inductive Stamp where
  | aware (wall : DateTime) (offset : Offset)
  | naive (wall : DateTime)

/-- What is under `timestamp` of a payload. -/
inductive Value where
  | datetime (stamp : Stamp)
  | str (s : Str)
  | other

/-- The handling of a `Z` at the end. -/
def withOffset (s : Str) : Str :=
  if s.getLast? = some 'Z' then s.dropLast ++ "+00:00".toList else s

/-- `_parse_timestamp` -/
def parseTimestamp (fromisoformat : Str → Option Stamp) (now : DateTime) : Value → Stamp
  | .datetime (.aware wall offset) => .aware wall offset
  | .datetime (.naive wall) => .aware wall .utc
  | .str s => (fromisoformat (withOffset s)).getD (.aware now .utc)
  | .other => .aware now .utc

/-- The fields that a partition is made for. -/
def Stamp.wall : Stamp → DateTime
  | .aware wall _ => wall
  | .naive wall => wall

/-- `create_partition_for_date`: whether it is new, and the partitions afterwards. -/
def createPartitionForDate (U : UnicodeDb) (stamp : Stamp) (partitions : List Partition) :
    Option (Bool × List Partition) :=
  createPartitionIfNotExists U stamp.wall partitions

/-- The moment in UTC, which is before the year 1 when it is negative. -/
def utcInstant (wall : DateTime) (offset : Offset) : ℤ := wall.instant - offset.ticks

/-- The range has a moment, as the database compares them. -/
def Partition.has (p : Partition) (t : ℤ) : Prop := p.first ≤ t ∧ t < p.last

instance (p : Partition) (t : ℤ) : Decidable (p.has t) := inferInstanceAs (Decidable (_ ∧ _))

/-! ### What is asked -/

/-- There is no partition for a timestamp. -/
def Unplaced (stamp : Stamp) (partitions : List Partition) : Prop :=
  ∀ wall offset, stamp = .aware wall offset → ∀ p ∈ partitions, ¬ p.has (utcInstant wall offset)

/-- A timestamp has an offset, and when a partition has been made for it there is one that has its
moment. -/
def MakesRoom (U : UnicodeDb) (stamp : Stamp) (partitions : List Partition) : Prop :=
  ∃ wall offset, stamp = .aware wall offset ∧ ∃ isNew partitions',
    createPartitionForDate U stamp partitions = some (isNew, partitions') ∧
      ∃ p ∈ partitions', p.has (utcInstant wall offset)

/-- A missing partition is the one that is made, for whatever is in a payload. -/
def MakesRoomAlways : Prop :=
  ∀ (U : UnicodeDb) (fromisoformat : Str → Option Stamp) (now : DateTime) (value : Value)
    (partitions : List Partition), Monthly partitions →
    Unplaced (parseTimestamp fromisoformat now value) partitions →
      MakesRoom U (parseTimestamp fromisoformat now value) partitions

/-- The calendar month is one of the years from 1000 on and not the last one, and the offset is not
longer than what has passed of the month, nor longer to the west than what is left of it. -/
structure InOneMonth (wall : DateTime) (offset : Offset) : Prop where
  year : 1000 ≤ wall.year
  last : wall.monthNumber + 1 < 120000
  passed : offset.ticks ≤ wall.instant - monthStart wall.monthNumber
  left : -offset.ticks < monthStart (wall.monthNumber + 1) - wall.instant

/-- What is in a payload has an offset that does not lead out of the month; only a `datetime` can
have none. What is no timestamp stands for the time of the call. -/
def ReadInOneMonth (fromisoformat : Str → Option Stamp) (now : DateTime) : Value → Prop
  | .datetime (.aware wall offset) => InOneMonth wall offset
  | .datetime (.naive wall) => InOneMonth wall .utc
  | .str s =>
    match fromisoformat (withOffset s) with
    | some (.aware wall offset) => InOneMonth wall offset
    | some (.naive _) => False
    | none => InOneMonth now .utc
  | .other => InOneMonth now .utc

/-! ### The month of a moment -/

variable {U : UnicodeDb} {wall now : DateTime} {offset : Offset} {partitions : List Partition}

/-- **The partition of the calendar month** has the moment if the offset does not lead out of it. -/
theorem has_utcInstant_iff : (monthPartition wall.monthNumber).has (utcInstant wall offset) ↔
    offset.ticks ≤ wall.instant - monthStart wall.monthNumber ∧
      -offset.ticks < monthStart (wall.monthNumber + 1) - wall.instant := by
  rw [Partition.has, utcInstant, monthPartition]
  dsimp only
  omega

/-- In UTC it always does. -/
theorem inOneMonth_utc_iff :
    InOneMonth wall .utc ↔ 1000 ≤ wall.year ∧ wall.monthNumber + 1 < 120000 := by
  have hfirst := wall.monthStart_le_instant
  have hlast := wall.instant_lt_monthStart
  constructor
  · intro h
    exact ⟨h.year, h.last⟩
  · rintro ⟨hyear, hend⟩
    refine ⟨hyear, hend, ?_, ?_⟩
    · rw [ticks_utc]
      omega
    · rw [ticks_utc]
      omega

/-- There is no year before 1000 among the partitions, so none is found or made for it. -/
theorem year_of_create {isNew : Bool} {partitions' : List Partition} (hmonthly : Monthly partitions)
    (h : createPartitionIfNotExists U wall partitions = some (isNew, partitions')) :
    1000 ≤ wall.year := by
  obtain ⟨monthEnd, -, h⟩ := Option.bind_eq_some_iff.mp h
  by_cases hname : partitionName wall.year wall.month ∈ partitions.map Partition.name
  · obtain ⟨p, hp, hpname⟩ := List.mem_map.mp hname
    obtain ⟨k, hk, -, rfl⟩ := hmonthly.months p hp
    have hyear : decimalRepr (k / 12) = decimalRepr wall.year := by
      rw [← takeWhile_partitionName (k / 12) (k % 12 + 1),
        ← takeWhile_partitionName wall.year wall.month, ← hpname]
      rfl
    have heq := decimalRepr_injective hyear
    omega
  · rw [if_neg hname] at h
    by_cases hmatch : (patternMatch U (partitionName wall.year wall.month)).isNone
    · rw [if_pos hmatch] at h
      cases h
    · obtain ⟨groups, hgroups⟩ :=
        Option.ne_none_iff_exists'.mp (mt Option.isNone_iff_eq_none.mpr hmatch)
      exact year_of_patternMatch hgroups

/-- The partition of the month is there afterwards, and what was there before. -/
theorem createPartition_spec (hmonthly : Monthly partitions) (hyear : 1000 ≤ wall.year)
    (hlast : wall.monthNumber + 1 < 120000) : ∃ isNew partitions',
      createPartitionIfNotExists U wall partitions = some (isNew, partitions') ∧
        ∀ p, p ∈ partitions' ↔ p ∈ partitions ∨ p = monthPartition wall.monthNumber := by
  have hnumber : 12000 ≤ wall.monthNumber := by
    rw [DateTime.monthNumber]
    omega
  rw [createPartition_of_month U hyear hlast]
  by_cases hname : monthName wall.monthNumber ∈ partitions.map Partition.name
  · rw [if_pos hname]
    refine ⟨_, _, rfl, fun p => ?_⟩
    obtain ⟨q, hq, hqname⟩ := List.mem_map.mp hname
    obtain ⟨k, hk, hk', rfl⟩ := hmonthly.months q hq
    have hsame : k = wall.monthNumber :=
      monthName_injective hk (by omega) hnumber (by omega) hqname
    rw [hsame] at hq
    constructor
    · intro hp
      exact .inl hp
    · rintro (hp | rfl)
      · exact hp
      · exact hq
  · have hdisjoint : ∀ q ∈ partitions, (monthPartition wall.monthNumber).Disjoint q := by
      intro q hq
      obtain ⟨k, hk, hk', rfl⟩ := hmonthly.months q hq
      refine monthPartition_disjoint (by omega) (by omega) ?_
      intro heq
      exact hname (heq ▸ List.mem_map_of_mem hq)
    rw [if_neg hname, if_pos hdisjoint]
    refine ⟨_, _, rfl, fun p => ?_⟩
    rw [List.mem_append, List.mem_singleton]

/-- **Room is made** in the month of the calendar. -/
theorem makesRoom_aware_iff (hmonthly : Monthly partitions)
    (hmissing : ∀ p ∈ partitions, ¬ p.has (utcInstant wall offset)) :
    MakesRoom U (.aware wall offset) partitions ↔ InOneMonth wall offset := by
  constructor
  · rintro ⟨wall', offset', heq, isNew, partitions', hcreate, p, hp, hhas⟩
    obtain ⟨rfl, rfl⟩ := Stamp.aware.inj heq
    have hyear := year_of_create hmonthly hcreate
    have hlast := createPartition_isSome U hcreate
    obtain ⟨isNew'', partitions'', hcreate', hmem⟩ :=
      @createPartition_spec U _ _ hmonthly hyear hlast
    have hafter := (Option.some.inj (hcreate.symm.trans hcreate'))
    rw [(Prod.mk.inj hafter).2, hmem] at hp
    rcases hp with hp | rfl
    · exact absurd hhas (hmissing p hp)
    · obtain ⟨hpassed, hleft⟩ := has_utcInstant_iff.mp hhas
      exact ⟨hyear, hlast, hpassed, hleft⟩
  · intro h
    obtain ⟨isNew, partitions', hcreate, hmem⟩ :=
      @createPartition_spec U _ _ hmonthly h.year h.last
    exact ⟨wall, offset, rfl, isNew, partitions', hcreate, _, (hmem _).mpr (.inr rfl),
      has_utcInstant_iff.mpr ⟨h.passed, h.left⟩⟩

theorem not_makesRoom_naive : ¬ MakesRoom U (.naive wall) partitions := by
  rintro ⟨wall', offset, heq, -⟩
  cases heq

/-- **A row has a partition afterwards** if the offset of its timestamp does not lead out of the
month. -/
theorem makesRoom_iff (U : UnicodeDb) (fromisoformat : Str → Option Stamp) (now : DateTime)
    (value : Value) (partitions : List Partition) (hmonthly : Monthly partitions)
    (hmissing : Unplaced (parseTimestamp fromisoformat now value) partitions) :
    MakesRoom U (parseTimestamp fromisoformat now value) partitions ↔
      ReadInOneMonth fromisoformat now value := by
  cases value with
  | datetime stamp =>
    cases stamp with
    | aware wall offset => exact makesRoom_aware_iff hmonthly (hmissing _ _ rfl)
    | naive wall => exact makesRoom_aware_iff hmonthly (hmissing _ _ rfl)
  | str s =>
    rw [parseTimestamp] at hmissing ⊢
    rw [ReadInOneMonth]
    generalize fromisoformat (withOffset s) = read at hmissing ⊢
    rcases read with _ | ⟨wall, offset⟩ | wall
    · exact makesRoom_aware_iff hmonthly (hmissing _ _ rfl)
    · exact makesRoom_aware_iff hmonthly (hmissing _ _ rfl)
    · exact iff_of_false not_makesRoom_naive id
  | other => exact makesRoom_aware_iff hmonthly (hmissing _ _ rfl)

/-- Five in the morning on the first of February 2026. -/
def february : DateTime :=
  ⟨2026, 2, 1, 5, 0, 0, 0, ⟨Nat.le_of_ble_eq_true rfl, Nat.le_of_ble_eq_true rfl⟩,
    ⟨Nat.le_of_ble_eq_true rfl, Nat.le_of_ble_eq_true rfl⟩,
    ⟨Nat.le_of_ble_eq_true rfl, Nat.le_of_ble_eq_true rfl⟩,
    ⟨Nat.le_of_ble_eq_true rfl, Nat.zero_lt_succ _, Nat.zero_lt_succ _, Nat.zero_lt_succ _⟩⟩

theorem seoul_bounds : -86400000000 < (32400000000 : ℤ) ∧ (32400000000 : ℤ) < 86400000000 := by
  omega

/-- Nine hours. -/
def seoul : Offset := ⟨32400000000, seoul_bounds⟩

theorem monthly_nil : Monthly [] :=
  ⟨fun _ hp => absurd hp List.not_mem_nil, List.nodup_nil⟩

theorem unplaced_nil (stamp : Stamp) : Unplaced stamp [] :=
  fun _ _ _ _ hp => absurd hp List.not_mem_nil

theorem instant_february : february.instant = monthStart february.monthNumber + 18000000000 := by
  rw [DateTime.instant, DateTime.dayNumber, monthStart]
  rfl

/-- A string that is no timestamp, in February. -/
theorem makesRoom_february :
    MakesRoom .ascii (parseTimestamp (fun _ => none) february (.str "today".toList)) [] ↔
      ReadInOneMonth (fun _ => none) february (.str "today".toList) :=
  makesRoom_iff .ascii (fun _ => none) february (.str "today".toList) [] monthly_nil
    (unplaced_nil _)

/-- In UTC the moment is one of January, and February is made. -/
theorem room_in_another_month : ¬ MakesRoomAlways := by
  intro h
  have hroom := h .ascii (fun _ => none) february (.datetime (.aware february seoul)) []
    monthly_nil (unplaced_nil _)
  have hmonth := (makesRoom_aware_iff monthly_nil
    fun p hp => absurd hp List.not_mem_nil).mp hroom
  have hpassed := hmonth.passed
  rw [instant_february] at hpassed
  have hticks : seoul.ticks = 32400000000 := rfl
  omega

end PartitionService

end OpenLangGraph

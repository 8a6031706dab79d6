import OpenLangGraph.Foundation.Json
import OpenLangGraph.Foundation.Table
import OpenLangGraph.Foundation.Transition
import OpenLangGraph.Services.LruRetryCache
import Mathlib.Data.List.Sort

/-!
# A batch of the audit outbox

`_move_batch` of `services/audit_outbox_service.py` moves entries from the outbox table to the audit
log in one transaction, row by row, each in a savepoint. Here is one batch by itself: what it does
to the counters in memory, and what it returns.

## In memory, before the commit

The retry counts and the metrics change row by row, and the transaction may still fail. They are
not put back then, and the number of rows that is returned counts rows that were rolled back. So a
failed batch leaves a trace, unless it fails before it has dealt with a row.

## Main definitions

* `OutboxRow`, `AuditLog`, `AuditOutboxService`
* `selectRows` — the rows of a batch
* `Batch`, `rowStep` — a batch under way, and its next step
* `Ending`, `endBatch` — how a batch can end, and what it returns
* `leavesNoTrace` — a step of a failing batch that cannot be seen afterwards

## Main results

* `traceless_iff` — when a batch leaves no trace
* `returns_one` — a failed batch that returns the number of rows it has not moved
-/

namespace OpenLangGraph

open Transition

namespace AuditOutbox

/-- `BATCH_SIZE` -/
def batchSize : ℕ := 500

/-- `MAX_RETRY_COUNT` -/
def maxRetryCount : ℕ := 3

/-- A row of `audit_logs_outbox`. -/
structure OutboxRow where
  id : String
  createdAt : ℕ
  payload : Json
  processed : Bool

/-- A row of `audit_logs`. The table does not say from which entry of the outbox a row comes; this
is `origin`. -/
structure AuditLog where
  origin : String
  id : Json
  timestamp : ℤ
  columns : List (String × Json)

/-- The counters that the mover changes. -/
structure AuditMetrics where
  moved : ℕ
  moverErrors : ℕ
  poisonPills : ℕ

structure AuditOutboxService where
  metrics : AuditMetrics
  retryCache : LruRetryCache

/-- The rows that the query of a batch returns and locks: unprocessed ones that nobody else has
locked, the oldest first. -/
def selectRows (outbox : Table OutboxRow.id) (locked : List String) : List OutboxRow :=
  ((outbox.rows.filter fun row => !row.processed && row.id ∉ locked).insertionSort
    fun a b => a.createdAt ≤ b.createdAt).take batchSize

/-! ### One row -/

/-- `_parse_timestamp`, for a value that comes from JSON. -/
def parseTimestamp (fromisoformat : String → Option ℤ) (now : ℤ) : Option Json → ℤ
  | some (.str value) =>
    let value := if value.endsWith "Z" then (value.dropEnd 1).toString ++ "+00:00" else value
    (fromisoformat value).getD now
  | _ => now

/-- The other columns, with the values they have when the payload says nothing. -/
def columnDefaults : List (String × Json) :=
  [("user_id", .str "unknown"), ("org_id", .null), ("action", .str "UNKNOWN"),
    ("resource_type", .str "unknown"), ("resource_id", .null), ("http_method", .str "UNKNOWN"),
    ("path", .str "/"), ("ip_address", .null), ("user_agent", .null), ("request_body", .null),
    ("response_summary", .null), ("status_code", .num (.finite 0)),
    ("duration_ms", .num (.finite 0)), ("error_message", .null), ("error_class", .null),
    ("is_streaming", .bool false), ("metadata", .obj [])]

/-- What the database and the clock answer while a row is inserted. -/
structure InsertAnswers where
  /-- The first `INSERT` and the release of its savepoint succeed. -/
  first : Bool
  /-- If not, the error is about a missing partition. -/
  isPartitionError : Bool
  /-- The partition is created. -/
  partitionCreated : Bool
  /-- The second `INSERT` and the release of its savepoint succeed. -/
  second : Bool
  /-- If not, the rollback to the second savepoint succeeds. -/
  rollback : Bool
  now : ℤ
  uuid : String

inductive RowResult
  | moved (log : AuditLog)
  | failed
  /-- The error of the rollback is caught with the others, and the transaction is aborted. -/
  | failedAborted

/-- The row for the audit log. -/
def auditLog (fromisoformat : String → Option ℤ) (row : OutboxRow)
    (members : List (String × Json)) (answers : InsertAnswers) : AuditLog where
  origin := row.id
  id := ((members.lookup "id").filter Json.truthy).getD (.str answers.uuid)
  timestamp := parseTimestamp fromisoformat answers.now (members.lookup "timestamp")
  columns := columnDefaults.map fun column => (column.1, (members.lookup column.1).getD column.2)

/-- The body of the loop for a row that is not a poison pill. A payload that is no object has no
`get`, which is an error like any other. -/
def attempt (fromisoformat : String → Option ℤ) (row : OutboxRow) (answers : InsertAnswers) :
    RowResult :=
  match row.payload with
  | .obj members =>
    if answers.first then .moved (auditLog fromisoformat row members answers)
    else if answers.isPartitionError && answers.partitionCreated then
      if answers.second then .moved (auditLog fromisoformat row members answers)
      else if answers.rollback then .failed
      else .failedAborted
    else .failed
  | _ => .failed

/-! ### A batch -/

/-- A batch under way: its rows, those that it has not begun, the one whose `INSERT` is under way,
and what it has done so far. -/
structure Batch where
  rows : List OutboxRow
  rest : List OutboxRow
  attempting : Option OutboxRow
  inserted : List AuditLog
  movedCount : ℕ
  successIds : List String
  poisonIds : List String
  aborted : Bool

def Batch.begin (rows : List OutboxRow) : Batch := ⟨rows, rows, none, [], 0, [], [], false⟩

/-- The rows that have not been dealt with. -/
def Batch.pendingIds (b : Batch) : List String := (b.attempting.toList ++ b.rest).map OutboxRow.id

/-- The loop turns to the next row, or the `INSERT` is answered. -/
inductive RowEvent
  | next
  | answered (answers : InsertAnswers)

/-- The next row is a poison pill, or its `INSERT` begins; in a transaction that is aborted it
cannot. -/
def nextRow (s : AuditOutboxService × Batch) : Option (AuditOutboxService × Batch) :=
  match s.2.attempting, s.2.rest with
  | none, row :: rest =>
    if maxRetryCount ≤ s.1.retryCache.get row.id then
      some
        (⟨{ s.1.metrics with poisonPills := s.1.metrics.poisonPills + 1 },
          s.1.retryCache.clear row.id⟩,
          { s.2 with rest, poisonIds := s.2.poisonIds ++ [row.id] })
    else if s.2.aborted then none
    else some (s.1, { s.2 with rest, attempting := some row })
  | _, _ => none

/-- What follows an answer. -/
def finishRow (s : AuditOutboxService × Batch) (row : OutboxRow) :
    RowResult → AuditOutboxService × Batch
  | .moved log =>
    ({ s.1 with retryCache := s.1.retryCache.clear row.id },
      { s.2 with
        attempting := none
        inserted := s.2.inserted ++ [log]
        movedCount := s.2.movedCount + 1
        successIds := s.2.successIds ++ [row.id] })
  | .failed =>
    ({ s.1 with retryCache := s.1.retryCache.increment row.id }, { s.2 with attempting := none })
  | .failedAborted =>
    ({ s.1 with retryCache := s.1.retryCache.increment row.id },
      { s.2 with attempting := none, aborted := true })

def rowStep (fromisoformat : String → Option ℤ) (s : AuditOutboxService × Batch) :
    RowEvent → Option (AuditOutboxService × Batch)
  | .next => nextRow s
  | .answered answers =>
    s.2.attempting.map fun row => finishRow s row (attempt fromisoformat row answers)

/-! ### How a batch ends -/

inductive Raised
  | exception
  | cancelled
deriving DecidableEq

/-- How a batch ends. -/
structure Ending where
  /-- All statements before the `COMMIT` have been executed. -/
  reached : Bool
  /-- The `COMMIT` has taken effect. An error can be raised all the same. -/
  committed : Bool
  raised : Option Raised

/-- An ending that is possible. The `COMMIT` of an aborted transaction is a rollback and no error;
the statements before it, which are made for rows that were moved or are poison pills, fail. -/
def Batch.canEnd (b : Batch) (ending : Ending) : Bool :=
  (!ending.committed || ending.reached && !b.aborted) &&
  (!ending.reached || b.rest.isEmpty && b.attempting.isNone &&
    (!b.aborted || b.successIds.isEmpty && b.poisonIds.isEmpty)) &&
  (ending.raised.isSome || ending.reached && (ending.committed || b.aborted))

/-- The service after the batch, and the number that `_move_batch` returns. A cancellation is no
`Exception`, and nothing is returned. -/
def endBatch (s : AuditOutboxService × Batch) (ending : Ending) :
    AuditOutboxService × Option ℕ :=
  ({ s.1 with
      metrics :=
        { s.1.metrics with
          moved := s.1.metrics.moved + if ending.reached then s.2.movedCount else 0
          moverErrors := s.1.metrics.moverErrors +
            if ending.raised = some .exception then 1 else 0 } },
    if ending.raised = some .cancelled then none else some s.2.movedCount)

/-! ### The rows of a batch -/

theorem mem_selectRows {outbox : Table OutboxRow.id} {locked : List String} {row : OutboxRow}
    (h : row ∈ selectRows outbox locked) :
    row ∈ outbox.rows ∧ row.processed = false ∧ row.id ∉ locked := by
  have hsorted := (List.mem_insertionSort _).mp (List.mem_of_mem_take h)
  obtain ⟨hmem, hboth⟩ := List.mem_filter.mp hsorted
  obtain ⟨hprocessed, hlocked⟩ := Bool.and_eq_true_iff.mp hboth
  exact ⟨hmem, by simpa using hprocessed, of_decide_eq_true hlocked⟩

/-- No entry is selected twice. -/
theorem nodup_selectRows (outbox : Table OutboxRow.id) (locked : List String) :
    ((selectRows outbox locked).map OutboxRow.id).Nodup := by
  have hfilter : ((outbox.rows.filter fun row => !row.processed && row.id ∉ locked).map
      OutboxRow.id).Nodup := outbox.unique.sublist (List.filter_sublist.map _)
  have hperm := (List.perm_insertionSort (fun a b : OutboxRow => a.createdAt ≤ b.createdAt)
    (outbox.rows.filter fun row => !row.processed && row.id ∉ locked)).map OutboxRow.id
  exact (hperm.nodup_iff.mpr hfilter).sublist ((List.take_sublist _ _).map _)

theorem length_selectRows (outbox : Table OutboxRow.id) (locked : List String) :
    (selectRows outbox locked).length ≤ batchSize := by
  rw [selectRows, List.length_take]
  exact Nat.min_le_left _ _

/-! ### What a step does -/

variable {fromisoformat : String → Option ℤ} {s s' : AuditOutboxService × Batch} {e : RowEvent}

/-- The next row is a poison pill. -/
def nextIsPoison (s : AuditOutboxService × Batch) : Bool :=
  s.2.rest.head?.any fun row => maxRetryCount ≤ s.1.retryCache.get row.id

theorem nextRow_eq_some (h : nextRow s = some s') :
    ∃ row rest, s.2.attempting = none ∧ s.2.rest = row :: rest ∧
      ((maxRetryCount ≤ s.1.retryCache.get row.id ∧
          s' = (⟨{ s.1.metrics with poisonPills := s.1.metrics.poisonPills + 1 },
            s.1.retryCache.clear row.id⟩,
            { s.2 with rest, poisonIds := s.2.poisonIds ++ [row.id] })) ∨
        (¬ maxRetryCount ≤ s.1.retryCache.get row.id ∧ s.2.aborted = false ∧
          s' = (s.1, { s.2 with rest, attempting := some row }))) := by
  rw [nextRow] at h
  split at h
  · rename_i row rest hattempting hrest
    refine ⟨row, rest, hattempting, hrest, ?_⟩
    split at h
    · rename_i hpoison
      exact .inl ⟨hpoison, (Option.some.inj h).symm⟩
    · rename_i hpoison
      split at h
      · cases h
      · rename_i haborted
        exact .inr ⟨hpoison, by simpa using haborted, (Option.some.inj h).symm⟩
  · cases h

theorem pendingIds_nextRow {row : OutboxRow} {rest : List OutboxRow}
    (hattempting : s.2.attempting = none) (hrest : s.2.rest = row :: rest) :
    s.2.pendingIds = row.id :: rest.map OutboxRow.id := by
  rw [Batch.pendingIds, hattempting, hrest]
  rfl

theorem pendingIds_finishRow {row : OutboxRow} {result : RowResult}
    (hattempting : s.2.attempting = some row) :
    s.2.pendingIds = row.id :: (finishRow s row result).2.pendingIds := by
  rw [Batch.pendingIds, hattempting]
  cases result <;> rfl

/-- **What a step does** to the counters: nothing, or it deals with the first pending row. -/
theorem rowStep_cases (h : rowStep fromisoformat s e = some s') :
    (s'.1 = s.1 ∧ s'.2.movedCount = s.2.movedCount ∧ s'.2.pendingIds = s.2.pendingIds) ∨
    ∃ id, s.2.pendingIds = id :: s'.2.pendingIds ∧ s.2.movedCount ≤ s'.2.movedCount ∧
      s.1.metrics.poisonPills ≤ s'.1.metrics.poisonPills ∧
      s'.1.metrics.moved = s.1.metrics.moved ∧
      (s'.1.retryCache = s.1.retryCache.clear id ∨
        s'.1.retryCache = s.1.retryCache.increment id) := by
  cases e with
  | next =>
    obtain ⟨row, rest, hattempting, hrest, ⟨-, rfl⟩ | ⟨-, -, rfl⟩⟩ := nextRow_eq_some h
    · refine .inr ⟨row.id, ?_, Nat.le_refl _, Nat.le_succ _, rfl, .inl rfl⟩
      rw [pendingIds_nextRow hattempting hrest, Batch.pendingIds, hattempting]
      rfl
    · refine .inl ⟨rfl, rfl, ?_⟩
      rw [pendingIds_nextRow hattempting hrest, Batch.pendingIds]
      rfl
  | answered answers =>
    obtain ⟨row, hattempting, rfl⟩ := Option.map_eq_some_iff.mp h
    refine .inr ⟨row.id, pendingIds_finishRow hattempting, ?_⟩
    cases attempt fromisoformat row answers with
    | moved log => exact ⟨Nat.le_succ _, Nat.le_refl _, rfl, .inl rfl⟩
    | failed => exact ⟨Nat.le_refl _, Nat.le_refl _, rfl, .inr rfl⟩
    | failedAborted => exact ⟨Nat.le_refl _, Nat.le_refl _, rfl, .inr rfl⟩

/-! ### Traces -/

/-- The step of a batch with the given ending cannot be seen afterwards. -/
def leavesNoTrace (fromisoformat : String → Option ℤ) (ending : Ending)
    (s : AuditOutboxService × Batch) : RowEvent → Bool
  | .next => !nextIsPoison s
  | .answered answers => s.2.attempting.all fun row =>
    match attempt fromisoformat row answers with
    | .moved _ => ending.raised = some .cancelled && !ending.reached &&
      s.1.retryCache.get row.id = 0
    | _ => false

/-- The batch returns nothing but 0, and the counters are what they were. -/
structure Traceless (before : AuditOutboxService) (after : AuditOutboxService × Option ℕ) :
    Prop where
  returned : ∀ n, after.2 = some n → n = 0
  retryCounts : ∀ id, after.1.retryCache.get id = before.retryCache.get id
  moved : after.1.metrics.moved = before.metrics.moved
  poisonPills : after.1.metrics.poisonPills = before.metrics.poisonPills

/-- So far nothing will be seen. -/
structure Untouched (before : AuditOutboxService) (ending : Ending)
    (s : AuditOutboxService × Batch) : Prop where
  retryCounts : ∀ id, s.1.retryCache.get id = before.retryCache.get id
  moved : s.1.metrics.moved = before.metrics.moved
  poisonPills : s.1.metrics.poisonPills = before.metrics.poisonPills
  count : s.2.movedCount = 0 ∨ (ending.raised = some .cancelled ∧ ending.reached = false)

/-- Something will be seen: a poison pill has been counted, or a row that will be returned or
counted, or a retry count has changed that the rest of the batch does not touch. -/
def Touched (before : AuditOutboxService) (ending : Ending) (s : AuditOutboxService × Batch) :
    Prop :=
  before.metrics.poisonPills < s.1.metrics.poisonPills ∨
  (0 < s.2.movedCount ∧ s.1.metrics.moved = before.metrics.moved ∧
    ¬ (ending.raised = some .cancelled ∧ ending.reached = false)) ∨
  ∃ id, id ∉ s.2.pendingIds ∧
    ((before.retryCache.get id ≠ 0 ∧ s.1.retryCache.get id = 0) ∨
      ∃ n m, n ≠ before.retryCache.get id ∧ s.1.retryCache.Recent id n m ∧
        m + s.2.pendingIds.length < maxRetryCacheSize)

variable {before : AuditOutboxService} {ending : Ending}

theorem untouched_step (hs : Untouched before ending s)
    (hno : leavesNoTrace fromisoformat ending s e = true)
    (h : rowStep fromisoformat s e = some s') : Untouched before ending s' := by
  cases e with
  | next =>
    obtain ⟨row, rest, -, hrest, ⟨hpoison, -⟩ | ⟨-, -, rfl⟩⟩ := nextRow_eq_some h
    · rw [leavesNoTrace, nextIsPoison, hrest] at hno
      simp [hpoison] at hno
    · exact ⟨hs.retryCounts, hs.moved, hs.poisonPills, hs.count⟩
  | answered answers =>
    obtain ⟨row, hattempting, rfl⟩ := Option.map_eq_some_iff.mp h
    rw [leavesNoTrace, hattempting, Option.all_some] at hno
    cases hresult : attempt fromisoformat row answers with
    | moved log =>
      rw [hresult] at hno
      obtain ⟨hending, hzero⟩ := Bool.and_eq_true_iff.mp hno
      obtain ⟨hcancelled, hreached⟩ := Bool.and_eq_true_iff.mp hending
      refine ⟨fun id => ?_, hs.moved, hs.poisonPills,
        .inr ⟨of_decide_eq_true hcancelled, by simpa using hreached⟩⟩
      show (s.1.retryCache.clear row.id).get id = _
      rw [LruRetryCache.get_clear]
      split
      · rename_i hid
        rw [hid, ← hs.retryCounts row.id]
        exact (of_decide_eq_true hzero).symm
      · exact hs.retryCounts id
    | failed =>
      rw [hresult] at hno
      cases hno
    | failedAborted =>
      rw [hresult] at hno
      cases hno

/-- A failed attempt is counted, and stays counted for the rest of the batch. -/
theorem touched_of_increment {id : String} (hs : Untouched before ending s)
    (hunique : s.2.pendingIds.Nodup) (hlength : s.2.pendingIds.length ≤ batchSize)
    (hpending : s.2.pendingIds = id :: s'.2.pendingIds)
    (hcache : s'.1.retryCache = s.1.retryCache.increment id) : Touched before ending s' := by
  rw [hpending] at hunique hlength
  refine .inr (.inr ⟨id, (List.nodup_cons.mp hunique).1, .inr ?_⟩)
  refine ⟨s.1.retryCache.get id + 1, 0, ?_, ?_, ?_⟩
  · rw [hs.retryCounts id]
    omega
  · rw [hcache]
    exact LruRetryCache.recent_increment_self _ _
  · rw [List.length_cons, batchSize] at hlength
    rw [maxRetryCacheSize]
    omega

theorem touched_of_trace (hs : Untouched before ending s) (hunique : s.2.pendingIds.Nodup)
    (hlength : s.2.pendingIds.length ≤ batchSize)
    (htrace : leavesNoTrace fromisoformat ending s e = false)
    (h : rowStep fromisoformat s e = some s') : Touched before ending s' := by
  cases e with
  | next =>
    obtain ⟨row, rest, -, hrest, ⟨-, rfl⟩ | ⟨hpoison, -, -⟩⟩ := nextRow_eq_some h
    · refine .inl ?_
      show before.metrics.poisonPills < s.1.metrics.poisonPills + 1
      rw [hs.poisonPills]
      exact Nat.lt_succ_self _
    · rw [leavesNoTrace, nextIsPoison, hrest] at htrace
      simp [hpoison] at htrace
  | answered answers =>
    obtain ⟨row, hattempting, rfl⟩ := Option.map_eq_some_iff.mp h
    rw [leavesNoTrace, hattempting, Option.all_some] at htrace
    have hpending : ∀ result, s.2.pendingIds = row.id :: (finishRow s row result).2.pendingIds :=
      fun _ => pendingIds_finishRow hattempting
    cases hresult : attempt fromisoformat row answers with
    | moved log =>
      rw [hresult] at htrace
      by_cases hquiet : ending.raised = some .cancelled ∧ ending.reached = false
      · have hcount : s.1.retryCache.get row.id ≠ 0 := by
          simpa [hquiet.1, hquiet.2] using htrace
        rw [hpending (.moved log)] at hunique
        refine .inr (.inr ⟨row.id, (List.nodup_cons.mp hunique).1, .inl ⟨?_, ?_⟩⟩)
        · rwa [← hs.retryCounts]
        · show (s.1.retryCache.clear row.id).get row.id = 0
          rw [LruRetryCache.get_clear, if_pos rfl]
      · exact .inr (.inl ⟨Nat.succ_pos _, hs.moved, hquiet⟩)
    | failed => exact touched_of_increment hs hunique hlength (hpending _) rfl
    | failedAborted => exact touched_of_increment hs hunique hlength (hpending _) rfl

theorem touched_step (hs : Touched before ending s) (h : rowStep fromisoformat s e = some s') :
    Touched before ending s' := by
  rcases rowStep_cases h with ⟨hservice, hmoved, hpending⟩ |
    ⟨id, hpending, hmoved, hpoison, hmetric, hcache⟩
  · rw [Touched, hservice, hmoved, hpending]
    exact hs
  · rcases hs with hpills | ⟨hcount, hsame, hquiet⟩ | ⟨id', hid', hchanged⟩
    · exact .inl (Nat.lt_of_lt_of_le hpills hpoison)
    · exact .inr (.inl ⟨Nat.lt_of_lt_of_le hcount hmoved, hmetric.trans hsame, hquiet⟩)
    · rw [hpending] at hid' hchanged
      obtain ⟨hne, hid'⟩ := not_or.mp (List.mem_cons.not.mp hid')
      refine .inr (.inr ⟨id', hid', ?_⟩)
      rcases hchanged with ⟨hbefore, hzero⟩ | ⟨n, m, hn, hrecent, hlength⟩
      · refine .inl ⟨hbefore, ?_⟩
        rcases hcache with hcache | hcache
        · rw [hcache, LruRetryCache.get_clear, if_neg hne, hzero]
        · have hle := s.1.retryCache.get_increment_other hne
          rw [hcache]
          omega
      · rw [List.length_cons] at hlength
        rcases hcache with hcache | hcache
        · exact .inr ⟨n, m, hn, hcache ▸ hrecent.clear hne, by omega⟩
        · exact .inr ⟨n, m + 1, hn, hcache ▸ hrecent.increment hne (by omega), by omega⟩

theorem traceless_of_untouched (hs : Untouched before ending s) :
    Traceless before (endBatch s ending) := by
  refine ⟨fun n hn => ?_, hs.retryCounts, ?_, hs.poisonPills⟩
  · have hreturned : (if ending.raised = some .cancelled then none else some s.2.movedCount) =
        some n := hn
    by_cases hcancelled : ending.raised = some .cancelled
    · rw [if_pos hcancelled] at hreturned
      cases hreturned
    · rw [if_neg hcancelled] at hreturned
      exact (Option.some.inj hreturned).symm.trans
        (hs.count.resolve_right fun hquiet => hcancelled hquiet.1)
  · show s.1.metrics.moved + (if ending.reached then s.2.movedCount else 0) = _
    rw [hs.moved]
    rcases hs.count with hzero | ⟨-, hreached⟩
    · simp [hzero]
    · simp [hreached]

theorem not_traceless_of_touched (hs : Touched before ending s) :
    ¬ Traceless before (endBatch s ending) := by
  intro htraceless
  rcases hs with hpills | ⟨hcount, hsame, hquiet⟩ | ⟨id, -, hchanged⟩
  · exact Nat.ne_of_gt hpills htraceless.poisonPills
  · by_cases hcancelled : ending.raised = some .cancelled
    · have hreached : ending.reached = true := by simpa [hcancelled] using hquiet
      have hmoved : s.1.metrics.moved + (if ending.reached then s.2.movedCount else 0) =
          before.metrics.moved := htraceless.moved
      rw [if_pos hreached] at hmoved
      omega
    · have hzero := htraceless.returned s.2.movedCount (if_neg hcancelled)
      omega
  · have hget : s.1.retryCache.get id = before.retryCache.get id := htraceless.retryCounts id
    rcases hchanged with ⟨hbefore, hzero⟩ | ⟨n, m, hn, hrecent, -⟩
    · exact hbefore (hget.symm.trans hzero)
    · exact hn (hrecent.get_eq.symm.trans hget)

/-- A batch that is traceless in the end has left no trace at any step. -/
theorem along_of_traceless {events : List RowEvent} (hs : Untouched before ending s)
    (hunique : s.2.pendingIds.Nodup) (hlength : s.2.pendingIds.length ≤ batchSize)
    (h : exec (rowStep fromisoformat) s events = some s')
    (htraceless : Traceless before (endBatch s' ending)) :
    Along (rowStep fromisoformat) (fun s e => leavesNoTrace fromisoformat ending s e = true) s
      events := by
  induction events generalizing s with
  | nil => trivial
  | cons e events ih =>
    obtain ⟨t, hstep, hrest⟩ := exec_cons_eq_some.mp h
    cases hno : leavesNoTrace fromisoformat ending s e with
    | false =>
      have htouched := touched_of_trace hs hunique hlength hno hstep
      have hlast : Touched before ending s' := exec_invariant (P := fun _ _ => True)
        (fun _ _ _ hs _ hstep => touched_step hs hstep) htouched (along_true _ _) hrest
      exact absurd htraceless (not_traceless_of_touched hlast)
    | true =>
      refine ⟨hno, fun u hu => ?_⟩
      obtain rfl := Option.some.inj (hstep.symm.trans hu)
      have hsub : t.2.pendingIds.Sublist s.2.pendingIds := by
        rcases rowStep_cases hstep with ⟨-, -, hsame⟩ | ⟨id, hcons, -⟩
        · rw [hsame]
        · rw [hcons]
          exact List.sublist_cons_self _ _
      exact ih (untouched_step hs hno hstep) (hunique.sublist hsub)
        (Nat.le_trans hsub.length_le hlength) hrest

/-- **When a batch leaves no trace**, however it ends: exactly if it ends before a row has been
dealt with, or is cancelled when it has only moved rows that had not failed before. -/
theorem traceless_iff (fromisoformat : String → Option ℤ) (service : AuditOutboxService)
    (outbox : Table OutboxRow.id) (locked : List String) {events : List RowEvent} (ending : Ending)
    {s : AuditOutboxService × Batch}
    (hrun : exec (rowStep fromisoformat) (service, .begin (selectRows outbox locked)) events =
      some s) :
    Traceless service (endBatch s ending) ↔
      Along (rowStep fromisoformat) (fun s e => leavesNoTrace fromisoformat ending s e = true)
        (service, .begin (selectRows outbox locked)) events := by
  have hbegin : Untouched service ending (service, .begin (selectRows outbox locked)) :=
    ⟨fun _ => rfl, rfl, rfl, .inl rfl⟩
  constructor
  · exact along_of_traceless hbegin (nodup_selectRows outbox locked)
      (by simpa [Batch.pendingIds, Batch.begin] using length_selectRows outbox locked) hrun
  · intro halong
    exact traceless_of_untouched
      (exec_invariant (fun _ _ _ hs hno hstep => untouched_step hs hno hstep) hbegin halong hrun)

/-! ### A commit that fails -/

/-- An entry with an empty payload. -/
def exampleRow : OutboxRow where
  id := "entry"
  createdAt := 0
  payload := .obj []
  processed := false

def exampleOutbox : Table OutboxRow.id := .single exampleRow

def exampleService : AuditOutboxService := ⟨⟨0, 0, 0⟩, .empty⟩

/-- The `INSERT` succeeds. -/
def succeeds : InsertAnswers := ⟨true, false, false, false, false, 0, "log"⟩

/-- The connection is lost while the first row is inserted. -/
theorem traceless_connection_lost :
    Traceless exampleService (endBatch
      (exampleService, ⟨[exampleRow], [], some exampleRow, [], 0, [], [], false⟩)
      ⟨false, false, some .exception⟩) :=
  (traceless_iff (fun _ => none) exampleService exampleOutbox [] _
    (rfl : exec (rowStep fun _ => none) _ [.next] = _)).mpr ⟨by decide, fun _ _ => trivial⟩

/-- **A failed batch that returns the number of rows it has not moved**: its row is inserted, and
the `COMMIT` raises an error. -/
theorem returns_one :
    ¬ ∀ (service : AuditOutboxService) (outbox : Table OutboxRow.id) (events : List RowEvent)
      (s : AuditOutboxService × Batch) (ending : Ending),
      exec (rowStep fun _ => none) (service, .begin (selectRows outbox [])) events = some s →
      s.2.canEnd ending = true → ending.committed = false →
      Traceless service (endBatch s ending) := by
  intro h
  have htraceless := h exampleService exampleOutbox [.next, .answered succeeds] _
    ⟨true, false, some .exception⟩ rfl rfl rfl
  have hreturned := htraceless.returned 1 rfl
  exact absurd hreturned (by decide)

end AuditOutbox

end OpenLangGraph

import OpenLangGraph.Foundation.Savepoints
import OpenLangGraph.Services.AuditMovers

/-!
# The locks of a batch of the audit outbox

`_move_batch` inserts into a partitioned table, and when a partition is missing it awaits
`create_partition_for_date` of `services/partition_service.py`, which creates it on a connection of
its own. Here is one batch with the locks that its transaction holds on the parent table.

## Waiting for oneself

An `INSERT` takes `ROW EXCLUSIVE` on the parent table, and `CREATE TABLE … PARTITION OF` needs
`ACCESS EXCLUSIVE` on it. The lock of an `INSERT` that failed is given up with its savepoint. That
of one that succeeded is kept until the transaction ends, which is after the creation. So a
missing partition can be created as long as the batch has moved nothing.

## Main definitions

* `Mover`, `MoverLabel`, `Mover.step` — a batch, await by await, with its locks
* `Mover.WaitsForItself` — the creation waits for a lock of the batch

## Main results

* `Mover.step_refines` — every step is one of `rowStep`, or changes nothing that it sees
* `Mover.forall_not_waits_iff` — when a batch never waits for itself
* `Mover.stuck` — a batch that waits for itself waits until the creation is given up
-/

namespace OpenLangGraph

open Transition Savepoints

namespace AuditOutbox

/-- The modes in which the parent table is locked. -/
inductive TableLock
  | rowExclusive
  | accessExclusive
deriving DecidableEq

/-- Two transactions cannot hold these at the same time. -/
def TableLock.conflicts : TableLock → TableLock → Bool
  | .rowExclusive, .rowExclusive => false
  | _, _ => true

/-- The await that a batch is at. -/
inductive MoverStage
  /-- the loop turns to the next row, or is over -/
  | between
  /-- `begin_nested` -/
  | opening
  /-- the `INSERT` and the release of its savepoint -/
  | inserting (log : AuditLog)
  /-- in `create_partition_for_date`, up to the query of `pg_tables` -/
  | checking (log : AuditLog)
  /-- in `create_partition_for_date`, from `CREATE TABLE` to the commit -/
  | creating (log : AuditLog)
  /-- the second `INSERT` and the release of its savepoint -/
  | retrying (log : AuditLog)

/-- What the query of `pg_tables` finds, if it comes to that. -/
inductive CheckAnswer
  | exists
  | missing
  | raises

structure Mover where
  state : AuditOutboxService × Batch
  stage : MoverStage
  locks : Locks TableLock

/-- How the await of each stage ends. -/
inductive MoverLabel
  | next
  | opened (now : ℤ) (uuid : String)
  | inserted (ok isPartitionError : Bool)
  | checked (answer : CheckAnswer)
  | created (ok : Bool)
  | retried (ok rollback : Bool)

/-- The row for the audit log, from what the clock and `uuid4` return. -/
def auditLogAt (fromisoformat : String → Option ℤ) (row : OutboxRow)
    (members : List (String × Json)) (now : ℤ) (uuid : String) : AuditLog :=
  auditLog fromisoformat row members ⟨true, false, false, false, false, now, uuid⟩

namespace Mover

def begin (service : AuditOutboxService) (rows : List OutboxRow) : Mover :=
  { state := (service, .begin rows), stage := .between, locks := .empty }

/-- The creation of a partition waits for a lock that the transaction of the batch holds. -/
def waitsForItself (s : Mover) : Bool :=
  match s.stage with
  | .creating _ => s.locks.held.any (TableLock.conflicts .accessExclusive)
  | _ => false

/-- The row at hand has been dealt with. -/
def finish (s : Mover) (row : OutboxRow) (result : RowResult) (locks : Locks TableLock) : Mover :=
  { state := finishRow s.state row result, stage := .between, locks }

/-- A savepoint is set, and an `INSERT` begins in it. -/
def insertLocks (locks : Locks TableLock) : Locks TableLock :=
  locks.beginNested.acquire .rowExclusive

/-- The `INSERT` begins. A payload that is no object has no `get`; this error is not about a
partition. -/
def openRow (fromisoformat : String → Option ℤ) (s : Mover) (row : OutboxRow) (now : ℤ)
    (uuid : String) : Mover :=
  match row.payload with
  | .obj members =>
    { s with
      stage := .inserting (auditLogAt fromisoformat row members now uuid)
      locks := insertLocks s.locks }
  | _ => s.finish row .failed s.locks.beginNested.rollback

def insertRow (s : Mover) (row : OutboxRow) (log : AuditLog) (ok isPartitionError : Bool) : Mover :=
  if ok then s.finish row (.moved log) s.locks.release
  else if isPartitionError then { s with stage := .checking log, locks := s.locks.rollback }
  else s.finish row .failed s.locks.rollback

def checkPartition (s : Mover) (row : OutboxRow) (log : AuditLog) : CheckAnswer → Mover
  | .exists => { s with stage := .retrying log, locks := insertLocks s.locks }
  | .missing => { s with stage := .creating log }
  | .raises => s.finish row .failed s.locks

/-- The creation succeeds only when it has its lock. -/
def createPartition (s : Mover) (row : OutboxRow) (log : AuditLog) (ok : Bool) : Option Mover :=
  if ok then
    if s.waitsForItself then none
    else some { s with stage := .retrying log, locks := insertLocks s.locks }
  else some (s.finish row .failed s.locks)

def retryRow (s : Mover) (row : OutboxRow) (log : AuditLog) (ok rollback : Bool) : Mover :=
  if ok then s.finish row (.moved log) s.locks.release
  else if rollback then s.finish row .failed s.locks.rollback
  else s.finish row .failedAborted s.locks

def step (fromisoformat : String → Option ℤ) (s : Mover) : MoverLabel → Option Mover
  | .next =>
    match s.stage with
    | .between => (nextRow s.state).map fun state =>
      { s with state, stage := if state.2.attempting.isSome then .opening else .between }
    | _ => none
  | .opened now uuid =>
    match s.stage, s.state.2.attempting with
    | .opening, some row => some (s.openRow fromisoformat row now uuid)
    | _, _ => none
  | .inserted ok isPartitionError =>
    match s.stage, s.state.2.attempting with
    | .inserting log, some row => some (s.insertRow row log ok isPartitionError)
    | _, _ => none
  | .checked answer =>
    match s.stage, s.state.2.attempting with
    | .checking log, some row => some (s.checkPartition row log answer)
    | _, _ => none
  | .created ok =>
    match s.stage, s.state.2.attempting with
    | .creating log, some row => s.createPartition row log ok
    | _, _ => none
  | .retried ok rollback =>
    match s.stage, s.state.2.attempting with
    | .retrying log, some row => some (s.retryRow row log ok rollback)
    | _, _ => none

/-! ### What a step can do -/

section steps

variable {fromisoformat : String → Option ℤ} {s s' : Mover} {l : MoverLabel}

/-- What a step can do, one constructor for each thing. -/
inductive Moves (fromisoformat : String → Option ℤ) (s : Mover) : MoverLabel → Mover → Prop
  | next {state : AuditOutboxService × Batch} (hstage : s.stage = .between)
      (hnext : nextRow s.state = some state) :
      Moves fromisoformat s .next
        { s with state, stage := if state.2.attempting.isSome then .opening else .between }
  | opened {row : OutboxRow} {members : List (String × Json)} (now : ℤ) (uuid : String)
      (hstage : s.stage = .opening) (hrow : s.state.2.attempting = some row)
      (hpayload : row.payload = .obj members) :
      Moves fromisoformat s (.opened now uuid)
        { s with
          stage := .inserting (auditLogAt fromisoformat row members now uuid)
          locks := insertLocks s.locks }
  | noObject {row : OutboxRow} (now : ℤ) (uuid : String) (hstage : s.stage = .opening)
      (hrow : s.state.2.attempting = some row)
      (hpayload : ∀ members, row.payload ≠ .obj members) :
      Moves fromisoformat s (.opened now uuid) (s.finish row .failed s.locks)
  | inserted {row : OutboxRow} {log : AuditLog} (isPartitionError : Bool)
      (hstage : s.stage = .inserting log) (hrow : s.state.2.attempting = some row) :
      Moves fromisoformat s (.inserted true isPartitionError)
        (s.finish row (.moved log) s.locks.release)
  | partitionError {row : OutboxRow} {log : AuditLog} (hstage : s.stage = .inserting log)
      (hrow : s.state.2.attempting = some row) :
      Moves fromisoformat s (.inserted false true)
        { s with stage := .checking log, locks := s.locks.rollback }
  | otherError {row : OutboxRow} {log : AuditLog} (hstage : s.stage = .inserting log)
      (hrow : s.state.2.attempting = some row) :
      Moves fromisoformat s (.inserted false false) (s.finish row .failed s.locks.rollback)
  | exists {row : OutboxRow} {log : AuditLog} (hstage : s.stage = .checking log)
      (hrow : s.state.2.attempting = some row) :
      Moves fromisoformat s (.checked .exists)
        { s with stage := .retrying log, locks := insertLocks s.locks }
  | missing {row : OutboxRow} {log : AuditLog} (hstage : s.stage = .checking log)
      (hrow : s.state.2.attempting = some row) :
      Moves fromisoformat s (.checked .missing) { s with stage := .creating log }
  | checkRaises {row : OutboxRow} {log : AuditLog} (hstage : s.stage = .checking log)
      (hrow : s.state.2.attempting = some row) :
      Moves fromisoformat s (.checked .raises) (s.finish row .failed s.locks)
  | created {row : OutboxRow} {log : AuditLog} (hstage : s.stage = .creating log)
      (hrow : s.state.2.attempting = some row) (hwaits : s.waitsForItself = false) :
      Moves fromisoformat s (.created true)
        { s with stage := .retrying log, locks := insertLocks s.locks }
  | createFails {row : OutboxRow} {log : AuditLog} (hstage : s.stage = .creating log)
      (hrow : s.state.2.attempting = some row) :
      Moves fromisoformat s (.created false) (s.finish row .failed s.locks)
  | retried {row : OutboxRow} {log : AuditLog} (rollback : Bool) (hstage : s.stage = .retrying log)
      (hrow : s.state.2.attempting = some row) :
      Moves fromisoformat s (.retried true rollback) (s.finish row (.moved log) s.locks.release)
  | retryFails {row : OutboxRow} {log : AuditLog} (hstage : s.stage = .retrying log)
      (hrow : s.state.2.attempting = some row) :
      Moves fromisoformat s (.retried false true) (s.finish row .failed s.locks.rollback)
  | retryAborts {row : OutboxRow} {log : AuditLog} (hstage : s.stage = .retrying log)
      (hrow : s.state.2.attempting = some row) :
      Moves fromisoformat s (.retried false false) (s.finish row .failedAborted s.locks)

/-- **What a step can do.** -/
theorem step_cases (h : step fromisoformat s l = some s') : Moves fromisoformat s l s' := by
  cases l with
  | next =>
    rw [step] at h
    split at h
    · rename_i hstage
      obtain ⟨state, hnext, rfl⟩ := Option.map_eq_some_iff.mp h
      exact .next hstage hnext
    · cases h
  | opened now uuid =>
    rw [step] at h
    split at h
    · rename_i row hstage hrow
      obtain rfl := Option.some.inj h
      rw [openRow]
      split
      · rename_i members hpayload
        exact .opened now uuid hstage hrow hpayload
      · rename_i hpayload
        exact .noObject now uuid hstage hrow hpayload
    · cases h
  | inserted ok isPartitionError =>
    rw [step] at h
    split at h
    · rename_i log row hstage hrow
      obtain rfl := Option.some.inj h
      match ok, isPartitionError with
      | true, _ => exact .inserted _ hstage hrow
      | false, true => exact .partitionError hstage hrow
      | false, false => exact .otherError hstage hrow
    · cases h
  | checked answer =>
    rw [step] at h
    split at h
    · rename_i log row hstage hrow
      obtain rfl := Option.some.inj h
      match answer with
      | .exists => exact .exists hstage hrow
      | .missing => exact .missing hstage hrow
      | .raises => exact .checkRaises hstage hrow
    · cases h
  | created ok =>
    rw [step] at h
    split at h
    · rename_i log row hstage hrow
      rw [createPartition] at h
      split at h
      · rename_i hok
        subst hok
        split at h
        · cases h
        · rename_i hwaits
          obtain rfl := Option.some.inj h
          exact .created hstage hrow (by simpa using hwaits)
      · rename_i hok
        obtain rfl := Option.some.inj h
        obtain rfl : ok = false := by simpa using hok
        exact .createFails hstage hrow
    · cases h
  | retried ok rollback =>
    rw [step] at h
    split at h
    · rename_i log row hstage hrow
      obtain rfl := Option.some.inj h
      match ok, rollback with
      | true, _ => exact .retried _ hstage hrow
      | false, true => exact .retryFails hstage hrow
      | false, false => exact .retryAborts hstage hrow
    · cases h

/-! ### The locks -/

/-- The transaction has locked the parent table exactly if the batch has moved a row. -/
def HoldsIfMoved (locks : Locks TableLock) (b : Batch) : Prop :=
  ∀ i, i ∈ locks.held ↔ i = .rowExclusive ∧ b.movedCount ≠ 0

/-- What holds of the locks at each await. In a transaction that is aborted the loop inserts
nothing more. -/
def LocksFit (s : Mover) : Prop :=
  match s.stage with
  | .between => s.state.2.aborted = false → HoldsIfMoved s.locks s.state.2
  | .opening | .checking _ | .creating _ => HoldsIfMoved s.locks s.state.2
  | .inserting _ | .retrying _ =>
    ∃ locks, s.locks = insertLocks locks ∧ HoldsIfMoved locks s.state.2

theorem locksFit_begin (service : AuditOutboxService) (rows : List OutboxRow) :
    (begin service rows).LocksFit := by
  intro _ i
  show i ∈ [] ↔ i = .rowExclusive ∧ 0 ≠ 0
  simp

/-- The lock of an `INSERT` that succeeded is kept. -/
theorem holdsIfMoved_release {locks : Locks TableLock} {state : AuditOutboxService × Batch}
    (row : OutboxRow) (log : AuditLog) (h : HoldsIfMoved locks state.2) :
    HoldsIfMoved (insertLocks locks).release (finishRow state row (.moved log)).2 := by
  intro i
  show i ∈ (insertLocks locks).release.held ↔ i = .rowExclusive ∧ state.2.movedCount + 1 ≠ 0
  rw [Locks.mem_held_release, insertLocks, Locks.mem_held_acquire, Locks.held_beginNested, h i]
  constructor
  · rintro (hi | ⟨hi, -⟩)
    · exact ⟨hi, Nat.succ_ne_zero _⟩
    · exact ⟨hi, Nat.succ_ne_zero _⟩
  · exact fun hi => .inl hi.1

theorem holdsIfMoved_nextRow {locks : Locks TableLock} {state state' : AuditOutboxService × Batch}
    (h : HoldsIfMoved locks state.2) (hnext : nextRow state = some state') :
    HoldsIfMoved locks state'.2 := by
  obtain ⟨row, rest, -, -, ⟨-, rfl⟩ | ⟨-, -, rfl⟩⟩ := nextRow_eq_some hnext
  · exact h
  · exact h

theorem locksFit_step (hs : s.LocksFit) (h : step fromisoformat s l = some s') : s'.LocksFit := by
  cases step_cases h with
  | next hstage hnext =>
    rw [LocksFit, hstage] at hs
    obtain ⟨row, rest, hattempting, -, ⟨-, rfl⟩ | ⟨-, haborted, rfl⟩⟩ := nextRow_eq_some hnext
    · rw [hattempting]
      exact fun haborted => holdsIfMoved_nextRow (hs haborted) hnext
    · exact holdsIfMoved_nextRow (hs haborted) hnext
  | opened now uuid hstage hrow hpayload =>
    rw [LocksFit, hstage] at hs
    exact ⟨s.locks, rfl, hs⟩
  | noObject now uuid hstage hrow hpayload =>
    rw [LocksFit, hstage] at hs
    exact fun _ => hs
  | inserted isPartitionError hstage hrow =>
    rw [LocksFit, hstage] at hs
    obtain ⟨locks, hlocks, hs⟩ := hs
    rw [hlocks]
    exact fun _ => holdsIfMoved_release _ _ hs
  | partitionError hstage hrow =>
    rw [LocksFit, hstage] at hs
    obtain ⟨locks, hlocks, hs⟩ := hs
    rw [hlocks]
    exact hs
  | otherError hstage hrow =>
    rw [LocksFit, hstage] at hs
    obtain ⟨locks, hlocks, hs⟩ := hs
    rw [hlocks]
    exact fun _ => hs
  | «exists» hstage hrow =>
    rw [LocksFit, hstage] at hs
    exact ⟨s.locks, rfl, hs⟩
  | missing hstage hrow =>
    rw [LocksFit, hstage] at hs
    exact hs
  | checkRaises hstage hrow =>
    rw [LocksFit, hstage] at hs
    exact fun _ => hs
  | created hstage hrow hwaits =>
    rw [LocksFit, hstage] at hs
    exact ⟨s.locks, rfl, hs⟩
  | createFails hstage hrow =>
    rw [LocksFit, hstage] at hs
    exact fun _ => hs
  | retried rollback hstage hrow =>
    rw [LocksFit, hstage] at hs
    obtain ⟨locks, hlocks, hs⟩ := hs
    rw [hlocks]
    exact fun _ => holdsIfMoved_release _ _ hs
  | retryFails hstage hrow =>
    rw [LocksFit, hstage] at hs
    obtain ⟨locks, hlocks, hs⟩ := hs
    rw [hlocks]
    exact fun _ => hs
  | retryAborts hstage hrow => exact fun haborted => absurd haborted (by simp [finish, finishRow])

/-- The creation waits for the batch itself exactly if the batch has moved a row. -/
theorem waitsForItself_iff {log : AuditLog} (hs : s.LocksFit) (hstage : s.stage = .creating log) :
    s.waitsForItself = true ↔ s.state.2.movedCount ≠ 0 := by
  rw [LocksFit, hstage] at hs
  rw [waitsForItself, hstage]
  constructor
  · intro hwaits
    obtain ⟨i, hi, -⟩ := List.any_eq_true.mp hwaits
    exact ((hs i).mp hi).2
  · intro hmoved
    exact List.any_eq_true.mpr ⟨.rowExclusive, (hs _).mpr ⟨rfl, hmoved⟩, rfl⟩

/-- **A batch that waits for itself is stuck**: no step is left but that the creation is given
up. -/
theorem stuck (hwaits : s.waitsForItself = true) (h : step fromisoformat s l = some s') :
    l = .created false := by
  have hstage : ∃ log, s.stage = .creating log := by
    rw [waitsForItself] at hwaits
    split at hwaits
    · rename_i log hstage
      exact ⟨log, hstage⟩
    · cases hwaits
  obtain ⟨log, hstage⟩ := hstage
  cases step_cases h with
  | created _ _ hfree => exact absurd hwaits (by simp [hfree])
  | createFails => rfl
  | next hother | opened _ _ hother | noObject _ _ hother | inserted _ hother
  | partitionError hother | otherError hother | «exists» hother | missing hother
  | checkRaises hother | retried _ hother | retryFails hother | retryAborts hother =>
    exact absurd (hstage.symm.trans hother) (by simp)

/-! ### The rows -/

/-- The row at hand, and what is to be inserted for it. -/
def RowFits (fromisoformat : String → Option ℤ) (s : Mover) : Prop :=
  match s.stage with
  | .between => s.state.2.attempting = none
  | .opening => ∃ row, s.state.2.attempting = some row
  | .inserting log | .checking log | .creating log | .retrying log =>
    ∃ row, s.state.2.attempting = some row ∧ log.ComesFrom fromisoformat row

theorem attempting_finishRow (state : AuditOutboxService × Batch) (row : OutboxRow)
    (result : RowResult) : (finishRow state row result).2.attempting = none := by
  cases result <;> rfl

theorem rowFits_step (hs : s.RowFits fromisoformat) (h : step fromisoformat s l = some s') :
    s'.RowFits fromisoformat := by
  cases step_cases h with
  | next hstage hnext =>
    rw [RowFits, hstage] at hs
    obtain ⟨row, rest, -, -, ⟨-, rfl⟩ | ⟨-, -, rfl⟩⟩ := nextRow_eq_some hnext
    · rw [hs]
      exact hs
    · exact ⟨row, rfl⟩
  | @opened row members now uuid hstage hrow hpayload =>
    exact ⟨row, hrow, members, _, hpayload, rfl⟩
  | noObject | inserted | otherError | checkRaises | createFails | retried | retryFails
  | retryAborts => exact attempting_finishRow _ _ _
  | partitionError hstage hrow | «exists» hstage hrow | missing hstage hrow
  | created hstage hrow _ =>
    rw [RowFits, hstage] at hs
    exact hs

/-- **Refinement.** What a step does to the rows and the counters is nothing, or a step of
`rowStep`. -/
theorem step_refines (hs : s.RowFits fromisoformat) (h : step fromisoformat s l = some s') :
    s'.state = s.state ∨ ∃ e, rowStep fromisoformat s.state e = some s'.state := by
  have hanswered : ∀ (row : OutboxRow) (answers : InsertAnswers), s.state.2.attempting = some row →
      rowStep fromisoformat s.state (.answered answers) =
        some (finishRow s.state row (attempt fromisoformat row answers)) := by
    intro row answers hrow
    rw [rowStep, hrow]
    rfl
  have hfailed : ∀ row, s.state.2.attempting = some row →
      ∃ e, rowStep fromisoformat s.state e = some (finishRow s.state row .failed) := by
    intro row hrow
    refine ⟨.answered ⟨false, false, false, false, false, 0, ""⟩, (hanswered row _ hrow).trans ?_⟩
    rw [attempt]
    split <;> rfl
  cases step_cases h with
  | next hstage hnext => exact .inr ⟨.next, hnext⟩
  | opened | partitionError | «exists» | missing | created => exact .inl rfl
  | noObject _ _ _ hrow _ | otherError _ hrow | checkRaises _ hrow | createFails _ hrow
  | retryFails _ hrow => exact .inr (hfailed _ hrow)
  | inserted isPartitionError hstage hrow =>
    rw [RowFits, hstage] at hs
    obtain ⟨row, hrow', members, answers, hpayload, rfl⟩ := hs
    obtain rfl := Option.some.inj (hrow.symm.trans hrow')
    refine .inr ⟨.answered { answers with first := true }, (hanswered _ _ hrow).trans ?_⟩
    rw [attempt, hpayload]
    rfl
  | retried rollback hstage hrow =>
    rw [RowFits, hstage] at hs
    obtain ⟨row, hrow', members, answers, hpayload, rfl⟩ := hs
    obtain rfl := Option.some.inj (hrow.symm.trans hrow')
    refine .inr ⟨.answered ⟨false, true, true, true, rollback, answers.now, answers.uuid⟩,
      (hanswered _ _ hrow).trans ?_⟩
    rw [attempt, hpayload]
    rfl
  | retryAborts hstage hrow =>
    rw [RowFits, hstage] at hs
    obtain ⟨row, hrow', members, answers, hpayload, rfl⟩ := hs
    obtain rfl := Option.some.inj (hrow.symm.trans hrow')
    refine .inr ⟨.answered ⟨false, true, true, false, false, answers.now, answers.uuid⟩,
      (hanswered _ _ hrow).trans ?_⟩
    rw [attempt, hpayload]
    rfl

/-! ### When a batch waits for itself -/

/-- The step does not begin to create a partition when the batch has moved a row. -/
def createsBeforeMoving (s : Mover) : MoverLabel → Bool
  | .checked .missing => s.state.2.movedCount = 0
  | _ => true

theorem waits_step_iff (hs : s.LocksFit) (h : step fromisoformat s l = some s') :
    s'.waitsForItself = false ↔ s.createsBeforeMoving l = true := by
  have hlocks := locksFit_step hs h
  cases step_cases h with
  | next hstage hnext =>
    refine ⟨fun _ => rfl, fun _ => ?_⟩
    rw [waitsForItself]
    split
    · rename_i hcreating
      split at hcreating <;> cases hcreating
    · rfl
  | missing hstage hrow =>
    have hiff := waitsForItself_iff hlocks rfl
    rw [createsBeforeMoving, decide_eq_true_eq]
    constructor
    · intro hfree
      by_contra hmoved
      exact absurd (hiff.mpr hmoved) (by simp [hfree])
    · intro hmoved
      cases hwaits : waitsForItself { s with stage := .creating _ } with
      | false => rfl
      | true => exact absurd hmoved (hiff.mp hwaits)
  | opened | noObject | inserted | partitionError | otherError | «exists» | checkRaises
  | created | createFails | retried | retryFails | retryAborts => exact ⟨fun _ => rfl, fun _ => rfl⟩

end steps

/-- Every batch is a batch of `rowStep`. -/
theorem exec_refines {fromisoformat : String → Option ℤ} {s s' : Mover} {labels : List MoverLabel}
    (hs : s.RowFits fromisoformat) (h : exec (step fromisoformat) s labels = some s') :
    ∃ events, exec (rowStep fromisoformat) s.state events = some s'.state := by
  induction labels generalizing s with
  | nil => exact ⟨[], by rw [Option.some.inj h, exec_nil]⟩
  | cons l labels ih =>
    obtain ⟨t, hstep, hrest⟩ := exec_cons_eq_some.mp h
    obtain ⟨events, hevents⟩ := ih (rowFits_step hs hstep) hrest
    rcases step_refines hs hstep with hsame | ⟨e, he⟩
    · exact ⟨events, hsame ▸ hevents⟩
    · exact ⟨e :: events, exec_cons_eq_some.mpr ⟨t.state, he, hevents⟩⟩

/-- **When a batch never waits for itself**: exactly if it creates no partition after it has moved
a row. -/
theorem forall_not_waits_iff (fromisoformat : String → Option ℤ) (service : AuditOutboxService)
    (rows : List OutboxRow) {labels : List MoverLabel} {s : Mover}
    (hrun : exec (step fromisoformat) (begin service rows) labels = some s) :
    (∀ pre t, pre <+: labels → exec (step fromisoformat) (begin service rows) pre = some t →
        t.waitsForItself = false) ↔
      Along (step fromisoformat) (fun s l => s.createsBeforeMoving l = true) (begin service rows)
        labels := by
  have henabled := along_isSome hrun
  rw [forall_prefix_iff]
  constructor
  · rintro ⟨-, hfree⟩
    refine along_of_invariant (I := LocksFit) (fun s l s' hs _ h => locksFit_step hs h) ?_
      (locksFit_begin service rows) (hfree.and henabled)
    rintro s l hs ⟨hfree, hsome⟩
    obtain ⟨s', h⟩ := Option.isSome_iff_exists.mp hsome
    exact (waits_step_iff hs h).mp (hfree s' h)
  · intro halong
    refine ⟨rfl, along_of_invariant (I := LocksFit) (fun s l s' hs _ h => locksFit_step hs h) ?_
      (locksFit_begin service rows) halong⟩
    exact fun s l hs hcreates s' h => (waits_step_iff hs h).mpr hcreates

/-! ### A batch that waits for itself -/

/-- An entry of the last second of April. -/
def aprilRow : OutboxRow where
  id := "april"
  createdAt := 0
  payload := .obj [("timestamp", .str "2026-04-30T23:59:59+00:00")]
  processed := false

/-- An entry of the first second of May. -/
def mayRow : OutboxRow where
  id := "may"
  createdAt := 1
  payload := .obj [("timestamp", .str "2026-05-01T00:00:00+00:00")]
  processed := false

/-- Another entry of May. -/
def nextMayRow : OutboxRow := { mayRow with id := "next", createdAt := 2 }

/-- `datetime.fromisoformat` on the two timestamps. -/
def aprilOrMay (text : String) : Option ℤ :=
  if text = "2026-04-30T23:59:59+00:00" then some 1777593599
  else if text = "2026-05-01T00:00:00+00:00" then some 1777593600
  else none

/-- The first entry is moved; the partition of the second is found missing. -/
def turnOfMonth : List MoverLabel :=
  [.next, .opened 1777593602 "first", .inserted true false, .next, .opened 1777593602 "second",
    .inserted false true, .checked .missing]

/-- The partition of the first entry is created, and both are moved. -/
def startOfMonth : List MoverLabel :=
  [.next, .opened 1777593602 "first", .inserted false true, .checked .missing, .created true,
    .retried true false, .next, .opened 1777593602 "second", .inserted true false]

/-- A batch of entries of May alone. -/
theorem forall_not_waits_start_of_month :
    (∃ s, exec (step aprilOrMay) (begin exampleService [mayRow, nextMayRow]) startOfMonth =
        some s) ∧
      ∀ pre t, pre <+: startOfMonth →
        exec (step aprilOrMay) (begin exampleService [mayRow, nextMayRow]) pre = some t →
          t.waitsForItself = false :=
  ⟨⟨_, rfl⟩, (forall_not_waits_iff aprilOrMay exampleService [mayRow, nextMayRow]
    (rfl : exec (step aprilOrMay) (begin exampleService [mayRow, nextMayRow]) startOfMonth = _)).mpr
      (by decide)⟩

/-- **A batch that waits for itself**, and so for ever: its first entry is moved, and the partition
of its second is missing. -/
theorem waits_for_itself :
    ¬ ∀ (fromisoformat : String → Option ℤ) (service : AuditOutboxService)
      (rows : List OutboxRow) (labels : List MoverLabel) (s : Mover),
      exec (step fromisoformat) (begin service rows) labels = some s →
        s.waitsForItself = false := by
  intro h
  exact absurd (h aprilOrMay exampleService [aprilRow, mayRow] turnOfMonth _ rfl) (by decide)

end Mover

end AuditOutbox

end OpenLangGraph

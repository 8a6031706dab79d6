import OpenLangGraph.Foundation.Processes
import OpenLangGraph.Services.AuditOutbox

/-!
# The movers of the audit outbox

The two tables of the audit log, the processes of the server, and all calls of `_move_batch`, one
after another or at once, as one labelled transition system.

## Transactions

A call holds the locks of the rows it has selected until it ends, and another call skips them. What
it writes is seen when it is committed, and all at once. The retry counts belong to the process and
not to the transaction. A process that crashes is one whose calls end, committed or not, with
nothing returned, and the one that takes its place has no counts.

## Ids

`uuid4` never returns an id twice, so an `INSERT` with the id of an earlier entry is not enabled.

## Main definitions

* `AuditServer`, `AuditLabel`, `AuditServer.step`
* `Place`, `AuditServer.IsAt` — where an entry is
* `AuditServer.Conserved` — the invariant: every entry is somewhere, and the calls hold their rows

## Main results

* `AuditServer.conservation` — every entry is at one place
-/

namespace OpenLangGraph

open Transition Processes

namespace AuditOutbox

def OutboxRow.markProcessed (row : OutboxRow) : OutboxRow := { row with processed := true }

theorem OutboxRow.id_markProcessed (row : OutboxRow) : row.markProcessed.id = row.id := rfl

def Batch.rowIds (b : Batch) : List String := b.rows.map OutboxRow.id

/-- A call of `_move_batch`, in a process. When it has ended, it has no batch. -/
structure MoveCall where
  process : ℕ
  batch : Option Batch

/-- The rows it has locked. -/
def MoveCall.lockedIds (c : MoveCall) : List String := (c.batch.map Batch.rowIds).getD []

structure AuditServer where
  outbox : Table OutboxRow.id
  auditLogs : List AuditLog
  /-- One for each process. -/
  services : List AuditOutboxService
  calls : List MoveCall
  /-- The entries whose `INSERT` was committed. -/
  entries : List OutboxRow
  /-- The entry of each attempt that failed. -/
  failures : List String

inductive AuditLabel
  | startProcess
  /-- The transaction of `insert` is committed, whether its caller still waits or not. -/
  | insert (id : String) (createdAt : ℕ) (payload : Json)
  /-- `_move_batch` is called, and selects its rows. -/
  | moveBatch (process : ℕ)
  | row (call : ℕ) (event : RowEvent)
  | finish (call : ℕ) (ending : Ending)

namespace AuditServer

def empty : AuditServer := ⟨.empty, [], [], [], [], []⟩

def locked (s : AuditServer) : List String := s.calls.flatMap MoveCall.lockedIds

/-- The commit of a batch. -/
def commit (s : AuditServer) (b : Batch) : AuditServer :=
  { s with
    outbox := (s.outbox.deleteIf (·.id ∈ b.successIds)).updateIf (·.id ∈ b.poisonIds)
      OutboxRow.markProcessed OutboxRow.id_markProcessed
    auditLogs := s.auditLogs ++ b.inserted }

def endTransaction (s : AuditServer) (b : Batch) (ending : Ending) : AuditServer :=
  if ending.committed then s.commit b else s

/-- The call has returned, and holds no locks. -/
def release (s : AuditServer) (i : ℕ) (call : MoveCall) (service : AuditOutboxService) :
    AuditServer :=
  { s with
    services := s.services.set call.process service
    calls := s.calls.set i { call with batch := none } }

end AuditServer

/-- The entry of an attempt, if it failed. -/
def RowResult.failedIds (row : OutboxRow) : RowResult → List String
  | .moved _ => []
  | .failed | .failedAborted => [row.id]

/-- The entry whose attempt fails in a step. -/
def failedAttempt (fromisoformat : String → Option ℤ) (b : Batch) : RowEvent → List String
  | .next => []
  | .answered answers =>
    (b.attempting.map fun row => (attempt fromisoformat row answers).failedIds row).getD []

namespace AuditServer

def step (fromisoformat : String → Option ℤ) (s : AuditServer) : AuditLabel → Option AuditServer
  | .startProcess => some { s with services := s.services ++ [⟨⟨0, 0, 0⟩, .empty⟩] }
  | .insert id createdAt payload =>
    let entry : OutboxRow := ⟨id, createdAt, payload, false⟩
    if id ∈ s.entries.map OutboxRow.id then none
    else (s.outbox.insert entry).map fun outbox =>
      { s with outbox, entries := s.entries ++ [entry] }
  | .moveBatch process =>
    if process < s.services.length then
      some { s with calls := s.calls ++ [⟨process, some (.begin (selectRows s.outbox s.locked))⟩] }
    else none
  | .row i event => do
    let call ← s.calls[i]?
    let batch ← call.batch
    let service ← s.services[call.process]?
    let (service', batch') ← rowStep fromisoformat (service, batch) event
    some
      { s with
        services := s.services.set call.process service'
        calls := s.calls.set i { call with batch := some batch' }
        failures := s.failures ++ failedAttempt fromisoformat batch event }
  | .finish i ending => do
    let call ← s.calls[i]?
    let batch ← call.batch
    let service ← s.services[call.process]?
    if batch.canEnd ending then
      some ((s.release i call (endBatch (service, batch) ending).1).endTransaction batch ending)
    else none

end AuditServer

/-! ### Places -/

/-- The log was made from the entry. -/
def AuditLog.ComesFrom (fromisoformat : String → Option ℤ) (log : AuditLog) (entry : OutboxRow) :
    Prop :=
  ∃ members answers, entry.payload = .obj members ∧
    log = auditLog fromisoformat entry members answers

/-- Where an entry can be. -/
inductive Place
  | unprocessed
  | moved
  | poisonPill

/-- The row of the entry in the outbox. -/
def Place.row (entry : OutboxRow) : Place → Option OutboxRow
  | .unprocessed => some { entry with processed := false }
  | .moved => none
  | .poisonPill => some entry.markProcessed

namespace AuditServer

/-- The rows of the audit log that come from the entry. -/
def logsOf (s : AuditServer) (id : String) : List AuditLog := s.auditLogs.filter (·.origin = id)

/-- The entry is in the outbox, and not in the audit log; or it is not in the outbox, and once in
the audit log; or it is marked as processed, after attempts that failed, and not in the audit
log. -/
def IsAt (fromisoformat : String → Option ℤ) (s : AuditServer) (entry : OutboxRow) (place : Place) :
    Prop :=
  s.outbox.find? entry.id = place.row entry ∧
    match place with
    | .unprocessed => s.logsOf entry.id = []
    | .moved => ∃ log, s.logsOf entry.id = [log] ∧ log.ComesFrom fromisoformat entry
    | .poisonPill => s.logsOf entry.id = [] ∧ maxRetryCount ≤ s.failures.count entry.id

end AuditServer

/-! ### The invariant of a batch -/

variable {fromisoformat : String → Option ℤ} {service service' : AuditOutboxService}
  {b b' : Batch} {e : RowEvent} {failures failures' : List String} {id : String}

/-- What a batch keeps: each of its rows is at most once among those that it has moved, those that
are poison pills and those that are left, and no row is a poison pill that has not failed. -/
structure Batch.Sound (fromisoformat : String → Option ℤ) (failures : List String) (b : Batch) :
    Prop where
  unique : b.rowIds.Nodup
  pending : b.attempting.toList ++ b.rest ⊆ b.rows
  once : ∀ id, b.successIds.count id + b.poisonIds.count id + b.pendingIds.count id ≤
    b.rowIds.count id
  origins : b.inserted.map AuditLog.origin = b.successIds
  comesFrom : ∀ log ∈ b.inserted, ∃ row ∈ b.rows, log.ComesFrom fromisoformat row
  failed : ∀ id ∈ b.poisonIds, maxRetryCount ≤ failures.count id

/-- The counts of a service are not higher than the number of attempts that failed. -/
def AuditOutboxService.CountsFailures (service : AuditOutboxService) (failures : List String) :
    Prop :=
  ∀ id, service.retryCache.get id ≤ failures.count id

theorem AuditOutboxService.CountsFailures.mono (h : service.CountsFailures failures)
    (hle : ∀ id, failures.count id ≤ failures'.count id) : service.CountsFailures failures' :=
  fun id => Nat.le_trans (h id) (hle id)

theorem Batch.Sound.mono (h : b.Sound fromisoformat failures)
    (hle : ∀ id, failures.count id ≤ failures'.count id) : b.Sound fromisoformat failures' :=
  { h with failed := fun id hid => Nat.le_trans (h.failed id hid) (hle id) }

theorem Batch.sound_begin {rows : List OutboxRow} (hunique : (rows.map OutboxRow.id).Nodup) :
    (Batch.begin rows).Sound fromisoformat failures where
  unique := hunique
  pending := List.Subset.refl rows
  once := fun id => by
    show 0 + 0 + (rows.map OutboxRow.id).count id ≤ (rows.map OutboxRow.id).count id
    omega
  origins := rfl
  comesFrom := fun _ hlog => absurd hlog List.not_mem_nil
  failed := fun _ hid => absurd hid List.not_mem_nil

theorem AuditLog.ComesFrom.origin {log : AuditLog} {row : OutboxRow}
    (h : log.ComesFrom fromisoformat row) : log.origin = row.id := by
  obtain ⟨members, answers, -, rfl⟩ := h
  rfl

/-- An attempt that succeeds has made the log from the row. -/
theorem attempt_eq_moved {row : OutboxRow} {answers : InsertAnswers} {log : AuditLog}
    (h : attempt fromisoformat row answers = .moved log) :
    log.ComesFrom fromisoformat row := by
  rw [attempt] at h
  split at h
  · rename_i members hpayload
    refine ⟨members, answers, hpayload, ?_⟩
    split at h
    · exact (RowResult.moved.inj h).symm
    · split at h
      · split at h
        · exact (RowResult.moved.inj h).symm
        · split at h
          · cases h
          · cases h
      · cases h
  · cases h

/-! What each step of a batch does to its rows. -/

section steps

variable {row : OutboxRow} {rest : List OutboxRow}

theorem failedAttempt_answered (answers : InsertAnswers) (h : b.attempting = some row) :
    failedAttempt fromisoformat b (.answered answers) =
      (attempt fromisoformat row answers).failedIds row := by
  rw [failedAttempt, h]
  rfl

theorem Batch.Sound.poison (hb : b.Sound fromisoformat failures) (hattempting : b.attempting = none)
    (hrest : b.rest = row :: rest) (hrow : maxRetryCount ≤ failures.count row.id) :
    { b with rest, poisonIds := b.poisonIds ++ [row.id] }.Sound fromisoformat failures where
  unique := hb.unique
  pending := by
    have hpending := hb.pending
    rw [hrest] at hpending
    exact fun r hr => hpending (by simp only [List.mem_append, List.mem_cons] at hr ⊢; tauto)
  once := fun id => by
    have honce := hb.once id
    simp only [Batch.pendingIds, hattempting, hrest, Option.toList_none, List.nil_append,
      List.map_cons, List.count_cons] at honce
    simp only [Batch.pendingIds, hattempting, Option.toList_none, List.nil_append,
      List.count_append, List.count_singleton]
    exact Nat.le_trans (by omega) honce
  origins := hb.origins
  comesFrom := hb.comesFrom
  failed := fun id hid => by
    rcases List.mem_append.mp hid with hid | hid
    · exact hb.failed id hid
    · rw [List.mem_singleton.mp hid]
      exact hrow

theorem Batch.Sound.attempting (hb : b.Sound fromisoformat failures)
    (hattempting : b.attempting = none) (hrest : b.rest = row :: rest) :
    { b with rest, attempting := some row }.Sound fromisoformat failures where
  unique := hb.unique
  pending := by
    have hpending := hb.pending
    rw [hattempting, hrest] at hpending
    exact hpending
  once := fun id => by
    have honce := hb.once id
    rw [Batch.pendingIds, hattempting, hrest] at honce
    exact honce
  origins := hb.origins
  comesFrom := hb.comesFrom
  failed := hb.failed

theorem Batch.Sound.moved {log : AuditLog} (hb : b.Sound fromisoformat failures)
    (hattempting : b.attempting = some row) (hlog : log.ComesFrom fromisoformat row) :
    { b with
      attempting := none
      inserted := b.inserted ++ [log]
      movedCount := b.movedCount + 1
      successIds := b.successIds ++ [row.id] }.Sound fromisoformat failures where
  unique := hb.unique
  pending := by
    have hpending := hb.pending
    rw [hattempting] at hpending
    exact fun r hr => hpending (List.mem_cons_of_mem row hr)
  once := fun id => by
    have honce := hb.once id
    simp only [Batch.pendingIds, hattempting, Option.toList_some, List.singleton_append,
      List.map_cons, List.count_cons] at honce
    simp only [Batch.pendingIds, Option.toList_none, List.nil_append,
      List.count_append, List.count_singleton]
    exact Nat.le_trans (by omega) honce
  origins := by
    rw [List.map_append, hb.origins, List.map_singleton, hlog.origin]
  comesFrom := fun log' hlog' => by
    rcases List.mem_append.mp hlog' with hold | hnew
    · exact hb.comesFrom log' hold
    · have hpending := hb.pending
      rw [hattempting] at hpending
      rw [List.mem_singleton.mp hnew]
      exact ⟨row, hpending List.mem_cons_self, hlog⟩
  failed := hb.failed

theorem Batch.Sound.attemptFailed {aborted : Bool} (hb : b.Sound fromisoformat failures)
    (hattempting : b.attempting = some row) :
    { b with attempting := none, aborted }.Sound fromisoformat failures where
  unique := hb.unique
  pending := by
    have hpending := hb.pending
    rw [hattempting] at hpending
    exact fun r hr => hpending (List.mem_cons_of_mem row hr)
  once := fun id => by
    have honce := hb.once id
    simp only [Batch.pendingIds, hattempting, Option.toList_some, List.singleton_append,
      List.map_cons, List.count_cons] at honce
    simp only [Batch.pendingIds, Option.toList_none, List.nil_append]
    exact Nat.le_trans (by omega) honce
  origins := hb.origins
  comesFrom := hb.comesFrom
  failed := hb.failed

end steps

theorem AuditOutboxService.CountsFailures.clear {metrics : AuditMetrics}
    (h : service.CountsFailures failures) (key : String) :
    (⟨metrics, service.retryCache.clear key⟩ : AuditOutboxService).CountsFailures failures := by
  intro id
  show (service.retryCache.clear key).get id ≤ _
  rw [LruRetryCache.get_clear]
  split
  · exact Nat.zero_le _
  · exact h id

theorem AuditOutboxService.CountsFailures.increment {metrics : AuditMetrics}
    (h : service.CountsFailures failures) (key : String) :
    (⟨metrics, service.retryCache.increment key⟩ : AuditOutboxService).CountsFailures
      (failures ++ [key]) := by
  intro id
  show (service.retryCache.increment key).get id ≤ _
  have hle := h id
  by_cases hid : id = key
  · rw [hid, LruRetryCache.get_increment_self, List.count_append, List.count_singleton_self, ← hid]
    exact Nat.add_le_add_right hle 1
  · have hother := service.retryCache.get_increment_other hid
    rw [List.count_append]
    omega

/-- **The step of a batch**: a row that is a poison pill has failed often enough, and a row that
fails is counted. -/
theorem Batch.Sound.rowStep (hb : b.Sound fromisoformat failures)
    (hservice : service.CountsFailures failures)
    (h : rowStep fromisoformat (service, b) e = some (service', b')) :
    b'.rows = b.rows ∧ b'.Sound fromisoformat (failures ++ failedAttempt fromisoformat b e) ∧
      service'.CountsFailures (failures ++ failedAttempt fromisoformat b e) := by
  cases e with
  | next =>
    rw [failedAttempt, List.append_nil]
    obtain ⟨row, rest, hattempting, hrest, ⟨hpoison, hs⟩ | ⟨-, -, hs⟩⟩ := nextRow_eq_some h
    · cases hs
      exact ⟨rfl, hb.poison hattempting hrest (Nat.le_trans hpoison (hservice row.id)),
        hservice.clear row.id⟩
    · cases hs
      exact ⟨rfl, hb.attempting hattempting hrest, hservice⟩
  | answered answers =>
    obtain ⟨row, hattempting, hs⟩ := Option.map_eq_some_iff.mp h
    have hmore : ∀ id, failures.count id ≤ (failures ++ [row.id]).count id :=
      fun id => (List.sublist_append_left _ _).count_le id
    have hfailed : failedAttempt fromisoformat b (.answered answers) = _ :=
      failedAttempt_answered answers hattempting
    cases hresult : attempt fromisoformat row answers with
    | moved log =>
      rw [hresult] at hs hfailed
      cases hs
      rw [hfailed, RowResult.failedIds, List.append_nil]
      exact ⟨rfl, hb.moved hattempting (attempt_eq_moved hresult), hservice.clear row.id⟩
    | failed =>
      rw [hresult] at hs hfailed
      cases hs
      rw [hfailed, RowResult.failedIds]
      exact ⟨rfl, (hb.attemptFailed hattempting).mono hmore, hservice.increment row.id⟩
    | failedAborted =>
      rw [hresult] at hs hfailed
      cases hs
      rw [hfailed, RowResult.failedIds]
      exact ⟨rfl, (hb.attemptFailed hattempting).mono hmore, hservice.increment row.id⟩

theorem MoveCall.lockedIds_eq {call : MoveCall} (h : call.batch = some b) :
    call.lockedIds = b.rowIds := by
  rw [lockedIds, h]
  rfl

/-- A row that has not been moved has no log, and one that has been moved has one. -/
theorem Batch.Sound.filter_inserted (hb : b.Sound fromisoformat failures) (id : String) :
    (id ∉ b.successIds ∧ b.inserted.filter (·.origin = id) = []) ∨
    (id ∈ b.successIds ∧ ∃ log, b.inserted.filter (·.origin = id) = [log] ∧ log.origin = id ∧
      ∃ row ∈ b.rows, log.ComesFrom fromisoformat row) := by
  have hcount : (b.inserted.filter (·.origin = id)).length = b.successIds.count id := by
    rw [← hb.origins, ← List.countP_eq_length_filter, List.count_eq_countP, List.countP_map]
    exact List.countP_congr fun log _ => by simp
  by_cases hid : id ∈ b.successIds
  · have honce := hb.once id
    have hle := List.nodup_iff_count_le_one.mp hb.unique id
    have hpos := List.count_pos_iff.mpr hid
    obtain ⟨log, hlog⟩ := List.length_eq_one_iff.mp (show
      (b.inserted.filter (·.origin = id)).length = 1 by omega)
    have hmem : log ∈ b.inserted.filter (·.origin = id) := by
      rw [hlog]
      exact List.mem_singleton_self log
    obtain ⟨hinserted, horigin⟩ := List.mem_filter.mp hmem
    exact .inr ⟨hid, log, hlog, of_decide_eq_true horigin, hb.comesFrom log hinserted⟩
  · refine .inl ⟨hid, List.length_eq_zero_iff.mp ?_⟩
    rw [hcount, List.count_eq_zero.mpr hid]

theorem Batch.Sound.mem_rowIds (hb : b.Sound fromisoformat failures)
    (h : id ∈ b.successIds ∨ id ∈ b.poisonIds) : id ∈ b.rowIds := by
  have honce := hb.once id
  refine List.count_pos_iff.mp ?_
  rcases h with h | h
  · have hpos := List.count_pos_iff.mpr h
    omega
  · have hpos := List.count_pos_iff.mpr h
    omega

/-! ### The invariant -/

theorem Place.row_injective {entry : OutboxRow} {place place' : Place}
    (h : place.row entry = place'.row entry) : place = place' := by
  cases place <;> cases place' <;> simp [row, OutboxRow.markProcessed] at h ⊢

namespace AuditServer

variable {s s' : AuditServer} {entry : OutboxRow} {place place' : Place}

/-- The outbox decides where an entry is. -/
theorem IsAt.unique (h : s.IsAt fromisoformat entry place)
    (h' : s.IsAt fromisoformat entry place') : place = place' :=
  Place.row_injective (h.1.symm.trans h'.1)

theorem IsAt.frame (h : s.IsAt fromisoformat entry place)
    (hrow : s'.outbox.find? entry.id = s.outbox.find? entry.id)
    (hlogs : s'.logsOf entry.id = s.logsOf entry.id)
    (hfailures : s.failures.count entry.id ≤ s'.failures.count entry.id) :
    s'.IsAt fromisoformat entry place := by
  refine ⟨hrow.trans h.1, ?_⟩
  cases place with
  | unprocessed => exact hlogs.trans h.2
  | moved =>
    obtain ⟨log, hlog, hfrom⟩ := h.2
    exact ⟨log, hlogs.trans hlog, hfrom⟩
  | poisonPill => exact ⟨hlogs.trans h.2.1, Nat.le_trans h.2.2 hfailures⟩

/-- The batch is sound, and its rows are in the outbox as it has selected them. -/
structure Holds (fromisoformat : String → Option ℤ) (s : AuditServer) (b : Batch) : Prop where
  sound : b.Sound fromisoformat s.failures
  rows : ∀ row ∈ b.rows, s.outbox.find? row.id = some row ∧ row.processed = false

theorem Holds.frame (h : s.Holds fromisoformat b)
    (hrows : ∀ id ∈ b.rowIds, s'.outbox.find? id = s.outbox.find? id)
    (hfailures : ∀ id, s.failures.count id ≤ s'.failures.count id) :
    s'.Holds fromisoformat b where
  sound := h.sound.mono hfailures
  rows := fun row hrow => by
    rw [hrows row.id (List.mem_map_of_mem hrow)]
    exact h.rows row hrow

/-- **The invariant.** Every entry is somewhere, every row is locked by one call at most, and the
calls hold the rows that they have locked. -/
structure Conserved (fromisoformat : String → Option ℤ) (s : AuditServer) : Prop where
  entries : ∀ entry ∈ s.entries, ∃ place, s.IsAt fromisoformat entry place
  rows : ∀ id row, s.outbox.find? id = some row → id ∈ s.entries.map OutboxRow.id
  origins : ∀ log ∈ s.auditLogs, log.origin ∈ s.entries.map OutboxRow.id
  locks : ∀ id, s.calls.countP (fun call => id ∈ call.lockedIds) ≤ 1
  batches : ∀ call ∈ s.calls, ∀ b, call.batch = some b → s.Holds fromisoformat b
  counts : ∀ service ∈ s.services, service.CountsFailures s.failures

theorem conserved_empty : empty.Conserved fromisoformat where
  entries := fun _ hentry => absurd hentry List.not_mem_nil
  rows := fun _ _ hrow => absurd hrow (by simp [empty, Table.find?, Table.empty])
  origins := fun _ hlog => absurd hlog List.not_mem_nil
  locks := fun _ => Nat.zero_le 1
  batches := fun _ hcall => absurd hcall List.not_mem_nil
  counts := fun _ hservice => absurd hservice List.not_mem_nil

/-! ### A commit -/

theorem find?_commit (s : AuditServer) (b : Batch) (id : String) :
    (s.commit b).outbox.find? id =
      if id ∈ b.successIds then none
      else (s.outbox.find? id).map fun row =>
        if id ∈ b.poisonIds then row.markProcessed else row := by
  show ((s.outbox.deleteIf (·.id ∈ b.successIds)).updateIf (·.id ∈ b.poisonIds)
    OutboxRow.markProcessed OutboxRow.id_markProcessed).find? id = _
  rw [Table.find?_updateIf, Table.find?_deleteIf]
  cases hrow : s.outbox.find? id with
  | none =>
    split
    · rfl
    · rfl
  | some row =>
    obtain rfl := (Table.find?_eq_some_iff.mp hrow).2
    by_cases hsuccess : row.id ∈ b.successIds
    · rw [if_pos hsuccess, Option.filter_some, if_neg (by simpa using hsuccess)]
      rfl
    · rw [if_neg hsuccess, Option.filter_some, if_pos (by simpa using hsuccess)]
      simp

theorem logsOf_commit (s : AuditServer) (b : Batch) (id : String) :
    (s.commit b).logsOf id = s.logsOf id ++ b.inserted.filter (·.origin = id) :=
  List.filter_append ..

/-- A row that the batch does not write stays as it is. -/
theorem find?_commit_of_notMem (hb : b.Sound fromisoformat failures) (hid : id ∉ b.rowIds) :
    (s.commit b).outbox.find? id = s.outbox.find? id := by
  rw [find?_commit, if_neg fun h => hid (hb.mem_rowIds (.inl h))]
  cases s.outbox.find? id with
  | none => rfl
  | some row => rw [Option.map_some, if_neg fun h => hid (hb.mem_rowIds (.inr h))]

/-- An entry that a batch holds is unprocessed. -/
theorem Holds.unprocessed (hb : s.Holds fromisoformat b) (hid : entry.id ∈ b.rowIds)
    (h : s.IsAt fromisoformat entry place) :
    s.IsAt fromisoformat entry .unprocessed := by
  obtain ⟨row, hrow, hrowid⟩ := List.mem_map.mp hid
  obtain ⟨hfind, hprocessed⟩ := hb.rows row hrow
  rw [hrowid, h.1] at hfind
  cases place with
  | unprocessed => exact h
  | moved => cases hfind
  | poisonPill =>
    rw [← Option.some.inj hfind] at hprocessed
    cases hprocessed

/-- **The commit of a batch** moves the entries that it has inserted, and gives up its poison
pills. -/
theorem isAt_commit (hb : s.Holds fromisoformat b) (h : s.IsAt fromisoformat entry place) :
    ∃ place, (s.commit b).IsAt fromisoformat entry place := by
  have hlogs := s.logsOf_commit b entry.id
  have hrow := s.find?_commit b entry.id
  rcases hb.sound.filter_inserted entry.id with ⟨hnot, hnone⟩ | ⟨hin, log, hlog, horigin, hfrom⟩
  · rw [hnone, List.append_nil] at hlogs
    rw [if_neg hnot] at hrow
    by_cases hpoison : entry.id ∈ b.poisonIds
    · obtain ⟨hfind, hnolog⟩ := hb.unprocessed (hb.sound.mem_rowIds (.inr hpoison)) h
      refine ⟨.poisonPill, ?_, hlogs.trans hnolog, hb.sound.failed entry.id hpoison⟩
      rw [hrow, hfind, Place.row, Option.map_some, if_pos hpoison]
      rfl
    · refine ⟨place, h.frame ?_ hlogs (Nat.le_refl _)⟩
      rw [hrow]
      simp [hpoison]
  · obtain ⟨hfind, hnolog⟩ := hb.unprocessed (hb.sound.mem_rowIds (.inl hin)) h
    rw [if_pos hin] at hrow
    rw [hlog, show s.logsOf entry.id = [] from hnolog] at hlogs
    refine ⟨.moved, hrow, log, hlogs, ?_⟩
    obtain ⟨row, hmem, hfrom⟩ := hfrom
    have hheld := (hb.rows row hmem).1
    rw [← hfrom.origin, horigin, hfind] at hheld
    obtain rfl := Option.some.inj hheld
    exact hfrom

/-! ### The steps of the server -/

/-- What a step does. -/
inductive Moves (fromisoformat : String → Option ℤ) (s : AuditServer) : AuditServer → Prop
  | started : Moves fromisoformat s { s with services := s.services ++ [⟨⟨0, 0, 0⟩, .empty⟩] }
  | inserted {outbox entry} : entry.id ∉ s.entries.map OutboxRow.id → entry.processed = false →
    s.outbox.insert entry = some outbox →
    Moves fromisoformat s { s with outbox, entries := s.entries ++ [entry] }
  | selected {process} : Moves fromisoformat s
    { s with calls := s.calls ++ [⟨process, some (.begin (selectRows s.outbox s.locked))⟩] }
  | dealt {i call b b' service service' e} : s.calls[i]? = some call → call.batch = some b →
    s.services[call.process]? = some service →
    rowStep fromisoformat (service, b) e = some (service', b') →
    Moves fromisoformat s
      { s with
        services := s.services.set call.process service'
        calls := s.calls.set i { call with batch := some b' }
        failures := s.failures ++ failedAttempt fromisoformat b e }
  | ended {i call b service ending} : s.calls[i]? = some call → call.batch = some b →
    s.services[call.process]? = some service →
    Moves fromisoformat s
      ((s.release i call (endBatch (service, b) ending).1).endTransaction b ending)

theorem step_moves {a : AuditLabel} (h : s.step fromisoformat a = some s') :
    Moves fromisoformat s s' := by
  cases a with
  | startProcess =>
    cases h
    exact .started
  | insert id createdAt payload =>
    rw [step] at h
    split at h
    · cases h
    · rename_i hnew
      obtain ⟨outbox, hinsert, rfl⟩ := Option.map_eq_some_iff.mp h
      exact .inserted hnew rfl hinsert
  | moveBatch process =>
    rw [step] at h
    split at h
    · cases h
      exact .selected
    · cases h
  | row i event =>
    obtain ⟨call, hcall, h⟩ := Option.bind_eq_some_iff.mp h
    obtain ⟨b, hbatch, h⟩ := Option.bind_eq_some_iff.mp h
    obtain ⟨service, hservice, h⟩ := Option.bind_eq_some_iff.mp h
    obtain ⟨⟨service', b'⟩, hrow, h⟩ := Option.bind_eq_some_iff.mp h
    cases h
    exact .dealt hcall hbatch hservice hrow
  | finish i ending =>
    obtain ⟨call, hcall, h⟩ := Option.bind_eq_some_iff.mp h
    obtain ⟨b, hbatch, h⟩ := Option.bind_eq_some_iff.mp h
    obtain ⟨service, hservice, h⟩ := Option.bind_eq_some_iff.mp h
    split at h
    · cases h
      exact .ended hcall hbatch hservice
    · cases h

/-- An entry is written with an id that has no log and no row. -/
theorem Conserved.insert {outbox : Table OutboxRow.id} (hs : s.Conserved fromisoformat)
    (hnew : entry.id ∉ s.entries.map OutboxRow.id) (hprocessed : entry.processed = false)
    (h : s.outbox.insert entry = some outbox) :
    { s with outbox, entries := s.entries ++ [entry] }.Conserved fromisoformat where
  entries := by
    intro other hother
    rcases List.mem_append.mp hother with hold | hlast
    · obtain ⟨place, hplace⟩ := hs.entries other hold
      refine ⟨place, hplace.frame ?_ rfl (Nat.le_refl _)⟩
      show outbox.find? other.id = _
      rw [Table.find?_insert h, if_neg]
      intro hid
      exact hnew (hid ▸ List.mem_map_of_mem hold)
    · obtain rfl := List.mem_singleton.mp hlast
      refine ⟨.unprocessed, ?_, List.filter_eq_nil_iff.mpr fun log hlog horigin => ?_⟩
      · show outbox.find? other.id = some { other with processed := false }
        rw [Table.find?_insert h, if_pos rfl, ← hprocessed]
      · exact hnew (of_decide_eq_true horigin ▸ hs.origins log hlog)
  rows := fun id row hrow => by
    rw [List.map_append]
    have hfind : outbox.find? id = some row := hrow
    rw [Table.find?_insert h] at hfind
    split at hfind
    · rename_i hid
      exact List.mem_append_right _ (hid ▸ List.mem_singleton_self _)
    · exact List.mem_append_left _ (hs.rows id row hfind)
  origins := fun log hlog => by
    rw [List.map_append]
    exact List.mem_append_left _ (hs.origins log hlog)
  locks := hs.locks
  batches := fun call hcall b hbatch => by
    have hholds := hs.batches call hcall b hbatch
    refine hholds.frame (fun id hid => ?_) fun _ => Nat.le_refl _
    obtain ⟨row, hrow, hrowid⟩ := List.mem_map.mp hid
    have hfind := (hholds.rows row hrow).1
    show outbox.find? id = _
    rw [Table.find?_insert h, if_neg]
    rintro rfl
    have hmem := Table.find?_eq_some_iff.mp hfind
    exact (Table.insert_eq_some h).1 (List.mem_map.mpr ⟨row, hmem.1, hrowid⟩)
  counts := hs.counts

theorem mem_locked {call : MoveCall} (hcall : call ∈ s.calls) (hid : id ∈ call.lockedIds) :
    id ∈ s.locked :=
  List.mem_flatMap.mpr ⟨call, hcall, hid⟩

/-- A new call locks rows that no other call has locked. -/
theorem Conserved.select (hs : s.Conserved fromisoformat) (process : ℕ) :
    Conserved fromisoformat { s with
      calls := s.calls ++ [⟨process, some (.begin (selectRows s.outbox s.locked))⟩] } where
  entries := hs.entries
  rows := hs.rows
  origins := hs.origins
  locks := fun id => by
    have hle := hs.locks id
    rw [List.countP_append, List.countP_singleton]
    split
    · rename_i hid
      obtain ⟨row, hrow, hrowid⟩ := List.mem_map.mp (of_decide_eq_true hid)
      have hnone : s.calls.countP (fun call => id ∈ call.lockedIds) = 0 := by
        refine List.countP_eq_zero.mpr fun call hcall hlocked => ?_
        have hunlocked := (mem_selectRows hrow).2.2
        exact hunlocked (hrowid ▸ mem_locked hcall (of_decide_eq_true hlocked))
      omega
    · omega
  batches := by
    intro call hcall b hb
    rcases List.mem_append.mp hcall with hold | hnew
    · exact (hs.batches call hold b hb).frame (fun _ _ => rfl) fun _ => Nat.le_refl _
    · rw [List.mem_singleton.mp hnew] at hb
      obtain rfl := Option.some.inj hb
      refine ⟨Batch.sound_begin (nodup_selectRows _ _), fun row hrow => ?_⟩
      obtain ⟨hmem, hprocessed, -⟩ := mem_selectRows hrow
      exact ⟨Table.find?_key hmem, hprocessed⟩
  counts := hs.counts

/-- A row that is dealt with concerns its batch, the counts of its process and the failures. -/
theorem Conserved.deal {i : ℕ} {call : MoveCall} (hs : s.Conserved fromisoformat)
    (hcall : s.calls[i]? = some call) (hbatch : call.batch = some b)
    (hservice : s.services[call.process]? = some service)
    (h : rowStep fromisoformat (service, b) e = some (service', b')) :
    { s with
      services := s.services.set call.process service'
      calls := s.calls.set i { call with batch := some b' }
      failures := s.failures ++ failedAttempt fromisoformat b e }.Conserved fromisoformat := by
  have hmore : ∀ id, s.failures.count id ≤
      (s.failures ++ failedAttempt fromisoformat b e).count id :=
    fun id => (List.sublist_append_left _ _).count_le id
  have hholds := hs.batches call (List.mem_of_getElem? hcall) b hbatch
  obtain ⟨hrows, hsound, hcounts⟩ :=
    hholds.sound.rowStep (hs.counts service (List.mem_of_getElem? hservice)) h
  constructor
  · intro entry hentry
    obtain ⟨place, hplace⟩ := hs.entries entry hentry
    exact ⟨place, hplace.frame rfl rfl (hmore entry.id)⟩
  · exact hs.rows
  · exact hs.origins
  · intro id
    have hcount := countP_set_add (y := { call with batch := some b' })
      (fun call => decide (id ∈ call.lockedIds)) hcall
    have hsame : MoveCall.lockedIds { call with batch := some b' } = call.lockedIds := by
      rw [MoveCall.lockedIds_eq hbatch, MoveCall.lockedIds_eq rfl, Batch.rowIds, Batch.rowIds,
        hrows]
    rw [hsame] at hcount
    have hle := hs.locks id
    show (s.calls.set i _).countP _ ≤ 1
    omega
  · refine forall_set (fun b'' hb'' => ?_) fun call hcall b hb =>
      (hs.batches call hcall b hb).frame (fun _ _ => rfl) hmore
    cases hb''
    exact ⟨hsound, fun row hrow => hholds.rows row (hrows ▸ hrow)⟩
  · exact forall_set hcounts fun service hservice => (hs.counts service hservice).mono hmore

/-- A call that gives its locks back writes nothing. -/
theorem Conserved.release {i : ℕ} {call : MoveCall} (hs : s.Conserved fromisoformat)
    (hcall : s.calls[i]? = some call) (hservice : service.CountsFailures s.failures) :
    (s.release i call service).Conserved fromisoformat where
  entries := hs.entries
  rows := hs.rows
  origins := hs.origins
  locks := fun id => by
    have hcount := countP_set_add (y := { call with batch := none })
      (fun call => decide (id ∈ call.lockedIds)) hcall
    have hnone : id ∉ MoveCall.lockedIds { call with batch := none } := List.not_mem_nil
    rw [decide_eq_false hnone, if_neg Bool.false_ne_true] at hcount
    have hle := hs.locks id
    show (s.calls.set i _).countP _ ≤ 1
    omega
  batches := forall_set (fun _ hb => nomatch hb) fun call hcall b hb =>
    (hs.batches call hcall b hb).frame (fun _ _ => rfl) fun _ => Nat.le_refl _
  counts := forall_set hservice hs.counts

/-- Nobody else has locked the rows of a call that ends. -/
theorem Conserved.notMem_rowIds {i : ℕ} {call : MoveCall} (hs : s.Conserved fromisoformat)
    (hcall : s.calls[i]? = some call) (hbatch : call.batch = some b) :
    ∀ call' ∈ (s.release i call service).calls, ∀ id ∈ call'.lockedIds, id ∉ b.rowIds := by
  intro call' hcall' id hid' hid
  rcases mem_set_cases hcall' with rfl | ⟨j, hne, hj⟩
  · cases hid'
  · refine hne (eq_of_countP_le_one (hs.locks id) hj (decide_eq_true hid') hcall
      (decide_eq_true ?_))
    rw [MoveCall.lockedIds_eq hbatch]
    exact hid

theorem Conserved.mem_entries_of_commit {row : OutboxRow} (hs : s.Conserved fromisoformat)
    (h : (s.commit b).outbox.find? id = some row) : id ∈ s.entries.map OutboxRow.id := by
  rw [find?_commit] at h
  split at h
  · cases h
  · obtain ⟨old, hold, -⟩ := Option.map_eq_some_iff.mp h
    exact hs.rows id old hold

/-- A commit concerns the rows of its batch, and no call that is left has locked one. -/
theorem Conserved.commit (hs : s.Conserved fromisoformat) (hb : s.Holds fromisoformat b)
    (hfree : ∀ call ∈ s.calls, ∀ id ∈ call.lockedIds, id ∉ b.rowIds) :
    (s.commit b).Conserved fromisoformat where
  entries := fun entry hentry => by
    obtain ⟨place, hplace⟩ := hs.entries entry hentry
    exact isAt_commit hb hplace
  rows := fun _ _ hrow => hs.mem_entries_of_commit hrow
  origins := fun log hlog => by
    rcases List.mem_append.mp hlog with hold | hnew
    · exact hs.origins log hold
    · obtain ⟨row, hrow, hfrom⟩ := hb.sound.comesFrom log hnew
      rw [hfrom.origin]
      exact hs.rows row.id row (hb.rows row hrow).1
  locks := hs.locks
  batches := fun call hcall b' hb' => by
    refine (hs.batches call hcall b' hb').frame (fun id hid => ?_) fun _ => Nat.le_refl _
    refine find?_commit_of_notMem hb.sound (hfree call hcall id ?_)
    rw [MoveCall.lockedIds_eq hb']
    exact hid
  counts := hs.counts

/-- The end of a call writes what it has done, or nothing. -/
theorem Conserved.finish {i : ℕ} {call : MoveCall} {ending : Ending}
    (hs : s.Conserved fromisoformat) (hcall : s.calls[i]? = some call)
    (hbatch : call.batch = some b) (hservice : s.services[call.process]? = some service) :
    ((s.release i call (endBatch (service, b) ending).1).endTransaction b ending).Conserved
      fromisoformat := by
  have hholds := hs.batches call (List.mem_of_getElem? hcall) b hbatch
  have hcounts := hs.counts service (List.mem_of_getElem? hservice)
  have hreleased : (s.release i call (endBatch (service, b) ending).1).Conserved fromisoformat :=
    hs.release hcall hcounts
  rw [endTransaction]
  split
  · exact hreleased.commit (hholds.frame (fun _ _ => rfl) fun _ => Nat.le_refl _)
      (hs.notMem_rowIds hcall hbatch)
  · exact hreleased

theorem Conserved.started (hs : s.Conserved fromisoformat) :
    Conserved fromisoformat { s with services := s.services ++ [⟨⟨0, 0, 0⟩, .empty⟩] } where
  entries := hs.entries
  rows := hs.rows
  origins := hs.origins
  locks := hs.locks
  batches := fun call hcall b hb =>
    (hs.batches call hcall b hb).frame (fun _ _ => rfl) fun _ => Nat.le_refl _
  counts := forall_append (fun _ => Nat.zero_le _) hs.counts

/-- **Every step keeps the invariant.** -/
theorem Conserved.step {a : AuditLabel} (hs : s.Conserved fromisoformat)
    (h : s.step fromisoformat a = some s') : s'.Conserved fromisoformat := by
  cases step_moves h with
  | started => exact hs.started
  | inserted hnew hprocessed hinsert => exact hs.insert hnew hprocessed hinsert
  | selected => exact hs.select _
  | dealt hcall hbatch hservice hrow => exact hs.deal hcall hbatch hservice hrow
  | ended hcall hbatch hservice => exact hs.finish hcall hbatch hservice

/-- **Conservation.** After any steps of any number of processes and movers, an entry whose `INSERT`
was committed is at exactly one place: unprocessed in the outbox, once in the audit log, or marked
as processed after at least `MAX_RETRY_COUNT` attempts that failed. -/
theorem conservation (fromisoformat : String → Option ℤ) {labels : List AuditLabel}
    (h : exec (AuditServer.step fromisoformat) empty labels = some s) (hentry : entry ∈ s.entries) :
    ∃! place, s.IsAt fromisoformat entry place := by
  have hs := exec_invariant (fun _ _ _ hs _ hstep => hs.step hstep) conserved_empty
    (along_true _ _) h
  obtain ⟨place, hplace⟩ := hs.entries entry hentry
  exact ⟨place, hplace, fun place' hplace' => hplace'.unique hplace⟩

/-- Two movers, of which the second finds the row locked, a commit that fails, and one that does
not. -/
def exampleLabels : List AuditLabel :=
  [.startProcess, .startProcess, .insert "entry" 0 (.obj []), .moveBatch 0, .moveBatch 1,
    .row 0 .next, .row 0 (.answered succeeds), .finish 0 ⟨true, false, some .exception⟩,
    .finish 1 ⟨true, true, none⟩, .moveBatch 1, .row 2 .next, .row 2 (.answered succeeds),
    .finish 2 ⟨true, true, none⟩]

theorem conservation_two_movers :
    ∃! place, IsAt (fun _ => none)
      ((exec (AuditServer.step fun _ => none) empty exampleLabels).get (by decide)) exampleRow
      place :=
  conservation _ (Option.some_get _).symm (.head _)

end AuditServer

end AuditOutbox

end OpenLangGraph

import OpenLangGraph.Services.AuditMovers

/-!
# The outbox runs empty

One mover that calls `_move_batch` again and again, in an outbox that nobody else touches, with rows
that can never be inserted.

## Four calls for a window

A batch takes the oldest rows. What has been among them stays among them until it is moved or given
up, since there are no new rows and the rows before it can only go. A row that cannot be inserted is
tried three times and given up at the fourth, unless its count is forgotten meanwhile. Between two
attempts of it at most all other rows of two batches fail, and the cache is larger than that. So
four calls take the oldest five hundred rows out of the outbox, whatever rows these are.

## Scope

No transaction fails, and whether a row can be inserted does not change. The rows have different
times of creation, so their order is that of these times.

## Main definitions

* `LoneMover`, `LoneMover.moveBatch` — a whole call
* `Answers` — whether a row can be inserted
* `LoneMover.queue` — the unprocessed rows, the oldest first
* `LoneMover.Settled` — a row has been moved, or given up

## Main results

* `exec_turns` — a call is a run of the steps of a batch
* `recent_turns` — what has been counted in a batch is not forgotten before the next
* `queue_moveBatch` — what is left in the queue
* `outbox_drained` — when it is empty
-/

namespace OpenLangGraph

open Transition

namespace AuditOutbox

/-- A mover: the outbox, the audit log, and the counters of the service. -/
structure LoneMover where
  outbox : Table OutboxRow.id
  auditLogs : List AuditLog
  service : AuditOutboxService

/-- One turn of the loop over the rows of a batch. -/
def turn (fromisoformat : String → Option ℤ) (answers : OutboxRow → InsertAnswers)
    (s : AuditOutboxService × Batch) (row : OutboxRow) : AuditOutboxService × Batch :=
  if maxRetryCount ≤ s.1.retryCache.get row.id then
    (⟨{ s.1.metrics with poisonPills := s.1.metrics.poisonPills + 1 },
      s.1.retryCache.clear row.id⟩,
      { s.2 with rest := s.2.rest.tail, poisonIds := s.2.poisonIds ++ [row.id] })
  else
    finishRow (s.1, { s.2 with rest := s.2.rest.tail, attempting := some row }) row
      (attempt fromisoformat row (answers row))

/-- The loop. -/
def turns (fromisoformat : String → Option ℤ) (answers : OutboxRow → InsertAnswers)
    (s : AuditOutboxService × Batch) (rows : List OutboxRow) : AuditOutboxService × Batch :=
  rows.foldl (turn fromisoformat answers) s

/-- `_move_batch`, with its commit. -/
def LoneMover.moveBatch (fromisoformat : String → Option ℤ) (answers : OutboxRow → InsertAnswers)
    (m : LoneMover) : LoneMover :=
  let rows := selectRows m.outbox []
  let s := turns fromisoformat answers (m.service, .begin rows) rows
  { outbox := (m.outbox.deleteIf (·.id ∈ s.2.successIds)).updateIf (·.id ∈ s.2.poisonIds)
      OutboxRow.markProcessed OutboxRow.id_markProcessed
    auditLogs := m.auditLogs ++ s.2.inserted
    service := (endBatch s ⟨true, true, none⟩).1 }

/-- The mover after some calls. -/
def LoneMover.run (fromisoformat : String → Option ℤ) (answers : ℕ → OutboxRow → InsertAnswers)
    (m : LoneMover) : ℕ → LoneMover
  | 0 => m
  | calls + 1 => (m.run fromisoformat answers calls).moveBatch fromisoformat (answers calls)

/-- The answers to a row are those of one that can be inserted, or of one that cannot. -/
def Answers (fromisoformat : String → Option ℤ) (canInsert : OutboxRow → Bool)
    (answers : OutboxRow → InsertAnswers) : Prop :=
  ∀ row, if canInsert row = true then
    ∃ log, attempt fromisoformat row (answers row) = .moved log
  else attempt fromisoformat row (answers row) = .failed

/-- The unprocessed rows, the oldest first. -/
def LoneMover.queue (m : LoneMover) : List OutboxRow :=
  (m.outbox.rows.filter fun row => !row.processed).insertionSort
    fun a b => a.createdAt ≤ b.createdAt

/-- A row that can be inserted is in the audit log and in the outbox no more; another one is marked
as processed. -/
def LoneMover.Settled (fromisoformat : String → Option ℤ) (canInsert : OutboxRow → Bool)
    (row : OutboxRow) (m : LoneMover) : Prop :=
  if canInsert row = true then
    m.outbox.find? row.id = none ∧ ∃ log ∈ m.auditLogs, log.ComesFrom fromisoformat row
  else m.outbox.find? row.id = some row.markProcessed

/-! ### One turn -/

variable {fromisoformat : String → Option ℤ} {canInsert : OutboxRow → Bool}
  {answers : OutboxRow → InsertAnswers} {s : AuditOutboxService × Batch} {row : OutboxRow}

/-- What a turn does: it gives the row up, moves it, or counts the failure. -/
theorem turn_cases (hanswers : Answers fromisoformat canInsert answers) :
    (maxRetryCount ≤ s.1.retryCache.get row.id ∧
      (turn fromisoformat answers s row).1.retryCache = s.1.retryCache.clear row.id ∧
      (turn fromisoformat answers s row).2.successIds = s.2.successIds ∧
      (turn fromisoformat answers s row).2.poisonIds = s.2.poisonIds ++ [row.id] ∧
      (turn fromisoformat answers s row).2.inserted = s.2.inserted) ∨
    (s.1.retryCache.get row.id < maxRetryCount ∧ canInsert row = true ∧
      (turn fromisoformat answers s row).1.retryCache = s.1.retryCache.clear row.id ∧
      (turn fromisoformat answers s row).2.successIds = s.2.successIds ++ [row.id] ∧
      (turn fromisoformat answers s row).2.poisonIds = s.2.poisonIds ∧
      ∃ log, log.ComesFrom fromisoformat row ∧
        (turn fromisoformat answers s row).2.inserted = s.2.inserted ++ [log]) ∨
    (s.1.retryCache.get row.id < maxRetryCount ∧ canInsert row = false ∧
      (turn fromisoformat answers s row).1.retryCache = s.1.retryCache.increment row.id ∧
      (turn fromisoformat answers s row).2.successIds = s.2.successIds ∧
      (turn fromisoformat answers s row).2.poisonIds = s.2.poisonIds ∧
      (turn fromisoformat answers s row).2.inserted = s.2.inserted) := by
  have hrow := hanswers row
  rw [turn]
  by_cases hpoison : maxRetryCount ≤ s.1.retryCache.get row.id
  · rw [if_pos hpoison]
    exact .inl ⟨hpoison, rfl, rfl, rfl, rfl⟩
  · rw [if_neg hpoison]
    have hlt := Nat.lt_of_not_le hpoison
    by_cases hcan : canInsert row = true
    · rw [if_pos hcan] at hrow
      obtain ⟨log, hlog⟩ := hrow
      rw [hlog]
      exact .inr (.inl ⟨hlt, hcan, rfl, rfl, rfl, log, attempt_eq_moved hlog, rfl⟩)
    · rw [if_neg hcan] at hrow
      rw [hrow]
      exact .inr (.inr ⟨hlt, Bool.eq_false_of_not_eq_true hcan, rfl, rfl, rfl, rfl⟩)

/-- A turn is a run of one or two steps. -/
theorem exec_turn (hanswers : Answers fromisoformat canInsert answers) {rest : List OutboxRow}
    (hattempting : s.2.attempting = none) (hrest : s.2.rest = row :: rest)
    (haborted : s.2.aborted = false) :
    ∃ events, exec (rowStep fromisoformat) s events = some (turn fromisoformat answers s row) ∧
      (turn fromisoformat answers s row).2.attempting = none ∧
      (turn fromisoformat answers s row).2.rest = rest ∧
      (turn fromisoformat answers s row).2.aborted = false := by
  obtain ⟨service, rows, rest', attempting, inserted, movedCount, successIds, poisonIds,
    aborted⟩ := s
  dsimp only at hattempting hrest haborted
  subst hattempting hrest haborted
  have hrow := hanswers row
  rw [turn]
  by_cases hpoison : maxRetryCount ≤ service.retryCache.get row.id
  · rw [if_pos hpoison]
    refine ⟨[.next], ?_, rfl, rfl, rfl⟩
    rw [exec_cons, rowStep, nextRow]
    dsimp only
    rw [if_pos hpoison]
    rfl
  · have hbegins : ∀ result, attempt fromisoformat row (answers row) = result →
        exec (rowStep fromisoformat) (service, ⟨rows, row :: rest, none, inserted, movedCount,
          successIds, poisonIds, false⟩) [.next, .answered (answers row)] =
        some (finishRow (service, ⟨rows, rest, some row, inserted, movedCount, successIds,
          poisonIds, false⟩) row result) := by
      rintro result rfl
      rw [exec_cons, rowStep, nextRow]
      dsimp only
      rw [if_neg hpoison, if_neg Bool.false_ne_true]
      rfl
    rw [if_neg hpoison]
    refine ⟨[.next, .answered (answers row)], hbegins _ rfl, ?_⟩
    by_cases hcan : canInsert row = true
    · rw [if_pos hcan] at hrow
      obtain ⟨log, hlog⟩ := hrow
      rw [hlog]
      exact ⟨rfl, rfl, rfl⟩
    · rw [if_neg hcan] at hrow
      rw [hrow]
      exact ⟨rfl, rfl, rfl⟩

/-- **A call is a run** of the steps of a batch, to its end. -/
theorem exec_turns (hanswers : Answers fromisoformat canInsert answers) {rows : List OutboxRow}
    (hattempting : s.2.attempting = none) (hrest : s.2.rest = rows)
    (haborted : s.2.aborted = false) :
    ∃ events, exec (rowStep fromisoformat) s events = some (turns fromisoformat answers s rows) ∧
      (turns fromisoformat answers s rows).2.canEnd ⟨true, true, none⟩ = true := by
  induction rows generalizing s with
  | nil =>
    refine ⟨[], rfl, ?_⟩
    rw [turns, List.foldl_nil, Batch.canEnd, hrest, hattempting, haborted]
    rfl
  | cons row rows ih =>
    obtain ⟨first, hfirst, hattempting', hrest', haborted'⟩ :=
      exec_turn hanswers hattempting hrest haborted
    obtain ⟨events, hevents, hend⟩ := ih hattempting' hrest' haborted'
    refine ⟨first ++ events, ?_, hend⟩
    rw [exec_append, hfirst]
    exact hevents

/-! ### Counts during a batch -/

variable {rows : List OutboxRow} {key : String} {n m k : ℕ}

theorem turns_cons (row : OutboxRow) (rows : List OutboxRow) :
    turns fromisoformat answers s (row :: rows) =
      turns fromisoformat answers (turn fromisoformat answers s row) rows := rfl

/-- A turn forgets the count of the row, or adds to it. -/
theorem retryCache_turn (hanswers : Answers fromisoformat canInsert answers) :
    (turn fromisoformat answers s row).1.retryCache = s.1.retryCache.clear row.id ∨
      (turn fromisoformat answers s row).1.retryCache = s.1.retryCache.increment row.id := by
  rcases @turn_cases _ _ _ s row hanswers with ⟨-, hcache, -⟩ | ⟨-, -, hcache, -⟩ |
    ⟨-, -, hcache, -⟩
  · exact .inl hcache
  · exact .inl hcache
  · exact .inr hcache

/-- The turn of another row puts at most one entry after this one. -/
theorem recent_turn (hanswers : Answers fromisoformat canInsert answers)
    (h : s.1.retryCache.Recent key n m) (hne : key ≠ row.id) (hm : m + 1 < maxRetryCacheSize) :
    (turn fromisoformat answers s row).1.retryCache.Recent key n (m + 1) := by
  rcases @retryCache_turn _ _ _ s row hanswers with hcache | hcache
  · rw [hcache]
    exact (h.clear hne).mono (Nat.le_succ m)
  · rw [hcache]
    exact h.increment hne hm

/-- **What has been counted is not forgotten** while fewer rows have their turns than the cache has
entries. -/
theorem recent_turns (hanswers : Answers fromisoformat canInsert answers)
    (h : s.1.retryCache.Recent key n m) (hne : key ∉ rows.map OutboxRow.id)
    (hm : m + rows.length < maxRetryCacheSize) :
    (turns fromisoformat answers s rows).1.retryCache.Recent key n (m + rows.length) := by
  induction rows generalizing s m with
  | nil => exact h
  | cons row rows ih =>
    rw [List.map_cons, List.mem_cons, not_or] at hne
    rw [List.length_cons] at hm ⊢
    have hturn := recent_turn hanswers h hne.1 (by omega)
    have hrest := ih hturn hne.2 (by omega)
    rw [turns_cons]
    exact hrest.mono (by omega)

/-- The count of another row can only be forgotten. -/
theorem get_turn_le (hanswers : Answers fromisoformat canInsert answers) (hne : key ≠ row.id) :
    (turn fromisoformat answers s row).1.retryCache.get key ≤ s.1.retryCache.get key := by
  rcases @retryCache_turn _ _ _ s row hanswers with hcache | hcache
  · rw [hcache, LruRetryCache.get_clear, if_neg hne]
  · rw [hcache]
    exact s.1.retryCache.get_increment_other hne

theorem get_turns_le (hanswers : Answers fromisoformat canInsert answers)
    (hne : key ∉ rows.map OutboxRow.id) :
    (turns fromisoformat answers s rows).1.retryCache.get key ≤ s.1.retryCache.get key := by
  induction rows generalizing s with
  | nil => exact Nat.le_refl _
  | cons row rows ih =>
    rw [List.map_cons, List.mem_cons, not_or] at hne
    rw [turns_cons]
    exact Nat.le_trans (ih hne.2) (get_turn_le hanswers hne.1)

/-! ### What a batch decides -/

theorem decided_turn (hanswers : Answers fromisoformat canInsert answers) :
    s.2.successIds ⊆ (turn fromisoformat answers s row).2.successIds ∧
      s.2.poisonIds ⊆ (turn fromisoformat answers s row).2.poisonIds ∧
      s.2.inserted ⊆ (turn fromisoformat answers s row).2.inserted := by
  rcases @turn_cases _ _ _ s row hanswers with ⟨-, -, hs, hp, hi⟩ |
    ⟨-, -, -, hs, hp, log, -, hi⟩ | ⟨-, -, -, hs, hp, hi⟩
  · rw [hs, hp, hi]
    exact ⟨List.Subset.refl _, List.subset_append_left _ _, List.Subset.refl _⟩
  · rw [hs, hp, hi]
    exact ⟨List.subset_append_left _ _, List.Subset.refl _, List.subset_append_left _ _⟩
  · rw [hs, hp, hi]
    exact ⟨List.Subset.refl _, List.Subset.refl _, List.Subset.refl _⟩

/-- What has been decided stays. -/
theorem decided_turns (hanswers : Answers fromisoformat canInsert answers) :
    s.2.successIds ⊆ (turns fromisoformat answers s rows).2.successIds ∧
      s.2.poisonIds ⊆ (turns fromisoformat answers s rows).2.poisonIds ∧
      s.2.inserted ⊆ (turns fromisoformat answers s rows).2.inserted := by
  induction rows generalizing s with
  | nil => exact ⟨List.Subset.refl _, List.Subset.refl _, List.Subset.refl _⟩
  | cons row rows ih =>
    obtain ⟨hs, hp, hi⟩ := @decided_turn _ _ _ s row hanswers
    obtain ⟨hs', hp', hi'⟩ := @ih (turn fromisoformat answers s row)
    exact ⟨List.Subset.trans hs hs', List.Subset.trans hp hp', List.Subset.trans hi hi'⟩

/-- The row has failed `k` times, and its count is near enough to the end of the cache to be there
when its turn comes in the next batch. -/
def Tried (k : ℕ) (c : LruRetryCache) (key : String) : Prop :=
  k = 0 ∨ ∃ n m, k ≤ n ∧ c.Recent key n m ∧ m ≤ batchSize

/-- **The turn of a row**: it is moved or given up, or it has failed once more, which it can only do
three times. -/
theorem tried_turns (hanswers : Answers fromisoformat canInsert answers)
    (hunique : (rows.map OutboxRow.id).Nodup) (hlength : rows.length ≤ batchSize)
    (hrow : row ∈ rows) (htried : Tried k s.1.retryCache row.id) :
    row.id ∈ (turns fromisoformat answers s rows).2.successIds ∨
      row.id ∈ (turns fromisoformat answers s rows).2.poisonIds ∨
      (k < maxRetryCount ∧
        Tried (k + 1) (turns fromisoformat answers s rows).1.retryCache row.id) := by
  obtain ⟨before, after, rfl⟩ := List.append_of_mem hrow
  rw [List.map_append, List.map_cons, List.nodup_append] at hunique
  obtain ⟨-, hafter, hbefore⟩ := hunique
  have hnotAfter := (List.nodup_cons.mp hafter).1
  have hnotBefore : row.id ∉ before.map OutboxRow.id := fun hmem =>
    hbefore _ hmem _ List.mem_cons_self rfl
  rw [List.length_append, List.length_cons, batchSize] at hlength
  -- the state when its turn comes
  have hcount : k ≤ (turns fromisoformat answers s before).1.retryCache.get row.id := by
    rcases htried with rfl | ⟨n, m, hle, hrecent, hm⟩
    · exact Nat.zero_le _
    · rw [batchSize] at hm
      have hsize : m + before.length < maxRetryCacheSize := by
        rw [maxRetryCacheSize]
        omega
      rw [(recent_turns hanswers hrecent hnotBefore hsize).get_eq]
      exact hle
  have hsplit : turns fromisoformat answers s (before ++ row :: after) =
      turns fromisoformat answers
        (turn fromisoformat answers (turns fromisoformat answers s before) row) after := by
    rw [turns, List.foldl_append]
    rfl
  rw [hsplit]
  generalize turns fromisoformat answers s before = t at hcount
  obtain ⟨hsuccess, hpoison, -⟩ := @decided_turns _ _ _ (turn fromisoformat answers t row) after
    hanswers
  rcases @turn_cases _ _ _ t row hanswers with ⟨-, -, -, hp, -⟩ | ⟨-, -, -, hs, -⟩ |
    ⟨hlt, -, hcache, -⟩
  · rw [hp] at hpoison
    exact .inr (.inl (hpoison (List.mem_append_right _ (List.mem_singleton_self _))))
  · rw [hs] at hsuccess
    exact .inl (hsuccess (List.mem_append_right _ (List.mem_singleton_self _)))
  · have hrecent := t.1.retryCache.recent_increment_self row.id
    rw [← hcache] at hrecent
    have hsize : 0 + after.length < maxRetryCacheSize := by
      rw [maxRetryCacheSize]
      omega
    refine .inr (.inr ⟨by omega, .inr ⟨_, _, Nat.succ_le_succ hcount,
      recent_turns hanswers hrecent hnotAfter hsize, ?_⟩⟩)
    rw [batchSize]
    omega

/-- A row that can be inserted and has not been given up is moved. -/
theorem success_turns (hanswers : Answers fromisoformat canInsert answers)
    (hunique : (rows.map OutboxRow.id).Nodup) (hrow : row ∈ rows) (hcan : canInsert row = true)
    (hget : s.1.retryCache.get row.id < maxRetryCount) :
    row.id ∈ (turns fromisoformat answers s rows).2.successIds := by
  obtain ⟨before, after, rfl⟩ := List.append_of_mem hrow
  rw [List.map_append, List.map_cons, List.nodup_append] at hunique
  have hnotBefore : row.id ∉ before.map OutboxRow.id := fun hmem =>
    hunique.2.2 _ hmem _ List.mem_cons_self rfl
  have hle := @get_turns_le _ _ _ s before row.id hanswers hnotBefore
  rw [turns, List.foldl_append, List.foldl_cons]
  rw [turns] at hle
  generalize before.foldl (turn fromisoformat answers) s = t at hle
  obtain ⟨hsuccess, -, -⟩ := @decided_turns _ _ _ (turn fromisoformat answers t row) after hanswers
  rcases @turn_cases _ _ _ t row hanswers with ⟨hpoison, -⟩ | ⟨-, -, -, hs, -⟩ | ⟨-, hnot, -⟩
  · omega
  · rw [hs] at hsuccess
    exact hsuccess (List.mem_append_right _ (List.mem_singleton_self _))
  · rw [hcan] at hnot
    cases hnot

theorem decided_only_turn (hanswers : Answers fromisoformat canInsert answers)
    (hfresh : canInsert row = true → s.1.retryCache.get row.id < maxRetryCount) :
    (∀ id ∈ (turn fromisoformat answers s row).2.successIds, id ∈ s.2.successIds ∨
      (row.id = id ∧ canInsert row = true ∧
        ∃ log ∈ (turn fromisoformat answers s row).2.inserted,
          log.ComesFrom fromisoformat row)) ∧
    ∀ id ∈ (turn fromisoformat answers s row).2.poisonIds, id ∈ s.2.poisonIds ∨
      (row.id = id ∧ canInsert row = false) := by
  rcases @turn_cases _ _ _ s row hanswers with ⟨hge, -, hs, hp, -⟩ |
    ⟨-, hcan, -, hs, hp, log, hlog, hi⟩ | ⟨-, -, -, hs, hp, -⟩
  · rw [hs, hp]
    refine ⟨fun id hid => .inl hid, fun id hid => ?_⟩
    rcases List.mem_append.mp hid with hold | hnew
    · exact .inl hold
    · refine .inr ⟨(List.mem_singleton.mp hnew).symm, Bool.eq_false_of_not_eq_true fun hcan => ?_⟩
      have hlt := hfresh hcan
      omega
  · rw [hs, hp, hi]
    refine ⟨fun id hid => ?_, fun id hid => .inl hid⟩
    rcases List.mem_append.mp hid with hold | hnew
    · exact .inl hold
    · exact .inr ⟨(List.mem_singleton.mp hnew).symm, hcan, log,
        List.mem_append_right _ (List.mem_singleton_self _), hlog⟩
  · rw [hs, hp]
    exact ⟨fun id hid => .inl hid, fun id hid => .inl hid⟩

/-- **What is decided**: the rows that are moved can be inserted, and those that are given up
cannot, if none of the former has been given up before. -/
theorem decided_only (hanswers : Answers fromisoformat canInsert answers)
    (hunique : (rows.map OutboxRow.id).Nodup)
    (hfresh : ∀ row ∈ rows, canInsert row = true → s.1.retryCache.get row.id < maxRetryCount) :
    (∀ id ∈ (turns fromisoformat answers s rows).2.successIds, id ∈ s.2.successIds ∨
      ∃ row ∈ rows, row.id = id ∧ canInsert row = true ∧
        ∃ log ∈ (turns fromisoformat answers s rows).2.inserted, log.ComesFrom fromisoformat row) ∧
    ∀ id ∈ (turns fromisoformat answers s rows).2.poisonIds, id ∈ s.2.poisonIds ∨
      ∃ row ∈ rows, row.id = id ∧ canInsert row = false := by
  induction rows generalizing s with
  | nil => exact ⟨fun id hid => .inl hid, fun id hid => .inl hid⟩
  | cons row rows ih =>
    rw [List.map_cons, List.nodup_cons] at hunique
    obtain ⟨hnot, hunique⟩ := hunique
    have hfresh' : ∀ r ∈ rows, canInsert r = true →
        (turn fromisoformat answers s row).1.retryCache.get r.id < maxRetryCount := by
      intro r hr hcan
      have hne : r.id ≠ row.id := fun heq => hnot (heq ▸ List.mem_map_of_mem hr)
      exact Nat.lt_of_le_of_lt (get_turn_le hanswers hne)
        (hfresh r (List.mem_cons_of_mem _ hr) hcan)
    obtain ⟨hsuccess, hpoison⟩ := ih hunique hfresh'
    obtain ⟨-, -, hinserted⟩ :=
      @decided_turns _ _ _ (turn fromisoformat answers s row) rows hanswers
    obtain ⟨hsuccess', hpoison'⟩ :=
      @decided_only_turn _ _ _ s row hanswers (hfresh row List.mem_cons_self)
    rw [turns_cons]
    constructor
    · intro id hid
      rcases hsuccess id hid with hfirst | ⟨r, hr, hrest⟩
      · rcases hsuccess' id hfirst with hold | ⟨hid', hcan, log, hlog, hcomes⟩
        · exact .inl hold
        · exact .inr ⟨row, List.mem_cons_self, hid', hcan, log, hinserted hlog, hcomes⟩
      · exact .inr ⟨r, List.mem_cons_of_mem _ hr, hrest⟩
    · intro id hid
      rcases hpoison id hid with hfirst | ⟨r, hr, hrest⟩
      · rcases hpoison' id hfirst with hold | hnew
        · exact .inl hold
        · exact .inr ⟨row, List.mem_cons_self, hnew⟩
      · exact .inr ⟨r, List.mem_cons_of_mem _ hr, hrest⟩

/-! ### The queue -/

variable {mover : LoneMover}

/-- The last state of the loop of a call. -/
def LoneMover.loop (fromisoformat : String → Option ℤ) (answers : OutboxRow → InsertAnswers)
    (mover : LoneMover) : AuditOutboxService × Batch :=
  turns fromisoformat answers (mover.service, .begin (selectRows mover.outbox []))
    (selectRows mover.outbox [])

/-- The order of the queue. -/
abbrev OutboxRow.NotAfter (a b : OutboxRow) : Prop := a.createdAt ≤ b.createdAt

/-- The rows have different times of creation. -/
def LoneMover.Ordered (mover : LoneMover) : Prop := (mover.queue.map OutboxRow.createdAt).Nodup

theorem mem_queue : row ∈ mover.queue ↔ row ∈ mover.outbox.rows ∧ row.processed = false := by
  rw [LoneMover.queue, List.mem_insertionSort, List.mem_filter, Bool.not_eq_true']

theorem nodup_queue (mover : LoneMover) : (mover.queue.map OutboxRow.id).Nodup :=
  ((List.perm_insertionSort _ _).map OutboxRow.id).nodup_iff.mpr
    (mover.outbox.unique.sublist (List.filter_sublist.map _))

theorem selectRows_eq (mover : LoneMover) :
    selectRows mover.outbox [] = mover.queue.take batchSize := by
  rw [selectRows, LoneMover.queue]
  simp

/-- A row is known by its id. -/
theorem eq_of_id {r : OutboxRow} (hrow : row ∈ mover.outbox.rows) (hr : r ∈ mover.outbox.rows)
    (hid : r.id = row.id) : r = row :=
  List.inj_on_of_nodup_map mover.outbox.unique hr hrow hid

/-- The rows of the outbox after a commit that are not processed. -/
theorem unprocessed_commit (rows : List OutboxRow) (successIds poisonIds : List String) :
    ((rows.filter fun row => !decide (row.id ∈ successIds)).map fun row =>
        if decide (row.id ∈ poisonIds) = true then row.markProcessed else row).filter
        (fun row => !row.processed) =
      (rows.filter fun row => !row.processed).filter
        fun row => !decide (row.id ∈ successIds) && !decide (row.id ∈ poisonIds) := by
  induction rows with
  | nil => rfl
  | cons row rows ih =>
    by_cases hsuccess : row.id ∈ successIds
    · rw [List.filter_cons_of_neg (by simp [hsuccess]), ih]
      cases hprocessed : row.processed with
      | true => rw [List.filter_cons_of_neg (by simp [hprocessed])]
      | false =>
        rw [List.filter_cons_of_pos (by simp [hprocessed]),
          List.filter_cons_of_neg (by simp [hsuccess])]
    · rw [List.filter_cons_of_pos (by simp [hsuccess]), List.map_cons]
      by_cases hpoison : row.id ∈ poisonIds
      · rw [if_pos (decide_eq_true hpoison),
          List.filter_cons_of_neg (by simp [OutboxRow.markProcessed]), ih]
        cases hprocessed : row.processed with
        | true => rw [List.filter_cons_of_neg (by simp [hprocessed])]
        | false =>
          rw [List.filter_cons_of_pos (by simp [hprocessed]),
            List.filter_cons_of_neg (by simp [hpoison])]
      · rw [if_neg (by simp [hpoison])]
        cases hprocessed : row.processed with
        | true =>
          rw [List.filter_cons_of_neg (by simp [hprocessed]), ih,
            List.filter_cons_of_neg (by simp [hprocessed])]
        | false =>
          rw [List.filter_cons_of_pos (by simp [hprocessed]), ih,
            List.filter_cons_of_pos (by simp [hprocessed]),
            List.filter_cons_of_pos (by simp [hsuccess, hpoison])]

/-- **What is left in the queue** after a call. -/
theorem queue_moveBatch (h : mover.Ordered) :
    (mover.moveBatch fromisoformat answers).queue = mover.queue.filter fun row =>
      !decide (row.id ∈ (mover.loop fromisoformat answers).2.successIds) &&
        !decide (row.id ∈ (mover.loop fromisoformat answers).2.poisonIds) := by
  have hperm : (mover.moveBatch fromisoformat answers).queue.Perm (mover.queue.filter fun row =>
      !decide (row.id ∈ (mover.loop fromisoformat answers).2.successIds) &&
        !decide (row.id ∈ (mover.loop fromisoformat answers).2.poisonIds)) := by
    refine (List.perm_insertionSort OutboxRow.NotAfter _).trans ?_
    show List.Perm ((List.map _ (List.filter _ mover.outbox.rows)).filter _) _
    rw [unprocessed_commit]
    exact (List.perm_insertionSort OutboxRow.NotAfter _).symm.filter _
  have hsorted : mover.queue.Pairwise OutboxRow.NotAfter :=
    List.pairwise_insertionSort OutboxRow.NotAfter _
  refine @List.Perm.eq_of_pairwise _ OutboxRow.NotAfter _ _ (fun a b ha hb hab hba => ?_)
    (List.pairwise_insertionSort OutboxRow.NotAfter _) (hsorted.sublist List.filter_sublist) hperm
  have ha' := List.mem_of_mem_filter (hperm.mem_iff.mp ha)
  have hb' := List.mem_of_mem_filter hb
  exact List.inj_on_of_nodup_map h ha' hb' (Nat.le_antisymm hab hba)

theorem ordered_moveBatch (h : mover.Ordered) :
    (mover.moveBatch fromisoformat answers).Ordered := by
  rw [LoneMover.Ordered, queue_moveBatch h]
  exact List.Nodup.sublist (List.filter_sublist.map _) h

theorem mem_queue_moveBatch (h : mover.Ordered) :
    row ∈ (mover.moveBatch fromisoformat answers).queue ↔ row ∈ mover.queue ∧
      row.id ∉ (mover.loop fromisoformat answers).2.successIds ∧
      row.id ∉ (mover.loop fromisoformat answers).2.poisonIds := by
  rw [queue_moveBatch h, List.mem_filter, Bool.and_eq_true, Bool.not_eq_true', Bool.not_eq_true',
    decide_eq_false_iff_not, decide_eq_false_iff_not]

theorem retryCache_moveBatch : (mover.moveBatch fromisoformat answers).service.retryCache =
    (mover.loop fromisoformat answers).1.retryCache := rfl

/-- No row that can be inserted has been given up. -/
def LoneMover.Fresh (canInsert : OutboxRow → Bool) (mover : LoneMover) : Prop :=
  ∀ row ∈ mover.queue, canInsert row = true →
    mover.service.retryCache.get row.id < maxRetryCount

/-- A service that starts has given nothing up. -/
theorem fresh_of_empty (canInsert : OutboxRow → Bool) (h : mover.service.retryCache = .empty) :
    mover.Fresh canInsert := by
  intro row _ _
  rw [h]
  exact Nat.zero_lt_succ _

theorem mem_queue_of_selectRows (h : row ∈ selectRows mover.outbox []) : row ∈ mover.queue := by
  rw [selectRows_eq] at h
  exact List.mem_of_mem_take h

theorem fresh_moveBatch (hanswers : Answers fromisoformat canInsert answers) (h : mover.Ordered)
    (hfresh : mover.Fresh canInsert) :
    (mover.moveBatch fromisoformat answers).Fresh canInsert := by
  intro row hrow hcan
  obtain ⟨hqueue, hnotSuccess, -⟩ := (mem_queue_moveBatch h).mp hrow
  have hnotSelected : row.id ∉ (selectRows mover.outbox []).map OutboxRow.id := by
    intro hid
    obtain ⟨r, hr, hrid⟩ := List.mem_map.mp hid
    obtain rfl := eq_of_id (mem_queue.mp hqueue).1
      (mem_queue.mp (mem_queue_of_selectRows hr)).1 hrid
    exact hnotSuccess (success_turns hanswers (nodup_selectRows _ _) hr hcan
      (hfresh r hqueue hcan))
  rw [retryCache_moveBatch, LoneMover.loop]
  exact Nat.lt_of_le_of_lt (get_turns_le hanswers hnotSelected) (hfresh row hqueue hcan)

/-! ### What becomes of a row -/

theorem find?_moveBatch (key : String) :
    (mover.moveBatch fromisoformat answers).outbox.find? key =
      ((mover.outbox.deleteIf
        (·.id ∈ (mover.loop fromisoformat answers).2.successIds)).find? key).map fun row =>
          if decide (row.id ∈ (mover.loop fromisoformat answers).2.poisonIds) = true then
            row.markProcessed else row :=
  Table.find?_updateIf OutboxRow.id_markProcessed key

/-- What a call decides is about rows of the queue. -/
theorem decided_loop (hanswers : Answers fromisoformat canInsert answers)
    (hfresh : mover.Fresh canInsert) :
    (∀ id ∈ (mover.loop fromisoformat answers).2.successIds, ∃ row ∈ mover.queue, row.id = id ∧
      canInsert row = true ∧ ∃ log ∈ (mover.loop fromisoformat answers).2.inserted,
        log.ComesFrom fromisoformat row) ∧
    ∀ id ∈ (mover.loop fromisoformat answers).2.poisonIds, ∃ row ∈ mover.queue, row.id = id ∧
      canInsert row = false := by
  have hselected : ∀ row ∈ selectRows mover.outbox [], canInsert row = true →
      mover.service.retryCache.get row.id < maxRetryCount := fun row hrow =>
    hfresh row (mem_queue_of_selectRows hrow)
  obtain ⟨hsuccess, hpoison⟩ := @decided_only _ _ _
    (mover.service, .begin (selectRows mover.outbox [])) _ hanswers (nodup_selectRows _ _) hselected
  constructor
  · intro id hid
    rcases hsuccess id hid with hold | ⟨row, hrow, hrest⟩
    · cases hold
    · exact ⟨row, mem_queue_of_selectRows hrow, hrest⟩
  · intro id hid
    rcases hpoison id hid with hold | ⟨row, hrow, hrest⟩
    · cases hold
    · exact ⟨row, mem_queue_of_selectRows hrow, hrest⟩

/-- **A row stays in the queue or is settled.** -/
theorem queue_or_settled (hanswers : Answers fromisoformat canInsert answers) (h : mover.Ordered)
    (hfresh : mover.Fresh canInsert) (hrow : row ∈ mover.queue) :
    row ∈ (mover.moveBatch fromisoformat answers).queue ∨
      (mover.moveBatch fromisoformat answers).Settled fromisoformat canInsert row := by
  obtain ⟨hsuccess, hpoison⟩ := decided_loop hanswers hfresh
  have houtbox := (mem_queue.mp hrow).1
  rw [mem_queue_moveBatch h, and_iff_right hrow, LoneMover.Settled, find?_moveBatch]
  by_cases hmoved : row.id ∈ (mover.loop fromisoformat answers).2.successIds
  · obtain ⟨r, hr, hid, hcan, log, hlog, hcomes⟩ := hsuccess _ hmoved
    obtain rfl := eq_of_id houtbox (mem_queue.mp hr).1 hid
    have hgone : (mover.outbox.deleteIf
        (·.id ∈ (mover.loop fromisoformat answers).2.successIds)).find? r.id = none :=
      Table.find?_deleteIf_of_all fun other hother => decide_eq_true (hother ▸ hmoved)
    rw [if_pos hcan, hgone]
    exact .inr ⟨rfl, log, List.mem_append_right _ hlog, hcomes⟩
  · by_cases hgiven : row.id ∈ (mover.loop fromisoformat answers).2.poisonIds
    · obtain ⟨r, hr, hid, hcan⟩ := hpoison _ hgiven
      obtain rfl := eq_of_id houtbox (mem_queue.mp hr).1 hid
      have hthere : (mover.outbox.deleteIf
          (·.id ∈ (mover.loop fromisoformat answers).2.successIds)).find? r.id = some r := by
        rw [Table.find?_deleteIf_of_not fun other hother => decide_eq_false (hother ▸ hmoved)]
        exact Table.find?_key houtbox
      rw [if_neg (ne_true_of_eq_false hcan), hthere, Option.map_some,
        if_pos (decide_eq_true hgiven)]
      exact .inr rfl
    · exact .inl ⟨hmoved, hgiven⟩

/-- What is settled stays so. -/
theorem settled_moveBatch (hanswers : Answers fromisoformat canInsert answers)
    (hfresh : mover.Fresh canInsert) (h : mover.Settled fromisoformat canInsert row) :
    (mover.moveBatch fromisoformat answers).Settled fromisoformat canInsert row := by
  obtain ⟨hsuccess, hpoison⟩ := decided_loop hanswers hfresh
  rw [LoneMover.Settled] at h ⊢
  by_cases hcan : canInsert row = true
  · rw [if_pos hcan] at h ⊢
    obtain ⟨hgone, log, hlog, hcomes⟩ := h
    refine ⟨?_, log, List.mem_append_left _ hlog, hcomes⟩
    rw [find?_moveBatch, Table.find?_deleteIf, hgone]
    rfl
  · rw [if_neg hcan] at h ⊢
    -- a row that is marked is not in the queue, so no call decides about it
    have hmarked : ∀ r ∈ mover.queue, r.id ≠ row.id := by
      intro r hr hid
      obtain ⟨houtbox, hprocessed⟩ := mem_queue.mp hr
      have hfound := Table.find?_key houtbox
      rw [hid, h] at hfound
      rw [← Option.some.inj hfound] at hprocessed
      cases hprocessed
    have hnotMoved : row.id ∉ (mover.loop fromisoformat answers).2.successIds := by
      intro hid
      obtain ⟨r, hr, hrid, -⟩ := hsuccess _ hid
      exact hmarked r hr hrid
    have hnotGiven : row.id ∉ (mover.loop fromisoformat answers).2.poisonIds := by
      intro hid
      obtain ⟨r, hr, hrid, -⟩ := hpoison _ hid
      exact hmarked r hr hrid
    rw [find?_moveBatch,
      Table.find?_deleteIf_of_not fun other hother => decide_eq_false (hother ▸ hnotMoved), h,
      Option.map_some, if_neg]
    exact ne_true_of_eq_false (decide_eq_false hnotGiven)

/-! ### Calls -/

/-- What is among the first of a list is among the first of a part of it. -/
theorem mem_take_of_sublist {α : Type} {l l' : List α} (h : l'.Sublist l) (hl : l.Nodup) {k : ℕ}
    {a : α} (ha : a ∈ l') (hk : a ∈ l.take k) : a ∈ l'.take k := by
  rw [← List.take_append_drop k l] at h hl
  obtain ⟨first, rest, rfl, hfirst, hrest⟩ := List.sublist_append_iff.mp h
  have hnot : a ∉ rest := fun hmem =>
    List.disjoint_of_nodup_append hl hk (hrest.subset hmem)
  have hmem := (List.mem_append.mp ha).resolve_right hnot
  have hlength : first.length ≤ k :=
    Nat.le_trans hfirst.length_le (List.length_take_le _ _)
  rw [List.take_append, List.take_of_length_le hlength]
  exact List.mem_append_left _ hmem

/-- A part of a list without its first elements is a part of the others. -/
theorem sublist_drop_of_disjoint {α : Type} {l l' : List α} (h : l'.Sublist l) {k : ℕ}
    (hdisjoint : ∀ a ∈ l.take k, a ∉ l') : l'.Sublist (l.drop k) := by
  rw [← List.take_append_drop k l] at h
  obtain ⟨first, rest, rfl, hfirst, hrest⟩ := List.sublist_append_iff.mp h
  have hnil : first = [] := List.eq_nil_iff_forall_not_mem.mpr fun a ha =>
    hdisjoint a (hfirst.subset ha) (List.mem_append_left _ ha)
  rw [hnil, List.nil_append]
  exact hrest

section

variable {answers : ℕ → OutboxRow → InsertAnswers}
  (hanswers : ∀ call, Answers fromisoformat canInsert (answers call))

theorem run_succ (calls : ℕ) : mover.run fromisoformat answers (calls + 1) =
    (mover.run fromisoformat answers calls).moveBatch fromisoformat (answers calls) := rfl

theorem run_add (first calls : ℕ) : mover.run fromisoformat answers (first + calls) =
    (mover.run fromisoformat answers first).run fromisoformat (fun call => answers (first + call))
      calls := by
  induction calls with
  | zero => rfl
  | succ calls ih => rw [← Nat.add_assoc, run_succ, run_succ, ih]

theorem ordered_run (h : mover.Ordered) (calls : ℕ) :
    (mover.run fromisoformat answers calls).Ordered := by
  induction calls with
  | zero => exact h
  | succ calls ih => exact ordered_moveBatch ih

theorem sublist_run (h : mover.Ordered) (calls : ℕ) :
    (mover.run fromisoformat answers calls).queue.Sublist mover.queue := by
  induction calls with
  | zero => exact List.Sublist.refl _
  | succ calls ih =>
    rw [run_succ, queue_moveBatch (ordered_run h calls)]
    exact List.filter_sublist.trans ih

include hanswers

theorem fresh_run (h : mover.Ordered) (hfresh : mover.Fresh canInsert) (calls : ℕ) :
    (mover.run fromisoformat answers calls).Fresh canInsert := by
  induction calls with
  | zero => exact hfresh
  | succ calls ih => exact fresh_moveBatch (hanswers calls) (ordered_run h calls) ih

/-- **The window**: one of the oldest rows that is still there after some calls has failed in each
of them, and there are three of them at most. -/
theorem tried_run (h : mover.Ordered) (hrow : row ∈ mover.queue.take batchSize) {calls : ℕ}
    (hthere : row ∈ (mover.run fromisoformat answers calls).queue) :
    calls ≤ maxRetryCount ∧
      Tried calls (mover.run fromisoformat answers calls).service.retryCache row.id := by
  induction calls with
  | zero => exact ⟨Nat.zero_le _, .inl rfl⟩
  | succ calls ih =>
    obtain ⟨hbefore, hnotMoved, hnotGiven⟩ :=
      (mem_queue_moveBatch (ordered_run h calls)).mp hthere
    obtain ⟨-, htried⟩ := ih hbefore
    have hselected : row ∈ selectRows (mover.run fromisoformat answers calls).outbox [] := by
      rw [selectRows_eq]
      exact mem_take_of_sublist (sublist_run h calls) (nodup_queue mover).of_map hbefore hrow
    have hturn := @tried_turns _ _ _
      ((mover.run fromisoformat answers calls).service,
        .begin (selectRows (mover.run fromisoformat answers calls).outbox [])) row _ _
      (hanswers calls) (nodup_selectRows _ _) (length_selectRows _ _) hselected htried
    exact (hturn.resolve_left hnotMoved).resolve_left hnotGiven

/-- Four calls take the oldest rows out of the queue. -/
theorem sublist_drop_run (h : mover.Ordered) :
    (mover.run fromisoformat answers (maxRetryCount + 1)).queue.Sublist
      (mover.queue.drop batchSize) := by
  apply sublist_drop_of_disjoint (sublist_run h _)
  intro row hrow hthere
  have hle := (tried_run hanswers h hrow hthere).1
  omega

/-- **The rounds**: four calls for every five hundred rows. -/
theorem length_queue_run (h : mover.Ordered) (rounds : ℕ) :
    (mover.run fromisoformat answers ((maxRetryCount + 1) * rounds)).queue.length ≤
      mover.queue.length - batchSize * rounds := by
  induction rounds with
  | zero => exact Nat.le_refl _
  | succ rounds ih =>
    have hordered := @ordered_run fromisoformat _ answers h ((maxRetryCount + 1) * rounds)
    have hround := (sublist_drop_run
      (fun call => hanswers ((maxRetryCount + 1) * rounds + call)) hordered).length_le
    rw [List.length_drop] at hround
    rw [Nat.mul_add_one, Nat.mul_add_one, run_add]
    omega

/-- A row of the queue is settled when it is not in the queue any more. -/
theorem settled_run (h : mover.Ordered) (hfresh : mover.Fresh canInsert) (hrow : row ∈ mover.queue)
    (calls : ℕ) : row ∈ (mover.run fromisoformat answers calls).queue ∨
      (mover.run fromisoformat answers calls).Settled fromisoformat canInsert row := by
  induction calls with
  | zero => exact .inl hrow
  | succ calls ih =>
    have hfresh' := fresh_run hanswers h hfresh calls
    rcases ih with hthere | hsettled
    · exact queue_or_settled (hanswers calls) (ordered_run h calls) hfresh' hthere
    · exact .inr (settled_moveBatch (hanswers calls) hfresh' hsettled)

end

/-- **Poison rows do not block the outbox**: after four calls for every five hundred rows no row is
unprocessed, the rows that can be inserted have been moved, and the others are marked as processed.
-/
theorem outbox_drained (fromisoformat : String → Option ℤ) (canInsert : OutboxRow → Bool)
    (answers : ℕ → OutboxRow → InsertAnswers)
    (hanswers : ∀ call, Answers fromisoformat canInsert (answers call)) (mover : LoneMover)
    (hordered : mover.Ordered) (hfresh : mover.Fresh canInsert) (calls : ℕ)
    (hcalls : (maxRetryCount + 1) * ((mover.queue.length + (batchSize - 1)) / batchSize) ≤ calls) :
    (∀ row ∈ (mover.run fromisoformat answers calls).outbox.rows, row.processed = true) ∧
      ∀ row ∈ mover.queue,
        (mover.run fromisoformat answers calls).Settled fromisoformat canInsert row := by
  have hlength := length_queue_run hanswers hordered
    ((mover.queue.length + (batchSize - 1)) / batchSize)
  have hmore : (mover.run fromisoformat answers calls).queue.length ≤ (mover.run fromisoformat
      answers ((maxRetryCount + 1) *
        ((mover.queue.length + (batchSize - 1)) / batchSize))).queue.length := by
    obtain ⟨more, rfl⟩ := Nat.exists_eq_add_of_le hcalls
    rw [run_add]
    exact (sublist_run (ordered_run hordered _) more).length_le
  have hnil : (mover.run fromisoformat answers calls).queue = [] := by
    apply List.eq_nil_of_length_eq_zero
    rw [batchSize] at *
    omega
  constructor
  · intro row hrow
    by_contra hprocessed
    have hthere := mem_queue.mpr ⟨hrow, Bool.eq_false_of_not_eq_true hprocessed⟩
    rw [hnil] at hthere
    cases hthere
  · intro row hrow
    have hsettled := settled_run hanswers hordered hfresh hrow calls
    rw [hnil] at hsettled
    exact hsettled.resolve_left List.not_mem_nil

/-! ### A good row behind a bad one -/

/-- An entry whose payload is no object. -/
def badRow : OutboxRow where
  id := "bad"
  createdAt := 0
  payload := .arr []
  processed := false

/-- A later entry with an empty payload. -/
def goodRow : OutboxRow where
  id := "good"
  createdAt := 1
  payload := .obj []
  processed := false

def twoRows : LoneMover where
  outbox := ⟨[badRow, goodRow], List.nodup_cons.mpr
    ⟨List.not_mem_cons_of_ne_of_not_mem (of_decide_eq_true rfl) List.not_mem_nil,
      List.nodup_singleton _⟩⟩
  auditLogs := []
  service := exampleService

/-- The payload is an object. -/
def hasMembers (row : OutboxRow) : Bool :=
  match row.payload with
  | .obj _ => true
  | _ => false

theorem answers_succeeds : Answers (fun _ => none) hasMembers fun _ => succeeds := by
  intro row
  rw [hasMembers, attempt]
  cases row.payload with
  | obj members => exact ⟨_, rfl⟩
  | _ => rfl

/-- After four calls the good row has been moved and the bad one has been given up. -/
theorem outbox_drained_two :
    (∀ row ∈ (twoRows.run (fun _ => none) (fun _ _ => succeeds) 4).outbox.rows,
      row.processed = true) ∧
      ∀ row ∈ twoRows.queue,
        (twoRows.run (fun _ => none) (fun _ _ => succeeds) 4).Settled (fun _ => none) hasMembers
          row :=
  outbox_drained (fun _ => none) hasMembers (fun _ _ => succeeds) (fun _ => answers_succeeds)
    twoRows (show (twoRows.queue.map OutboxRow.createdAt).Nodup by decide)
    (fresh_of_empty hasMembers rfl) 4 (by decide)

end AuditOutbox

end OpenLangGraph

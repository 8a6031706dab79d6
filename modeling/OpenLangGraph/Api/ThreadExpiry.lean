import OpenLangGraph.Api.ThreadAccess
import OpenLangGraph.Foundation.RelyGuarantee

/-!
# Threads that expire

`services/thread_cleanup_service.py` beside the endpoints of `api/threads.py`: a pass of the cleanup
asks for the threads that have expired, and deletes those that are not to be archived. The manual
trigger `cleanup_now` asks for them in one query.

## A pass goes by what it has read

Between the query and the commit of a pass, a thread may get more time, and is deleted all the same.
So what keeps a thread is not what it is like at the commit but what its owner has asked for: as
long as the owner neither deletes it nor gives it a time to live that ends in deletion, it stays.
Everybody else may send any requests, at any time, to this thread or to others.

## Scope

The rows of the runs, which go with a thread, are left out, and so are the loop that waits an hour
between two passes, and the number that `cleanup_now` returns.

## Main definitions

* `cleanupExpiredThreads`, `cleanupNow` — the two passes
* `ThreadCall.Spares` — a request that does not ask for the deletion of a thread

## Main results

* `ThreadCall.keeps_program`, `ExpiryCall.valid_program` — what the endpoints and the passes keep
* `kept_unless_asked`
-/

namespace OpenLangGraph

namespace ThreadAccess

open ThreadCopy Transition Interleaving

variable {ν : Type}

/-! ### The cleanup -/

/-- `expires_at <= now` -/
def isExpired (now : ℤ) (row : ThreadRow) : Bool := row.expiresAt.any (· ≤ now)

/-- `thread.ttl_strategy or "delete"` -/
def strategy (row : ThreadRow) : String := (row.ttlStrategy.filter (· ≠ "")).getD "delete"

/-- A statement of an endpoint, or the commit of a pass. -/
inductive ExpiryStatement (ν : Type)
  | request (statement : ThreadStatement ν)
  | deleteThreads (threadIds : List String)

def ExpiryStatement.apply :
    ExpiryStatement ν → ThreadStore ν → Except ThreadError (ThreadStore ν)
  | .request statement, s => statement.apply s
  | .deleteThreads threadIds, s =>
    .ok { s with threads := s.threads.deleteIf fun row => threadIds.contains row.threadId }

abbrev ExpiryProgram (ν : Type) := Program (ThreadStore ν) (ExpiryStatement ν) ThreadError

/-- A pass that deletes the rows of a condition. -/
def cleanup (condition : ThreadRow → Bool) : ExpiryProgram ν :=
  .select fun s =>
  .write (.deleteThreads ((s.threads.rows.filter condition).map (·.threadId))) <|
  .ended (.ok ())

/-- `_cleanup_expired_threads` -/
def cleanupExpiredThreads (now : ℤ) : ExpiryProgram ν :=
  cleanup fun row => isExpired now row && strategy row = "delete"

/-- `cleanup_now` -/
def cleanupNow (now : ℤ) : ExpiryProgram ν :=
  cleanup fun row => isExpired now row && row.ttlStrategy = some "delete"

/-- A request, a step of a run, or a pass. -/
inductive ExpiryCall (ν : Type)
  | request (call : ThreadCall ν)
  | cleanupExpiredThreads (now : ℤ)
  | cleanupNow (now : ℤ)

def ExpiryCall.program (accepts : JsonObject → Bool) : ExpiryCall ν → ExpiryProgram ν
  | .request call => (call.program accepts).lift id .request
  | .cleanupExpiredThreads now => ThreadAccess.cleanupExpiredThreads now
  | .cleanupNow now => ThreadAccess.cleanupNow now

/-! ### What keeps a thread -/

variable (threadId identity : String)

/-- The thread does not expire, or is archived. -/
def Lasting (row : ThreadRow) : Prop := row.expiresAt = none ∨ row.ttlStrategy = some "archive"

/-- The user's thread is there, and lasts. -/
def Kept (s : ThreadStore ν) : Prop :=
  ∃ row, s.threads.find? threadId = some row ∧ row.userId = identity ∧ Lasting row

/-- Once it is to be archived it remains so. -/
def StaysArchived (s s' : ThreadStore ν) : Prop :=
  ∀ row, s.threads.find? threadId = some row → row.ttlStrategy = some "archive" →
    ∃ row', s'.threads.find? threadId = some row' ∧ row'.ttlStrategy = some "archive"

/-- The request does not ask that the thread of the user be deleted, now or when it expires. A run
leaves the columns of the time to live alone. -/
def ThreadCall.Spares : ThreadCall ν → Prop
  | .deleteThread user id => id = threadId → user.identity ≠ identity
  | .updateThread user id request _ => id = threadId → user.identity = identity →
      ∀ ttl, request.parseTtl = .ok (some ttl) → ttl.2 ≠ "delete"
  | .run _ id writes => id = threadId → ∀ row tuples change, .update change ∈ writes row tuples →
      ∀ r, (change.run r).ttlStrategy = r.ttlStrategy ∧ (change.run r).expiresAt = r.expiresAt
  | _ => True

def ExpiryCall.Spares : ExpiryCall ν → Prop
  | .request call => call.Spares threadId identity
  | .cleanupExpiredThreads _ | .cleanupNow _ => True

/-- The statement leaves the thread there, and lasting. -/
def ThreadStatement.Spares (s : ThreadStore ν) : ThreadStatement ν → Prop
  | .flushThread id change | .updateThread id change => id = threadId →
      ∀ row, s.threads.find? threadId = some row → Lasting row → Lasting (change.run row) ∧
        (row.ttlStrategy = some "archive" → (change.run row).ttlStrategy = some "archive")
  | .deleteThread id => id ≠ threadId
  | .insertThread _ | .putCheckpoint _ | .answer _ _ => True

variable {threadId identity} {s s' : ThreadStore ν} {user : User} {accepts : JsonObject → Bool}

theorem StaysArchived.refl (s : ThreadStore ν) : StaysArchived threadId s s :=
  fun row hrow harchived => ⟨row, hrow, harchived⟩

theorem StaysArchived.trans (x y z : ThreadStore ν) (hxy : StaysArchived threadId x y)
    (hyz : StaysArchived threadId y z) : StaysArchived threadId x z := by
  intro row hrow harchived
  obtain ⟨row', hrow', harchived'⟩ := hxy row hrow harchived
  exact hyz row' hrow' harchived'

/-! ### What a statement does to the thread -/

theorem kept_of_find?_eq (h : s'.threads.find? threadId = s.threads.find? threadId)
    (hs : Kept threadId identity s) :
    Kept threadId identity s' ∧ StaysArchived threadId s s' := by
  obtain ⟨row, hrow, hkept⟩ := hs
  exact ⟨⟨row, h.trans hrow, hkept⟩, fun row' hrow' harchived => ⟨row', h.trans hrow', harchived⟩⟩

theorem kept_change {id : String} {change : RowChange} (hs : Kept threadId identity s)
    (hspares : id = threadId → ∀ row, s.threads.find? threadId = some row → Lasting row →
      Lasting (change.run row) ∧
        (row.ttlStrategy = some "archive" → (change.run row).ttlStrategy = some "archive")) :
    Kept threadId identity (s.change id change) ∧
      StaysArchived threadId s (s.change id change) := by
  by_cases hid : id = threadId
  · subst hid
    obtain ⟨row, hrow, huser, hlasting⟩ := hs
    obtain ⟨hlasting', harchived⟩ := hspares rfl row hrow hlasting
    have hfind : (s.change id change).threads.find? id = some (change.run row) := by
      show (s.threads.updateIf _ _ change.threadId_run).find? id = _
      rw [Table.find?_updateIf, hrow, Option.map_some,
        if_pos (decide_eq_true (Table.find?_eq_some_iff.mp hrow).2)]
    refine ⟨⟨_, hfind, (change.userId_run row).trans huser, hlasting'⟩,
      fun row' hrow' hold => ⟨_, hfind, ?_⟩⟩
    obtain rfl := Option.some.inj (hrow.symm.trans hrow')
    exact harchived hold
  · exact kept_of_find?_eq (Table.find?_updateIf_of_ne change.threadId_run (Ne.symm hid)) hs

/-- The id of a new row is not that of the thread. -/
theorem ne_of_insertThread {row : ThreadRow} (hs : Kept threadId identity s)
    (happly : (ThreadStatement.insertThread row).apply s = .ok s') : row.threadId ≠ threadId := by
  obtain ⟨found, hfound, -⟩ := hs
  obtain ⟨hmem, hid⟩ := Table.find?_eq_some_iff.mp hfound
  rw [ThreadStatement.apply] at happly
  split at happly
  · cases happly
  · next threads hinsert =>
    intro hnew
    exact (Table.insert_eq_some hinsert).1 (List.mem_map.mpr ⟨found, hmem, hid.trans hnew.symm⟩)

theorem ThreadStatement.Spares.apply {statement : ThreadStatement ν}
    (h : statement.Spares threadId s) (hs : Kept threadId identity s)
    (happly : statement.apply s = .ok s') :
    Kept threadId identity s' ∧ StaysArchived threadId s s' := by
  cases statement with
  | insertThread row =>
    have hne : threadId ≠ row.threadId := (ne_of_insertThread hs happly).symm
    rw [ThreadStatement.apply] at happly
    split at happly
    · cases happly
    · next threads hinsert =>
      cases happly
      refine kept_of_find?_eq ?_ hs
      show threads.find? threadId = _
      rw [Table.find?_insert hinsert, if_neg hne]
  | flushThread id change =>
    rw [ThreadStatement.apply] at happly
    split at happly
    · cases happly
    · cases happly
      exact kept_change hs h
  | updateThread id change =>
    cases happly
    exact kept_change hs h
  | deleteThread id =>
    cases happly
    exact kept_of_find?_eq (Table.find?_deleteIf_of_ne (Ne.symm h)) hs
  | putCheckpoint tuple =>
    cases happly
    exact kept_of_find?_eq rfl hs
  | answer identity a =>
    cases happly
    exact kept_of_find?_eq rfl hs

/-! ### The endpoints -/

/-- What a request reads as the own thread of its user is the thread, and the user its owner. -/
theorem find?_of_lookUp {row : ThreadRow} (hs : Kept threadId identity s)
    (h : lookUp threadId (isOwn user) s = .ok row) :
    s.threads.find? threadId = some row ∧ user.identity = identity := by
  obtain ⟨hrow, hid, hown⟩ := ThreadCall.lookUp_eq_ok h
  have hfind : s.threads.find? threadId = some row := Table.find?_eq_some_iff.mpr ⟨hrow, hid⟩
  obtain ⟨found, hfound, huser, -⟩ := hs
  obtain rfl := Option.some.inj (hfind.symm.trans hfound)
  exact ⟨hfind, (of_decide_eq_true hown).symm.trans huser⟩

theorem strategy_of_parse {given : ThreadUpdate.Ttl} {ttl : ℤ × String}
    (h : given.parse = .ok ttl) : ttl.2 = "delete" ∨ ttl.2 = "archive" := by
  cases given with
  | seconds n =>
    cases h
    exact .inl rfl
  | dict members =>
    rw [ThreadUpdate.Ttl.parse] at h
    split at h
    · cases h
    · split at h
      · cases h
        exact .inl rfl
      · split at h
        · cases h
          exact .inl rfl
        · split at h
          · cases h
            exact .inr rfl
          · cases h

theorem parseTtl_eq_some {request : ThreadUpdate.ThreadUpdateRequest} {ttl : ℤ × String}
    (h : request.parseTtl = .ok (some ttl)) : ttl.2 = "delete" ∨ ttl.2 = "archive" := by
  rw [ThreadUpdate.ThreadUpdateRequest.parseTtl] at h
  split at h
  · cases h
  · next given _ =>
    cases hparse : given.parse with
    | error e =>
      rw [hparse] at h
      cases h
    | ok parsed =>
      rw [hparse] at h
      cases h
      exact strategy_of_parse hparse

/-- An update that does not ask for the deletion, of a row that has been read before. -/
theorem lasting_updateChange {request : ThreadUpdate.ThreadUpdateRequest}
    {ttl : Option (ℤ × String)} {now : ℤ} {loaded row : ThreadRow}
    (hparse : request.parseTtl = .ok ttl)
    (hspares : ∀ ttl, request.parseTtl = .ok (some ttl) → ttl.2 ≠ "delete")
    (hloaded : loaded.ttlStrategy = some "archive" → row.ttlStrategy = some "archive")
    (h : Lasting row) :
    Lasting ((updateChange request ttl now loaded).run row) ∧
      (row.ttlStrategy = some "archive" →
        ((updateChange request ttl now loaded).run row).ttlStrategy = some "archive") := by
  cases ttl with
  | none => exact ⟨h, id⟩
  | some ttl =>
    obtain ⟨seconds, strategy⟩ := ttl
    obtain rfl : strategy = "archive" :=
      (parseTtl_eq_some hparse).resolve_left (hspares _ hparse)
    have harchived : ((updateChange request (some (seconds, "archive")) now loaded).run
        row).ttlStrategy = some "archive" := by
      dsimp only [updateChange, flushed, Option.map_some]
      split
      · next hsame => exact hloaded hsame.symm
      · rfl
    exact ⟨.inr harchived, fun _ => harchived⟩

namespace ThreadCall

open Program

variable (threadId identity) in
/-- The program keeps the thread. -/
abbrev Keeps (p : ThreadProgram ν) (s : ThreadStore ν) : Prop :=
  Valid (StaysArchived threadId) (Kept threadId identity) ThreadStatement.apply p s

theorem keeps_write {statement : ThreadStatement ν} {next : ThreadProgram ν}
    (h : ∀ x, StaysArchived threadId s x → Kept threadId identity x → statement.Spares threadId x)
    (hnext : ∀ x, Keeps threadId identity next x) :
    Keeps threadId identity (.write statement next) s := by
  intro x x' hx hkept happly
  obtain ⟨hkept', hx'⟩ := (h x hx hkept).apply hkept happly
  exact ⟨hkept', hx', hnext x'⟩

theorem keeps_reply (a : Answer ν) : Keeps threadId identity (reply user a) s :=
  keeps_write (fun _ _ _ => trivial) fun _ => trivial

theorem keeps_copyState {id : String} {row : ThreadRow} {aput : Fate} {checkpoint : Checkpoint ν}
    (hrow : row.threadId ≠ threadId) :
    Keeps threadId identity (copyState user id row aput checkpoint) s := by
  have hput : ∀ (rest : ThreadProgram ν) (x : ThreadStore ν),
      (∀ y, Keeps threadId identity rest y) →
      Keeps threadId identity (if aput.applied then
        .write (.putCheckpoint (copyTuple id row.threadId checkpoint)) rest else rest) x := by
    intro rest x hrest
    split
    · exact keeps_write (fun _ _ _ => trivial) hrest
    · exact hrest x
  cases aput with
  | returns => exact hput _ s fun _ => keeps_reply _
  | raises message applied =>
    exact hput _ s fun _ => keeps_write (fun _ _ _ => hrow) fun _ => trivial
  | cancelled applied => exact hput _ s fun _ => trivial

theorem keeps_writeAll {id : String} {writes : List (RunWrite ν)}
    (hwrites : id = threadId → ∀ change, .update change ∈ writes → ∀ r,
      (change.run r).ttlStrategy = r.ttlStrategy ∧ (change.run r).expiresAt = r.expiresAt) :
    Keeps threadId identity (writeAll id writes) s := by
  induction writes generalizing s with
  | nil => exact trivial
  | cons w writes ih =>
    refine keeps_write (fun x _ _ => ?_) fun x =>
      ih fun hid change hmem => hwrites hid change (List.mem_cons_of_mem _ hmem)
    cases w with
    | put checkpoint metadata => exact trivial
    | update change =>
      intro hid row _ hlasting
      obtain ⟨hstrategy, hexpires⟩ := hwrites hid change (List.mem_cons_self ..) row
      exact ⟨by rwa [Lasting, hstrategy, hexpires], fun h => hstrategy.trans h⟩

/-- **The endpoints keep the thread**, if nobody asks for its deletion. -/
theorem keeps_program {call : ThreadCall ν} (hcall : call.Spares threadId identity) :
    Keeps threadId identity (call.program accepts) s := by
  cases call with
  | createThread user id metadata now =>
    exact keeps_write (fun _ _ _ => trivial) fun _ _ _ _ => keeps_reply _
  | listThreads user => exact fun _ _ _ => keeps_reply _
  | getThread user id => exact valid_read fun _ _ _ _ _ => keeps_reply _
  | getState user id query =>
    refine valid_read fun _ row _ _ _ => ?_
    split
    · exact trivial
    · exact valid_read fun _ _ _ _ _ => keeps_reply _
  | getHistory user id named query =>
    refine valid_read fun _ row _ _ _ => ?_
    split
    · exact keeps_reply _
    · exact valid_read fun _ _ _ _ _ => keeps_reply _
  | searchThreads user query => exact fun _ _ _ => keeps_reply _
  | countThreads user query => exact fun _ _ _ => keeps_reply _
  | updateThread user id request now =>
    refine valid_read fun y loaded _ hy hloaded => ?_
    split
    · exact trivial
    · exact trivial
    · next ttl hparse =>
      split
      · refine keeps_write (fun x hx _ hid row hrow hlasting => ?_) fun _ =>
          valid_read fun _ _ _ _ _ => keeps_reply _
        subst hid
        obtain ⟨hfind, huser⟩ := find?_of_lookUp hy hloaded
        refine lasting_updateChange hparse (hcall rfl huser) (fun harchived => ?_) hlasting
        obtain ⟨row', hrow', harchived'⟩ := hx loaded hfind harchived
        obtain rfl := Option.some.inj (hrow.symm.trans hrow')
        exact harchived'
      · exact trivial
  | deleteThread user id =>
    refine valid_read fun y _ _ hy hloaded => keeps_write (fun _ _ _ => ?_) fun _ => keeps_reply _
    rintro rfl
    exact hcall rfl (find?_of_lookUp hy hloaded).2
  | copyThread user id request newThreadId now aput =>
    refine valid_read fun _ source _ _ _ => valid_read fun _ state _ _ _ => ?_
    intro x x' _ hkept happly
    have hspares : (ThreadStatement.insertThread (newRow user newThreadId
        (finalMetadata source.toThread id request) now)).Spares threadId x := trivial
    obtain ⟨hkept', hx'⟩ := hspares.apply hkept happly
    refine ⟨hkept', hx', ?_⟩
    split
    · exact keeps_reply _
    · exact keeps_copyState (ne_of_insertThread hkept happly)
  | run user id writes =>
    exact fun y _ _ => keeps_writeAll fun hid change hmem => hcall hid _ _ change hmem

end ThreadCall

/-! ### The passes -/

/-- The commit of a pass deletes what the pass has read, whatever has become of it since. -/
theorem find?_of_deleteThreads {threadIds : List String} (id : String)
    (happly : (ExpiryStatement.deleteThreads threadIds).apply s = .ok s') :
    s'.threads.find? id = if id ∈ threadIds then none else s.threads.find? id := by
  cases happly
  split
  · next hmem =>
    exact Table.find?_deleteIf_of_all fun row hrow => by
      rwa [hrow, List.contains_eq_mem, decide_eq_true_iff]
  · next hmem =>
    exact Table.find?_deleteIf_of_not fun row hrow => by
      rw [hrow, List.contains_eq_mem, decide_eq_false hmem]

/-- A pass that deletes no row that lasts. -/
theorem valid_cleanup {condition : ThreadRow → Bool}
    (h : ∀ row, Lasting row → condition row = false) :
    Program.Valid (StaysArchived threadId) (Kept threadId identity) ExpiryStatement.apply
      (cleanup condition : ExpiryProgram ν) s := by
  intro y _ hy
  obtain ⟨row, hrow, -, hlasting⟩ := hy
  have hselected : threadId ∉ (y.threads.rows.filter condition).map (·.threadId) := by
    intro hmem
    obtain ⟨found, hfound, hid⟩ := List.mem_map.mp hmem
    obtain ⟨hmem, hcondition⟩ := List.mem_filter.mp hfound
    obtain rfl := Option.some.inj (hrow.symm.trans (Table.find?_eq_some_iff.mpr ⟨hmem, hid⟩))
    rw [h _ hlasting] at hcondition
    cases hcondition
  intro x x' _ hx happly
  have hfind : x'.threads.find? threadId = x.threads.find? threadId := by
    rw [find?_of_deleteThreads threadId happly, if_neg hselected]
  obtain ⟨hkept, hstays⟩ := kept_of_find?_eq hfind hx
  exact ⟨hkept, hstays, trivial⟩

theorem isExpired_of_none {now : ℤ} {row : ThreadRow} (h : row.expiresAt = none) :
    isExpired now row = false := by
  rw [isExpired, h, Option.any_none]

theorem strategy_of_archive {row : ThreadRow} (h : row.ttlStrategy = some "archive") :
    strategy row = "archive" := by
  rw [strategy, h]
  rfl

theorem ExpiryCall.valid_program {call : ExpiryCall ν} (hcall : call.Spares threadId identity) :
    Program.Valid (StaysArchived threadId) (Kept threadId identity) ExpiryStatement.apply
      (call.program accepts) s := by
  cases call with
  | request call =>
    have hkeeps : ThreadCall.Keeps threadId identity (call.program accepts) (id s) :=
      ThreadCall.keeps_program hcall
    have happly : ∀ (statement : ThreadStatement ν) (x x' : ThreadStore ν),
        (ExpiryStatement.request statement).apply x = .ok x' →
          statement.apply (id x) = .ok (id x') := fun _ _ _ h => h
    exact hkeeps.lift happly
  | cleanupExpiredThreads now =>
    refine valid_cleanup fun row hlasting => ?_
    rcases hlasting with hnone | harchived
    · rw [isExpired_of_none hnone, Bool.false_and]
    · rw [strategy_of_archive harchived]
      exact Bool.and_false _
  | cleanupNow now =>
    refine valid_cleanup fun row hlasting => ?_
    rcases hlasting with hnone | harchived
    · rw [isExpired_of_none hnone, Bool.false_and]
    · simp [harchived]

/-! ### The result -/

/-- Requests, runs and passes at the same time. -/
abbrev expiryStep (accepts : JsonObject → Bool) :
    Interleaving (ThreadStore ν) (ExpiryStatement ν) ThreadError →
      InterleavingLabel (ExpiryCall ν) ThreadError →
        Option (Interleaving (ThreadStore ν) (ExpiryStatement ν) ThreadError) :=
  Interleaving.step (ExpiryCall.program accepts) ExpiryStatement.apply

/-- **A thread is kept unless its owner asks for its deletion**, in every interleaving of the
endpoints, the runs and the passes of the cleanup: at once, or by a time to live. -/
theorem kept_unless_asked {t : Interleaving (ThreadStore ν) (ExpiryStatement ν) ThreadError}
    {labels : List (InterleavingLabel (ExpiryCall ν) ThreadError)}
    (hs : Kept threadId identity s)
    (hcalls : ∀ call ∈ started labels, call.Spares threadId identity)
    (h : exec (expiryStep accepts) ⟨s, []⟩ labels = some t) :
    Kept threadId identity t.state :=
  invariant_of_valid StaysArchived.refl StaysArchived.trans
    (fun _ _ hcall _ => ExpiryCall.valid_program hcall) rfl hs hcalls h

/-- Ada gives her thread a time to live after which it is to be archived. -/
def archiveRequest : ThreadUpdate.ThreadUpdateRequest where
  metadata := none
  ttl := some (.dict [(.str "seconds", .int 5), (.str "strategy", .str "archive")])
  metadata_unique := fun _ hm => by cases hm

/-- A pass comes before, one while the request is being served, and a manual one after the time is
over. Eve tries to delete the thread. -/
def adaArchives : List (InterleavingLabel (ExpiryCall ℕ) ThreadError) :=
  [.start (.cleanupExpiredThreads 0), .step 0, .step 0,
    .start (.request (.updateThread ⟨"ada", some "acme"⟩ "t1" archiveRequest 1)), .step 1,
    .start (.cleanupExpiredThreads 1), .step 2, .step 1, .step 2,
    .start (.request (.deleteThread ⟨"eve", none⟩ "t1")), .step 3,
    .start (.cleanupNow 9), .step 4, .step 4]

theorem kept_unless_asked_ada : Kept "t1" "ada"
    ((exec (expiryStep fun _ => true) ⟨adaStore, []⟩ adaArchives).get rfl).state := by
  have hkept : Kept "t1" "ada" adaStore := ⟨_, rfl, rfl, .inl rfl⟩
  refine kept_unless_asked hkept (fun call hcall => ?_) (Option.some_get _).symm
  have hcases : call = .cleanupExpiredThreads 0 ∨
      call = .request (.updateThread ⟨"ada", some "acme"⟩ "t1" archiveRequest 1) ∨
      call = .cleanupExpiredThreads 1 ∨ call = .request (.deleteThread ⟨"eve", none⟩ "t1") ∨
      call = .cleanupNow 9 := by
    simpa [adaArchives, started] using hcall
  rcases hcases with rfl | rfl | rfl | rfl | rfl
  · exact trivial
  · intro _ _ ttl hparse
    cases hparse
    decide
  · exact trivial
  · exact fun _ => by decide
  · exact trivial

/-- Her thread, which was to be deleted at 1. -/
def expiringStore : ThreadStore ℕ where
  threads := .single { newRow ⟨"ada", some "acme"⟩ "t1" [] 0 with
    ttlSeconds := some 1, ttlStrategy := some "delete", expiresAt := some 1 }
  checkpoints := []
  answered := []

/-- Once a pass has read the thread, it is too late. -/
example : ((exec (expiryStep fun _ => true) ⟨expiringStore, []⟩
    [.start (.cleanupExpiredThreads 1), .step 0,
      .start (.request (.updateThread ⟨"ada", some "acme"⟩ "t1" archiveRequest 1)), .step 1,
      .step 1, .step 1, .step 1, .step 0]).map fun t =>
        (t.state.threads.rows.length, t.state.answered.length)) = some (0, 1) := by
  decide

end ThreadAccess

end OpenLangGraph

import OpenLangGraph.Core.Orm
import OpenLangGraph.Foundation.PlainColumn
import OpenLangGraph.Foundation.PyDict
import OpenLangGraph.Foundation.PyVal
import OpenLangGraph.Foundation.Table

/-!
# Updating a thread

`update_thread` of `api/threads.py`: the metadata of the request are merged into those of the
thread, and its time to live is set. The merge edits the loaded dictionary in place and assigns it
again, so it is written only if there were no metadata before. That other columns of the row are
written does not change that.

## What is left out

The response has the columns of the row after the commit. Of the failures of the database only those
are modelled that the request causes: seconds that the column cannot hold, and metadata that it
cannot. Seconds for which there is no time of expiry are far out of the column's range too.

## Main definitions

* `updateThread`
* `MergesMetadata` — what is asked
* `keepsMetadata` — the condition

## Main results

* `merges_metadata_iff` — which updates merge the metadata
-/

namespace OpenLangGraph

namespace ThreadUpdate

/-! ### Rows and requests -/

/-- A row of `thread`, with the columns of its time to live. Times are in seconds. -/
structure ThreadRow extends Thread where
  updatedAt : ℤ
  ttlSeconds : Option ℤ
  ttlStrategy : Option String
  expiresAt : Option ℤ

abbrev ThreadTable := Table fun row : ThreadRow => row.threadId

/-- `ThreadUpdateRequest.ttl` -/
inductive Ttl
  | seconds (n : ℤ)
  | dict (members : List (PyKey × PyVal))

structure ThreadUpdateRequest where
  metadata : Option JsonObject
  ttl : Option Ttl
  metadata_unique : ∀ m ∈ metadata, (m.map Prod.fst).Nodup

inductive ThreadError
  | httpException (statusCode : ℕ) (detail : String)
  /-- the database refuses the update -/
  | dataError
deriving DecidableEq

/-! ### The endpoint -/

/-- `isinstance(v, int)`, and the number. A boolean is an integer. -/
def asInt : PyVal → Option ℤ
  | .int n => some n
  | .bool b => some b.toNat
  | _ => none

/-- The seconds and the strategy of a request. -/
def Ttl.parse : Ttl → Except ThreadError (ℤ × String)
  | .seconds n => .ok (n, "delete")
  | .dict members =>
    match (PyVal.get members "seconds").bind asInt with
    | none => .error (.httpException 400 "TTL dict must contain 'seconds' as an integer")
    | some n =>
      match PyVal.get members "strategy" with
      | none => .ok (n, "delete")
      | some strategy =>
        if strategy.eqStr "delete" then .ok (n, "delete")
        else if strategy.eqStr "archive" then .ok (n, "archive")
        else .error (.httpException 400 "TTL strategy must be 'delete' or 'archive'")

/-- What the time to live is set to, if it is. -/
def ThreadUpdateRequest.parseTtl (request : ThreadUpdateRequest) :
    Except ThreadError (Option (ℤ × String)) :=
  match request.ttl with
  | none => .ok none
  | some ttl => ttl.parse.map some

/-- What the merge makes the session write to the metadata. -/
def ThreadUpdateRequest.metadataWritten (request : ThreadUpdateRequest) (row : ThreadRow) :
    Option JsonObject :=
  request.metadata.bind fun metadata =>
    PlainColumn.writeBack row.metadataJson (PyDict.update · metadata)

/-- The column `ttl_seconds` can hold the number. -/
def fitsInteger (n : ℤ) : Bool := -2147483648 ≤ n && n ≤ 2147483647

/-- The row after the commit. -/
def updatedRow (request : ThreadUpdateRequest) (ttl : Option (ℤ × String)) (now : ℤ)
    (row : ThreadRow) : ThreadRow :=
  { row with
    metadataJson := (request.metadataWritten row).getD row.metadataJson
    ttlSeconds := (ttl.map Prod.fst).or row.ttlSeconds
    ttlStrategy := (ttl.map Prod.snd).or row.ttlStrategy
    expiresAt := (ttl.map fun ttl => now + ttl.1).or row.expiresAt
    updatedAt := now }

theorem threadId_updatedRow (request : ThreadUpdateRequest) (ttl : Option (ℤ × String)) (now : ℤ)
    (row : ThreadRow) : (updatedRow request ttl now row).threadId = row.threadId := rfl

/-- The columns can hold what is written. -/
def isStorable (accepts : JsonObject → Bool) (request : ThreadUpdateRequest)
    (ttl : Option (ℤ × String)) (row : ThreadRow) : Bool :=
  (request.metadataWritten row).all accepts && ttl.all fun ttl => fitsInteger ttl.1

/-- `update_thread`, and the table after it. Which objects the column of the metadata can hold is
an argument. -/
def updateThread (accepts : JsonObject → Bool) (t : ThreadTable) (user : User) (threadId : String)
    (request : ThreadUpdateRequest) (now : ℤ) : Except ThreadError ThreadRow × ThreadTable :=
  match (t.find? threadId).filter (·.userId = user.identity) with
  | none => (.error (.httpException 404 ("Thread '" ++ threadId ++ "' not found")), t)
  | some row =>
    match request.parseTtl with
    | .error e => (.error e, t)
    | .ok ttl =>
      if isStorable accepts request ttl row then
        (.ok (updatedRow request ttl now row),
          t.updateIf (·.threadId = threadId) (updatedRow request ttl now)
            (threadId_updatedRow request ttl now))
      else (.error .dataError, t)

/-! ### What is asked -/

/-- A member of the merge of the request over what is stored. -/
def mergedMember (metadata : Option JsonObject) (stored : JsonObject) (key : String) :
    Option Json :=
  (metadata.bind (·.lookup key)).or (stored.lookup key)

/-- After success the metadata are the merge of the request over those that were stored; a request
that is rejected changes nothing. -/
structure MergesMetadata (t : ThreadTable) (threadId : String) (request : ThreadUpdateRequest)
    (after : Except ThreadError ThreadRow × ThreadTable) : Prop where
  merged : ∀ thread row, after.1 = .ok thread → t.find? threadId = some row →
    ∃ row', after.2.find? threadId = some row' ∧
      ∀ key, row'.metadataJson.lookup key = mergedMember request.metadata row.metadataJson key
  unchanged : ∀ thread row, after.1 = .ok thread → t.find? threadId = some row →
    request.metadata = none → ∃ row', after.2.find? threadId = some row' ∧
      row'.metadataJson = row.metadataJson
  rejected : ∀ e, after.1 = .error e → after.2 = t

/-- The thread had no metadata, or those of the request are stored already. -/
def keepsMetadata (request : ThreadUpdateRequest) (row : ThreadRow) : Prop :=
  row.metadataJson = [] ∨ ∀ metadata ∈ request.metadata,
    ∀ e ∈ metadata, row.metadataJson.lookup e.1 = some e.2

/-- The request is accepted for this row. -/
def isAccepted (accepts : JsonObject → Bool) (user : User) (request : ThreadUpdateRequest)
    (row : ThreadRow) : Bool :=
  row.userId = user.identity &&
    match request.parseTtl with
    | .ok ttl => isStorable accepts request ttl row
    | .error _ => false

/-! ### The metadata -/

variable {request : ThreadUpdateRequest} {row : ThreadRow}

/-- The metadata after the commit. -/
theorem metadata_updatedRow (ttl : Option (ℤ × String)) (now : ℤ) :
    (updatedRow request ttl now row).metadataJson =
      if row.metadataJson = [] then PyDict.update [] (request.metadata.getD [])
      else row.metadataJson := by
  show (request.metadataWritten row).getD row.metadataJson = _
  rw [ThreadUpdateRequest.metadataWritten]
  cases request.metadata with
  | none =>
    rw [Option.bind_none, Option.getD_none, Option.getD_none]
    split
    · next hempty => exact hempty
    · rfl
  | some metadata =>
    rw [Option.bind_some, Option.getD_some]
    exact PlainColumn.getD_writeBack row.metadataJson (PyDict.update · metadata)

/-- Metadata are what a merge over them gives if and only if they have its members. -/
theorem merged_eq_self_iff (stored : JsonObject) :
    (∀ key, stored.lookup key = mergedMember request.metadata stored key) ↔
      ∀ metadata ∈ request.metadata, ∀ e ∈ metadata, stored.lookup e.1 = some e.2 := by
  cases hmetadata : request.metadata with
  | none => simp [mergedMember]
  | some metadata =>
    have hunique := request.metadata_unique metadata hmetadata
    constructor
    · rintro h _ ⟨⟩ e he
      rw [h e.1, mergedMember, Option.bind_some,
        (PyDict.lookup_eq_some_iff_mem hunique).mpr he, Option.some_or]
    · intro h key
      rw [mergedMember, Option.bind_some]
      cases hkey : metadata.lookup key with
      | none => rw [Option.none_or]
      | some v =>
        rw [Option.some_or]
        exact h metadata rfl (key, v) ((PyDict.lookup_eq_some_iff_mem hunique).mp hkey)

/-- The metadata after the commit are the merge exactly under the condition. -/
theorem merged_updatedRow_iff (ttl : Option (ℤ × String)) (now : ℤ) :
    (∀ key, (updatedRow request ttl now row).metadataJson.lookup key =
      mergedMember request.metadata row.metadataJson key) ↔ keepsMetadata request row := by
  rw [metadata_updatedRow, keepsMetadata]
  by_cases hempty : row.metadataJson = []
  · rw [if_pos hempty, hempty]
    refine iff_of_true (fun key => ?_) (.inl rfl)
    rw [mergedMember]
    cases hmetadata : request.metadata with
    | none => rfl
    | some metadata =>
      rw [Option.getD_some, PyDict.lookup_update_nil (request.metadata_unique metadata hmetadata)]
      exact Option.or_none.symm
  · rw [if_neg hempty, or_iff_right hempty]
    exact merged_eq_self_iff row.metadataJson

/-! ### The update -/

variable {t : ThreadTable} {user : User} {threadId : String} {accepts : JsonObject → Bool}

/-- What a call does. -/
theorem updateThread_cases (accepts : JsonObject → Bool) (t : ThreadTable) (user : User)
    (threadId : String) (request : ThreadUpdateRequest) (now : ℤ) :
    (∃ e, updateThread accepts t user threadId request now = (.error e, t) ∧
      ∀ row, t.find? threadId = some row → isAccepted accepts user request row = false) ∨
    ∃ row ttl, t.find? threadId = some row ∧ isAccepted accepts user request row = true ∧
      updateThread accepts t user threadId request now = (.ok (updatedRow request ttl now row),
        t.updateIf (·.threadId = threadId) (updatedRow request ttl now)
          (threadId_updatedRow request ttl now)) := by
  rw [updateThread]
  cases hrow : t.find? threadId with
  | none => exact .inl ⟨_, rfl, fun _ h => by cases h⟩
  | some row =>
    by_cases huser : row.userId = user.identity
    · rw [Option.filter_some, if_pos (decide_eq_true huser)]
      dsimp only
      cases hparse : request.parseTtl with
      | error e =>
        refine .inl ⟨e, rfl, ?_⟩
        rintro _ ⟨⟩
        rw [isAccepted, hparse, Bool.and_false]
      | ok ttl =>
        dsimp only
        have haccepted :
            isAccepted accepts user request row = isStorable accepts request ttl row := by
          rw [isAccepted, hparse, decide_eq_true huser, Bool.true_and]
        cases hstorable : isStorable accepts request ttl row with
        | false =>
          refine .inl ⟨_, rfl, ?_⟩
          rintro _ ⟨⟩
          exact haccepted.trans hstorable
        | true => exact .inr ⟨row, ttl, rfl, haccepted.trans hstorable, rfl⟩
    · rw [Option.filter_some, if_neg (by simpa using huser)]
      refine .inl ⟨_, rfl, ?_⟩
      rintro _ ⟨⟩
      rw [isAccepted, decide_eq_false huser, Bool.false_and]

/-- **The metadata are merged** if and only if the request is not accepted, or the thread had no
metadata, or those of the request are stored already. -/
theorem merges_metadata_iff (accepts : JsonObject → Bool) (t : ThreadTable) (user : User)
    (threadId : String) (request : ThreadUpdateRequest) (now : ℤ) :
    MergesMetadata t threadId request (updateThread accepts t user threadId request now) ↔
      ∀ row, t.find? threadId = some row → isAccepted accepts user request row = true →
        keepsMetadata request row := by
  rcases updateThread_cases accepts t user threadId request now with
    ⟨e, hupdate, hrefused⟩ | ⟨row, ttl, hrow, haccepted, hupdate⟩
  · rw [hupdate]
    refine iff_of_true ⟨fun _ _ h => ?_, fun _ _ h => ?_, fun _ _ => rfl⟩ ?_
    · cases h
    · cases h
    · intro row hrow haccepted
      rw [hrefused row hrow] at haccepted
      cases haccepted
  · rw [hupdate]
    have hafter : (t.updateIf (·.threadId = threadId) (updatedRow request ttl now)
        (threadId_updatedRow request ttl now)).find? threadId =
          some (updatedRow request ttl now row) := by
      rw [Table.find?_updateIf, hrow, Option.map_some,
        if_pos (decide_eq_true (Table.find?_eq_some_iff.mp hrow).2)]
    constructor
    · intro h row' hrow' _
      obtain rfl := Option.some.inj (hrow.symm.trans hrow')
      obtain ⟨after, hfind, hmerged⟩ := h.merged _ row rfl hrow
      obtain rfl := Option.some.inj (hafter.symm.trans hfind)
      exact (merged_updatedRow_iff ttl now).mp hmerged
    · intro hkeeps
      refine ⟨?_, ?_, fun _ h => by cases h⟩
      · intro _ row' _ hrow'
        obtain rfl := Option.some.inj (hrow.symm.trans hrow')
        exact ⟨_, hafter, (merged_updatedRow_iff ttl now).mpr (hkeeps row hrow haccepted)⟩
      · intro _ row' _ hrow' hnone
        obtain rfl := Option.some.inj (hrow.symm.trans hrow')
        refine ⟨_, hafter, ?_⟩
        rw [metadata_updatedRow, hnone]
        split
        · next hempty => exact hempty.symm
        · rfl

def aliceRow : ThreadRow where
  threadId := "t"
  status := .idle
  metadataJson := [("topic", .str "weather")]
  userId := "alice"
  orgId := none
  updatedAt := 0
  ttlSeconds := none
  ttlStrategy := none
  expiresAt := none

def priorityHigh : ThreadUpdateRequest where
  metadata := some [("priority", .str "high")]
  ttl := some (.seconds 86400)
  metadata_unique := by decide

/-- A thread that has metadata keeps them, although the update succeeds. -/
theorem metadata_not_merged :
    ¬ ∀ (t : ThreadTable) (user : User) (threadId : String) (request : ThreadUpdateRequest)
      (now : ℤ), MergesMetadata t threadId request
        (updateThread (fun _ => true) t user threadId request now) := by
  intro hall
  obtain ⟨row, hrow, hmerged⟩ :=
    (hall (.single aliceRow) ⟨"alice", none⟩ "t" priorityHigh 0).merged _ aliceRow rfl rfl
  obtain rfl := Option.some.inj hrow
  have hpriority := hmerged "priority"
  cases hpriority

end ThreadUpdate

end OpenLangGraph

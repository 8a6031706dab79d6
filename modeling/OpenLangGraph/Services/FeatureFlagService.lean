import OpenLangGraph.Core.FeatureFlagOrm
import OpenLangGraph.Foundation.UnitOfWork

/-!
# Edits of feature flags

`FeatureFlagService` of `services/feature_flag_service.py`: the edits of flags and of their
overrides, as programs over one session. An edit commits its change, and in a second transaction an
entry in the log of changes. Then it invalidates what has been evaluated of the flag, which cannot
fail.

## The entry in the log

`model_dump()` keeps datetimes as they are, so every dump holds one under `created_at`. The columns
of the log are `JSONB`, and no engine of the server is given a serializer for them. The default is
`json.dumps`, which raises on a datetime. Which dumps are serialized is a parameter.

## What is left out

The ids that the database generates and the times are arguments, one time for each edit.

## Main definitions

* `Setting`, `Setting.jsonDumps`
* `newFlag`, `updatedFlag`, `newOverride`, `updatedOverride` — the rows that an edit writes
* `createFlag`, `updateFlag`, `deleteFlag`, `createOverride`, `updateOverride`, `deleteOverride` —
  the programs
* `FlagEdit.perform`, `OverrideEdit.perform` — what they leave when a statement fails
-/

namespace OpenLangGraph

namespace FeatureFlagService

open PyString UnitOfWork

variable {ν : Type}

/-! ### What the service is given -/

structure Setting (ν : Type) where
  types : ValueTypes ν
  /-- the serializer of the engine takes the dump -/
  serializes : FlagDump ν → Bool

/-- The server as it is: no dump is without a datetime. -/
def Setting.jsonDumps (types : ValueTypes ν) : Setting ν where
  types
  serializes _ := false

/-- Values that are booleans or strings. -/
def plainTypes : ValueTypes (Bool ⊕ Str) where
  isBool := Sum.isLeft
  isNumber := Sum.isLeft
  isStr := Sum.isRight
  bool
    | .inl b => .inl b
    | .inr s => .inl (s ≠ [])
  str
    | .inl b => .inr (if b then "True".toList else "False".toList)
    | .inr s => .inr s

inductive FlagError
  | httpException (statusCode : ℕ) (detail : Str)
  | validationError (e : FlagValidationError)
  /-- `scalar_one_or_none` on more than one row -/
  | multipleResultsFound
deriving DecidableEq

/-- `_to_pydantic` -/
def toPydantic (setting : Setting ν) (row : FeatureFlag ν) : Except FlagError (FeatureFlag ν) :=
  match row.toFeatureFlagBase.validate setting.types with
  | .ok base => .ok { row with toFeatureFlagBase := base }
  | .error e => .error (.validationError e)

/-- `get_flag_by_key` -/
def getFlagByKey (setting : Setting ν) (t : FlagTables ν) (orgId key : Str) :
    Except FlagError (Option (FeatureFlag ν)) :=
  match t.flagByKey? orgId key with
  | none => .ok none
  | some row => (toPydantic setting row).map some

/-- `result.scalar_one_or_none()` -/
def scalarOneOrNone {α : Type} : List α → Except FlagError (Option α)
  | [] => .ok none
  | [row] => .ok (some row)
  | _ => .error .multipleResultsFound

/-- It does not raise if no two rows are found. -/
theorem scalarOneOrNone_of_unique {α : Type} {rows : List α} (hnodup : rows.Nodup)
    (h : ∀ a ∈ rows, ∀ b ∈ rows, a = b) : ∃ row, scalarOneOrNone rows = .ok row := by
  rcases rows with _ | ⟨a, _ | ⟨b, rows⟩⟩
  · exact ⟨none, rfl⟩
  · exact ⟨some a, rfl⟩
  · have hab : a = b := h a (by simp) b (by simp)
    simp [hab] at hnodup

/-! ### Rows -/

/-- A column that must not be `NULL`. -/
def notNull {α : Type} (field : Option (Option α)) (old : α) : Option α := field.getD (some old)

def newFlag {types : ValueTypes ν} (orgId : Str) (request : FeatureFlagCreate types)
    (createdBy flagId : Str) (now : ℕ) : FeatureFlag ν where
  toFeatureFlagBase := request.toFeatureFlagBase
  flagId
  orgId
  enabled := request.enabled
  isKillswitch := request.isKillswitch
  status := .active
  rollout := request.rollout
  targeting := request.targeting
  expiresAt := request.expiresAt
  createdAt := now
  updatedAt := now
  createdBy := some createdBy
  version := 1

/-- The row after `setattr` for every field that is set, unless a column must not be `NULL`. A
rollout of `None`, or one that is empty, is read as the default, and tags of `None` as none. The
metadata are not written: `hasattr(flag_orm, "metadata")` is true of every declarative class. -/
def updatedFlag (request : FeatureFlagUpdate ν) (now : ℕ) (row : FeatureFlag ν) :
    Option (FeatureFlag ν) := do
  let name ← notNull request.name row.name
  let enabled ← notNull request.enabled row.enabled
  let isKillswitch ← notNull request.isKillswitch row.isKillswitch
  let status ← notNull request.status row.status
  return { row with
    name, enabled, isKillswitch, status
    description := request.description.getD row.description
    defaultValue := request.defaultValue.getD row.defaultValue
    enabledValue := request.enabledValue.getD row.enabledValue
    rollout := (request.rollout.map (·.getD default)).getD row.rollout
    targeting := request.targeting.getD row.targeting
    tags := (request.tags.map (·.getD [])).getD row.tags
    expiresAt := request.expiresAt.getD row.expiresAt
    version := row.version + 1
    updatedAt := now }

/-- The event that an update is logged as. -/
def updateEvent (request : FeatureFlagUpdate ν) : Str :=
  if request.status = some (some .archived) then "archived".toList
  else
    match request.enabled with
    | some (some true) => "enabled".toList
    | some _ => "disabled".toList
    | none => "updated".toList

def newOverride (orgId : Str) (flag : FeatureFlag ν) (request : FeatureFlagOverrideCreate ν)
    (createdBy overrideId : Str) (now : ℕ) : FeatureFlagOverride ν where
  overrideId
  flagId := flag.flagId
  flagKey := request.flagKey
  orgId
  scope := request.scope
  targetId := request.targetId
  value := request.value
  enabled := request.enabled
  reason := request.reason
  expiresAt := request.expiresAt
  createdAt := now
  updatedAt := now
  createdBy := some createdBy

def updatedOverride (request : FeatureFlagOverrideUpdate ν) (now : ℕ)
    (row : FeatureFlagOverride ν) : Option (FeatureFlagOverride ν) := do
  let enabled ← notNull request.enabled row.enabled
  return { row with
    enabled
    value := request.value.getD row.value
    reason := request.reason.getD row.reason
    expiresAt := request.expiresAt.getD row.expiresAt
    updatedAt := now }

/-- The overrides that stand in the way of a new one. -/
def existingOverride (t : FlagTables ν) (orgId : Str) (flag : FeatureFlag ν)
    (request : FeatureFlagOverrideCreate ν) : Except FlagError (Option (FeatureFlagOverride ν)) :=
  scalarOneOrNone (t.overrides.rows.filter fun o =>
    o.place = (flag.flagId, orgId, request.scope, request.targetId))

/-- The override is enabled, and it has not expired. -/
def isActive (now : ℕ) (o : FeatureFlagOverride ν) : Bool :=
  o.enabled && o.expiresAt.all (now < ·)

/-- `_get_active_override`. An empty target is no target. -/
def getActiveOverride (t : FlagTables ν) (flagId orgId : Str) (scope : OverrideScope)
    (targetId : Option Str) (now : ℕ) : Except FlagError (Option (FeatureFlagOverride ν)) :=
  scalarOneOrNone (t.overrides.rows.filter fun o =>
    isActive now o && o.place = (flagId, orgId, scope, truthy targetId))

theorem updatedFlag_eq_some {request : FeatureFlagUpdate ν} {now : ℕ} {row row' : FeatureFlag ν}
    (h : updatedFlag request now row = some row') :
    row'.flagId = row.flagId ∧ row'.orgId = row.orgId ∧ row'.key = row.key ∧
      row'.version = row.version + 1 := by
  simp only [updatedFlag, bind, Option.bind_eq_some_iff] at h
  obtain ⟨name, -, enabled, -, isKillswitch, -, status, -, h⟩ := h
  rw [← Option.some.inj h]
  exact ⟨rfl, rfl, rfl, rfl⟩

theorem updatedOverride_eq_some {request : FeatureFlagOverrideUpdate ν} {now : ℕ}
    {row row' : FeatureFlagOverride ν} (h : updatedOverride request now row = some row') :
    row'.overrideId = row.overrideId ∧ row'.place = row.place := by
  simp only [updatedOverride, bind, Option.bind_eq_some_iff] at h
  obtain ⟨enabled, -, h⟩ := h
  rw [← Option.some.inj h]
  exact ⟨rfl, rfl⟩

theorem updatedFlag_getD (request : FeatureFlagUpdate ν) (now : ℕ) (row : FeatureFlag ν) :
    ((updatedFlag request now row).getD row).flagId = row.flagId ∧
      ((updatedFlag request now row).getD row).orgId = row.orgId ∧
        ((updatedFlag request now row).getD row).key = row.key := by
  cases h : updatedFlag request now row with
  | none => exact ⟨rfl, rfl, rfl⟩
  | some row' =>
    obtain ⟨hid, horg, hkey, -⟩ := updatedFlag_eq_some h
    exact ⟨hid, horg, hkey⟩

theorem updatedOverride_getD (request : FeatureFlagOverrideUpdate ν) (now : ℕ)
    (row : FeatureFlagOverride ν) :
    ((updatedOverride request now row).getD row).overrideId = row.overrideId ∧
      ((updatedOverride request now row).getD row).place = row.place := by
  cases h : updatedOverride request now row with
  | none => exact ⟨rfl, rfl⟩
  | some row' => exact updatedOverride_eq_some h

/-! ### Programs -/

/-- The statements of an edit. -/
inductive Point
  | reading
  | writing
  | committing
  | refreshing
  | logging
  | committingLog
deriving DecidableEq

/-- The creation of an override has one more. -/
inductive OverridePoint
  | statement (point : Point)
  | readingExisting
deriving DecidableEq

/-- What `_invalidate_flag_cache` is called with. -/
structure Invalidation where
  orgId : Str
  flagKey : Str
deriving DecidableEq

abbrev FlagProgram (ν σ β : Type) := Program (FlagTables ν) σ Invalidation FlagError β

/-- The entry that `_log_change` makes. -/
def changeEntry (eventId : Str) (now : ℕ) (flagId flagKey orgId : Str) (eventType : Str)
    (changedBy : Str) (previousValue newValue : Option (FlagDump ν)) : FeatureFlagChangeLog ν where
  eventId
  flagId
  flagKey
  orgId
  eventType
  changedBy := some changedBy
  previousValue
  newValue
  timestamp := now

/-- The entry is inserted, if it is serialized. -/
def addChange (setting : Setting ν) (entry : FeatureFlagChangeLog ν) (t : FlagTables ν) :
    Option (FlagTables ν) :=
  if entry.previousValue.all setting.serializes && entry.newValue.all setting.serializes then
    t.insertChange entry
  else none

/-- `_log_change`, and `_invalidate_flag_cache` after it. -/
def logChange {σ β : Type} (setting : Setting ν) (statement : Point → σ)
    (entry : FeatureFlagChangeLog ν) (next : FlagProgram ν σ β) : FlagProgram ν σ β :=
  .flush (statement .logging) (addChange setting entry) <|
  .commit (statement .committingLog) <|
  .start ⟨entry.orgId, entry.flagKey⟩ next

/-- Go on with what was computed, unless an error was raised. -/
def orRaise {σ α β : Type} (result : Except FlagError α) (next : α → FlagProgram ν σ β) :
    FlagProgram ν σ β :=
  match result with
  | .ok a => next a
  | .error e => .raise e

variable (setting : Setting ν)

/-- `create_flag` -/
def createFlag (orgId : Str) (request : FeatureFlagCreate setting.types)
    (createdBy flagId eventId : Str) (now : ℕ) : FlagProgram ν Point (FeatureFlag ν) :=
  .query .reading fun t =>
  orRaise (getFlagByKey setting t orgId request.key) fun existing =>
  if existing.isSome then
    .raise (.httpException 409
      ("Feature flag '".toList ++ request.key ++ "' already exists".toList))
  else
    let row := newFlag orgId request createdBy flagId now
    .flush .writing (·.insertFlag row) <|
    .commit .committing <|
    .query .refreshing fun _ =>
    orRaise (toPydantic setting row) fun flag =>
    logChange setting id (changeEntry eventId now flagId row.key orgId "created".toList createdBy
      none (some (.flag flag))) <|
    .done flag

def flagNotFound (flagId : Str) : FlagError :=
  .httpException 404 ("Feature flag '".toList ++ flagId ++ "' not found".toList)

/-- The change that an update makes in the table. -/
def writeUpdate (request : FeatureFlagUpdate ν) (now : ℕ) (row : FeatureFlag ν)
    (t : FlagTables ν) : Option (FlagTables ν) :=
  (updatedFlag request now row).map fun _ =>
    t.updateFlag row.flagId (fun row => (updatedFlag request now row).getD row)
      (updatedFlag_getD request now)

/-- `update_flag` -/
def updateFlag (orgId flagId : Str) (request : FeatureFlagUpdate ν) (updatedBy eventId : Str)
    (now : ℕ) : FlagProgram ν Point (FeatureFlag ν) :=
  .query .reading fun t =>
  match t.flag? orgId flagId with
  | none => .raise (flagNotFound flagId)
  | some row =>
    orRaise (toPydantic setting row) fun previous =>
    .flush .writing (writeUpdate request now row) <|
    .commit .committing <|
    .query .refreshing fun _ =>
    let row := (updatedFlag request now row).getD row
    orRaise (toPydantic setting row) fun flag =>
    logChange setting id (changeEntry eventId now flagId row.key orgId (updateEvent request)
      updatedBy (some (.flag previous)) (some (.flag flag))) <|
    .done flag

/-- `delete_flag` -/
def deleteFlag (orgId flagId deletedBy eventId : Str) (now : ℕ) : FlagProgram ν Point Unit :=
  .query .reading fun t =>
  match t.flag? orgId flagId with
  | none => .raise (flagNotFound flagId)
  | some row =>
    orRaise (toPydantic setting row) fun previous =>
    .flush .writing (fun t => some (t.deleteFlag flagId)) <|
    .commit .committing <|
    logChange setting id (changeEntry eventId now flagId row.key orgId "deleted".toList deletedBy
      (some (.flag previous)) none) <|
    .done ()

/-- `create_override` -/
def createOverride (orgId : Str) (request : FeatureFlagOverrideCreate ν)
    (createdBy overrideId eventId : Str) (now : ℕ) :
    FlagProgram ν OverridePoint (FeatureFlagOverride ν) :=
  .query (.statement .reading) fun t =>
  orRaise (getFlagByKey setting t orgId request.flagKey) fun
  | none => .raise (flagNotFound request.flagKey)
  | some flag =>
    .query .readingExisting fun t =>
    orRaise (existingOverride t orgId flag request) fun existing =>
    if existing.isSome then
      .raise (.httpException 409 ("Override for flag '".toList ++ request.flagKey ++
        "' with scope '".toList ++ request.scope.value ++ "' already exists".toList))
    else
      let row := newOverride orgId flag request createdBy overrideId now
      .flush (.statement .writing) (·.insertOverride row) <|
      .commit (.statement .committing) <|
      .query (.statement .refreshing) fun _ =>
      logChange setting .statement (changeEntry eventId now flag.flagId request.flagKey orgId
        "override_added".toList createdBy none (some (.override row))) <|
      .done row

def overrideNotFound (overrideId : Str) : FlagError :=
  .httpException 404 ("Override '".toList ++ overrideId ++ "' not found".toList)

/-- The change that an update of an override makes in the table. -/
def writeOverride (request : FeatureFlagOverrideUpdate ν) (now : ℕ) (row : FeatureFlagOverride ν)
    (t : FlagTables ν) : Option (FlagTables ν) :=
  (updatedOverride request now row).map fun _ =>
    t.updateOverride row.overrideId (fun row => (updatedOverride request now row).getD row)
      (updatedOverride_getD request now)

/-- `update_override` -/
def updateOverride (orgId overrideId : Str) (request : FeatureFlagOverrideUpdate ν)
    (updatedBy eventId : Str) (now : ℕ) : FlagProgram ν OverridePoint (FeatureFlagOverride ν) :=
  .query (.statement .reading) fun t =>
  match t.override? orgId overrideId with
  | none => .raise (overrideNotFound overrideId)
  | some previous =>
    .flush (.statement .writing) (writeOverride request now previous) <|
    .commit (.statement .committing) <|
    .query (.statement .refreshing) fun _ =>
    let row := (updatedOverride request now previous).getD previous
    logChange setting .statement (changeEntry eventId now row.flagId row.flagKey orgId
      "override_updated".toList updatedBy (some (.override previous)) (some (.override row))) <|
    .done row

/-- `delete_override` -/
def deleteOverride (orgId overrideId deletedBy eventId : Str) (now : ℕ) :
    FlagProgram ν OverridePoint Unit :=
  .query (.statement .reading) fun t =>
  match t.override? orgId overrideId with
  | none => .raise (overrideNotFound overrideId)
  | some previous =>
    .flush (.statement .writing) (fun t => some (t.deleteOverride overrideId)) <|
    .commit (.statement .committing) <|
    logChange setting .statement (changeEntry eventId now previous.flagId previous.flagKey orgId
      "override_removed".toList deletedBy (some (.override previous)) none) <|
    .done ()

/-! ### Edits -/

/-- An edit of a flag. -/
inductive FlagEdit {ν : Type} (types : ValueTypes ν)
  | createFlag (orgId : Str) (request : FeatureFlagCreate types) (createdBy flagId eventId : Str)
  | updateFlag (orgId flagId : Str) (request : FeatureFlagUpdate ν) (updatedBy eventId : Str)
  | deleteFlag (orgId flagId deletedBy eventId : Str)

/-- An edit of an override. -/
inductive OverrideEdit (ν : Type)
  | createOverride (orgId : Str) (request : FeatureFlagOverrideCreate ν)
      (createdBy overrideId eventId : Str)
  | updateOverride (orgId overrideId : Str) (request : FeatureFlagOverrideUpdate ν)
      (updatedBy eventId : Str)
  | deleteOverride (orgId overrideId deletedBy eventId : Str)

structure Outcome (ν : Type) where
  tables : FlagTables ν
  invalidated : List Invalidation
  raises : Bool

/-- What is left of a program. -/
def outcome {σ β : Type} [DecidableEq σ] (t : FlagTables ν) (program : FlagProgram ν σ β)
    (fault : Option (Fault σ)) : Outcome ν :=
  let effects := program.run fault (.open t)
  ⟨effects.session.committed, effects.started, !effects.result.isOk⟩

def FlagEdit.perform (t : FlagTables ν) (now : ℕ) (fault : Option (Fault Point)) :
    FlagEdit setting.types → Outcome ν
  | .createFlag orgId request createdBy flagId eventId =>
    outcome t (FeatureFlagService.createFlag setting orgId request createdBy flagId eventId now)
      fault
  | .updateFlag orgId flagId request updatedBy eventId =>
    outcome t (FeatureFlagService.updateFlag setting orgId flagId request updatedBy eventId now)
      fault
  | .deleteFlag orgId flagId deletedBy eventId =>
    outcome t (FeatureFlagService.deleteFlag setting orgId flagId deletedBy eventId now) fault

def OverrideEdit.perform (t : FlagTables ν) (now : ℕ) (fault : Option (Fault OverridePoint)) :
    OverrideEdit ν → Outcome ν
  | .createOverride orgId request createdBy overrideId eventId =>
    outcome t
      (FeatureFlagService.createOverride setting orgId request createdBy overrideId eventId now)
      fault
  | .updateOverride orgId overrideId request updatedBy eventId =>
    outcome t
      (FeatureFlagService.updateOverride setting orgId overrideId request updatedBy eventId now)
      fault
  | .deleteOverride orgId overrideId deletedBy eventId =>
    outcome t (FeatureFlagService.deleteOverride setting orgId overrideId deletedBy eventId now)
      fault

end FeatureFlagService

end OpenLangGraph

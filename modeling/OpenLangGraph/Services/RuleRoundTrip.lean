import OpenLangGraph.Foundation.PartialUpdate
import OpenLangGraph.Foundation.Table
import OpenLangGraph.Models.RuleRecords

/-!
# What comes back of a rate limit rule

`create_rule`, `get_rule` and `update_rule` of `services/rate_limit_rule_service.py` on the rows of
`rate_limit_rules`. Every field is copied by its name, and each of the three ends with a response
that is read off the object.

## The metadata

The response wants the attribute `metadata`, and a loaded object has the `MetaData` of its class
there, so no rule that is in the table is ever a response: a creation commits its row and raises.
An update that sets the metadata finds the attribute and assigns to it. Its response has them, and
the column is never written.

## Main definitions

* `createRule`, `getRule`, `updateRule`
* `RoundTrips` — what is asked

## Main results

* `not_roundTrips`
* `asGiven_newRow` — the row itself has everything as given
* `metadataDict_updateRule` — no update reaches the column
-/

namespace OpenLangGraph

open PartialUpdate PyString

namespace RuleRoundTrip

variable {ν : Type}

/-! ### The service -/

abbrev Rules (ν : Type) := Table (RuleRow.ruleId (ν := ν))

variable (accepts : RuleRow ν → Bool) (rules : Rules ν) (orgId : Str)

def alreadyExists (name : Str) : RuleError :=
  .httpException 409
    ("Rate limit rule '".toList ++ name ++ "' already exists in organization".toList)

def notFound (ruleId : Str) : RuleError :=
  .httpException 404 ("Rate limit rule '".toList ++ ruleId ++ "' not found".toList)

/-- A row as the response, if there is one. -/
def respond : Option (RuleRow ν) → Except RuleError (Option (RuleResponse ν))
  | none => .ok none
  | some row => (RuleObject.load row).modelValidate.map some

def rule? (ruleId : Str) : Option (RuleRow ν) :=
  rules.rows.find? fun row => row.orgId = orgId && row.ruleId = ruleId

/-- `get_rule` -/
def getRule (ruleId : Str) : Except RuleError (Option (RuleResponse ν)) :=
  respond (rule? rules orgId ruleId)

/-- `get_rule_by_name` -/
def getRuleByName (name : Str) : Except RuleError (Option (RuleResponse ν)) :=
  respond (rules.rows.find? fun row => row.orgId = orgId && row.name = name)

/-- The row of a request. -/
def newRow (ruleId : Str) (request : RuleCreate ν) (createdBy : Str) (now : ℕ) : RuleRow ν where
  ruleId
  orgId
  name := request.fields.name
  description := request.fields.description
  targetType := request.fields.targetType.value
  targetId := request.fields.targetId
  endpointPattern := request.fields.endpointPattern
  requestsPerWindow := request.fields.requestsPerWindow
  windowSize := request.fields.windowSize.value
  burstLimit := request.fields.burstLimit
  burstWindow := request.fields.burstWindow.map RateLimitWindow.value
  action := request.fields.action.value
  priority := request.fields.priority
  enabled := request.enabled
  status := RateLimitStatus.active.value
  expiresAt := request.expiresAt
  metadataDict := request.fields.metadata
  createdBy := some createdBy
  createdAt := now
  updatedAt := now

/-- `create_rule`. The columns of the row may not hold it, and its organization may be gone: whether
the database accepts it is a parameter. -/
def createRule (ruleId : Str) (request : RuleCreate ν) (createdBy : Str) (now : ℕ) :
    Rules ν × Except RuleError (RuleResponse ν) :=
  match getRuleByName rules orgId request.fields.name with
  | .error e => (rules, .error e)
  | .ok (some _) => (rules, .error (alreadyExists request.fields.name))
  | .ok none =>
    let row := newRow orgId ruleId request createdBy now
    match if accepts row then rules.insert row else none with
    | none => (rules, .error .integrityError)
    | some rules => (rules, (RuleObject.load row).modelValidate)

/-- A column that must not be `NULL`. -/
def required {α : Type} (field : Option (Option α)) (old : α) : Option α := field.getD (some old)

/-- The row after `setattr` for every field that is set, unless a column must not be `NULL`. -/
def changedRow (request : RuleUpdate ν) (now : ℕ) (row : RuleRow ν) : Option (RuleRow ν) := do
  let name ← required request.name row.name
  let requestsPerWindow ← required request.requestsPerWindow row.requestsPerWindow
  let windowSize ← required
    (request.windowSize.map fun w => w.map RateLimitWindow.value) row.windowSize
  let action ← required (request.action.map fun a => a.map RateLimitAction.value) row.action
  let priority ← required request.priority row.priority
  let enabled ← required request.enabled row.enabled
  return { row with
    name, requestsPerWindow, windowSize, action, priority, enabled
    description := request.description.getD row.description
    burstLimit := request.burstLimit.getD row.burstLimit
    burstWindow := (request.burstWindow.map fun w => w.map RateLimitWindow.value).getD
      row.burstWindow
    expiresAt := request.expiresAt.getD row.expiresAt
    updatedAt := now }

/-- The attribute `metadata` after `setattr`: the object has it, so that the branch for the column
is not taken. -/
def changedMetadata (request : RuleUpdate ν) : MetadataAttribute ν :=
  match request.metadata with
  | none => .ofClass
  | some metadata => .assigned metadata

theorem changedRow_eq_some {request : RuleUpdate ν} {now : ℕ} {row row' : RuleRow ν}
    (h : changedRow request now row = some row') :
    row'.ruleId = row.ruleId ∧ row'.orgId = row.orgId ∧ row'.metadataDict = row.metadataDict := by
  simp only [changedRow, bind, Option.bind_eq_some_iff] at h
  obtain ⟨name, -, requestsPerWindow, -, windowSize, -, action, -, priority, -, enabled, -, h⟩ := h
  rw [← Option.some.inj h]
  exact ⟨rfl, rfl, rfl⟩

theorem ruleId_changedRow (request : RuleUpdate ν) (now : ℕ) (row : RuleRow ν) :
    ((changedRow request now row).getD row).ruleId = row.ruleId := by
  cases h : changedRow request now row with
  | none => rfl
  | some row' => exact (changedRow_eq_some h).1

/-- The database accepts the row, and no other rule of the organization has its name. -/
def isStorable (row : RuleRow ν) : Bool :=
  accepts row && !rules.rows.any fun other =>
    other.orgId = row.orgId && other.name = row.name && other.ruleId ≠ row.ruleId

/-- `update_rule` -/
def updateRule (ruleId : Str) (request : RuleUpdate ν) (now : ℕ) :
    Rules ν × Except RuleError (RuleResponse ν) :=
  match rule? rules orgId ruleId with
  | none => (rules, .error (notFound ruleId))
  | some row =>
    match (changedRow request now row).filter (isStorable accepts rules) with
    | none => (rules, .error .integrityError)
    | some row' =>
      (rules.updateIf (·.ruleId = ruleId) (fun row => (changedRow request now row).getD row)
        (ruleId_changedRow request now), RuleObject.modelValidate ⟨row', changedMetadata request⟩)

/-- Updates one after another, each at a time. -/
def updateRules (ruleId : Str) (requests : List (RuleUpdate ν × ℕ)) : Rules ν :=
  requests.foldl (fun rules request => (updateRule accepts rules orgId ruleId request.1
    request.2).1) rules

/-! ### What is asked -/

/-- The response has what was given. -/
structure AsGiven (request : RuleCreate ν) (rule : RuleResponse ν) : Prop where
  fields : rule.toRuleFields = request.fields
  enabled : rule.enabled = request.enabled
  expiresAt : rule.expiresAt = request.expiresAt

/-- What an update makes of a rule. -/
structure Changed (request : RuleUpdate ν) (before after : RuleResponse ν) : Prop where
  name : AsSent request.name (some before.name) (some after.name)
  description : AsSent request.description before.description after.description
  target : after.targetType = before.targetType ∧ after.targetId = before.targetId ∧
    after.endpointPattern = before.endpointPattern
  requestsPerWindow : AsSent request.requestsPerWindow (some before.requestsPerWindow)
    (some after.requestsPerWindow)
  windowSize : AsSent request.windowSize (some before.windowSize) (some after.windowSize)
  burstLimit : AsSent request.burstLimit before.burstLimit after.burstLimit
  burstWindow : AsSent request.burstWindow before.burstWindow after.burstWindow
  action : AsSent request.action (some before.action) (some after.action)
  priority : AsSent request.priority (some before.priority) (some after.priority)
  enabled : AsSent request.enabled (some before.enabled) (some after.enabled)
  status : after.status = before.status
  expiresAt : AsSent request.expiresAt before.expiresAt after.expiresAt
  metadata : AsSent request.metadata (some before.metadata) (some after.metadata)

/-- A rule is created and comes back as given, and every later update that is accepted changes what
it sets. -/
structure RoundTrips (ruleId : Str) (request : RuleCreate ν) (createdBy : Str) (now : ℕ) :
    Prop where
  created : ∃ rule, (createRule accepts rules orgId ruleId request createdBy now).2 = .ok rule
  fetched : ∃ rule, getRule (createRule accepts rules orgId ruleId request createdBy now).1 orgId
    ruleId = .ok (some rule) ∧ AsGiven request rule
  updated : ∀ (earlier : List (RuleUpdate ν × ℕ)) (later : RuleUpdate ν) (time : ℕ)
    (rules' : Rules ν), rules' = updateRules accepts
      (createRule accepts rules orgId ruleId request createdBy now).1 orgId ruleId earlier →
    later.Accepted →
    (updateRule accepts rules' orgId ruleId later time).2 ≠ .error .integrityError →
    ∃ before after, getRule rules' orgId ruleId = .ok (some before) ∧
      getRule (updateRule accepts rules' orgId ruleId later time).1 orgId ruleId =
        .ok (some after) ∧ Changed later before after

/-! ### The row -/

section

variable {accepts rules orgId} {ruleId createdBy : Str} {request : RuleCreate ν} {now : ℕ}

/-- **The row has everything as given**: it would come back so if the attribute were the column. -/
theorem asGiven_newRow (orgId ruleId createdBy : Str) (request : RuleCreate ν) (now : ℕ) :
    ∃ rule, RuleObject.modelValidate
        ⟨newRow orgId ruleId request createdBy now, .assigned (some request.fields.metadata)⟩ =
          .ok rule ∧ AsGiven request rule := by
  have hburst : RuleObject.burstWindow? (ν := ν)
      ⟨newRow orgId ruleId request createdBy now, .assigned (some request.fields.metadata)⟩ =
        some request.fields.burstWindow := by
    rw [RuleObject.burstWindow?, newRow]
    cases request.fields.burstWindow <;> simp
  have hfields : RuleObject.fields?
      ⟨newRow orgId ruleId request createdBy now, .assigned (some request.fields.metadata)⟩ =
        some request.fields := by
    rw [RuleObject.fields?, hburst]
    simp [newRow, MetadataAttribute.dict?]
  have hstatus : RateLimitStatus.ofValue? (newRow orgId ruleId request createdBy now).status =
      some .active := RateLimitStatus.ofValue?_value .active
  rw [RuleObject.modelValidate, hfields, hstatus]
  dsimp only
  rw [request.accepted]
  exact ⟨_, rfl, rfl, rfl, rfl⟩

/-- No rule that is there is a response. -/
theorem respond_some (row : RuleRow ν) :
    respond (some row) = .error (.validationError (RuleObject.load row).refused) := by
  rw [respond, RuleObject.modelValidate_load]
  rfl

/-- **A creation raises**, also when it has committed the row. -/
theorem exists_error_createRule (accepts : RuleRow ν → Bool) (rules : Rules ν)
    (orgId ruleId : Str) (request : RuleCreate ν) (createdBy : Str) (now : ℕ) :
    ∃ e, (createRule accepts rules orgId ruleId request createdBy now).2 = .error e := by
  rw [createRule, getRuleByName]
  cases hname : rules.rows.find? fun row => row.orgId = orgId && row.name = request.fields.name with
  | some row =>
    rw [respond_some]
    exact ⟨_, rfl⟩
  | none =>
    rw [respond]
    dsimp only
    split
    · exact ⟨_, rfl⟩
    · exact ⟨_, RuleObject.modelValidate_load _⟩

/-- **No update reaches the column.** -/
theorem metadataDict_updateRule {request : RuleUpdate ν} {row : RuleRow ν}
    (h : row ∈ (updateRule accepts rules orgId ruleId request now).1.rows) :
    ∃ old ∈ rules.rows, old.ruleId = row.ruleId ∧ row.metadataDict = old.metadataDict := by
  rw [updateRule] at h
  split at h
  · exact ⟨row, h, rfl, rfl⟩
  · split at h
    · exact ⟨row, h, rfl, rfl⟩
    · rcases Table.mem_updateIf (ruleId_changedRow request now) h with hrow | ⟨old, hold, -, rfl⟩
      · exact ⟨row, hrow, rfl, rfl⟩
      · refine ⟨old, hold, (ruleId_changedRow request now old).symm, ?_⟩
        cases hchanged : changedRow request now old with
        | none => rfl
        | some row' => exact (changedRow_eq_some hchanged).2.2

end

/-- **No rule makes the round trip.** -/
theorem not_roundTrips (accepts : RuleRow ν → Bool) (rules : Rules ν) (orgId ruleId : Str)
    (request : RuleCreate ν) (createdBy : Str) (now : ℕ) :
    ¬ RoundTrips accepts rules orgId ruleId request createdBy now := by
  rintro ⟨⟨rule, hrule⟩, -, -⟩
  obtain ⟨e, he⟩ := exists_error_createRule accepts rules orgId ruleId request createdBy now
  cases hrule.symm.trans he

/-! ### A rule for an organization -/

/-- 100 requests an hour, with metadata `5`. -/
def hourly : RuleCreate ℕ where
  fields :=
    { name := "hourly".toList
      targetType := .org
      targetId := none
      endpointPattern := none
      requestsPerWindow := 100
      windowSize := .hour
      burstLimit := none
      burstWindow := none
      action := .reject
      priority := 0
      description := none
      metadata := 5 }
  enabled := true
  expiresAt := none
  accepted := by decide

/-- It is stored, and the creation raises. -/
theorem hourly_not_created :
    ¬ ∀ request : RuleCreate ℕ, RoundTrips (fun _ => true) Table.empty "acme".toList "r".toList
      request "alice".toList 0 := by
  intro hall
  obtain ⟨rule, hrule⟩ := (hall hourly).created
  have hraises : (createRule (fun _ => true) Table.empty "acme".toList "r".toList hourly
      "alice".toList 0).2 = .error (.validationError ["metadata"]) := rfl
  cases hrule.symm.trans hraises

end RuleRoundTrip

end OpenLangGraph

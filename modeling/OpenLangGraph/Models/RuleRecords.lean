import OpenLangGraph.Models.RateLimitRules

/-!
# The records of rate limit rules

The models of `models/rate_limit_rules.py` with all of their fields, and the row of
`rate_limit_rules`, which has the enumerations as text. A response is read off the attributes of a
mapped object. The attribute that it reads as `metadata` is not the column of that name, which is
mapped as `metadata_dict`: a declarative class has a `metadata` of its own.

The JSON objects of the metadata are a type `ν`.

## Main definitions

* `RuleFields`, `RuleFields.validate` — `RateLimitRuleBase`
* `RuleCreate`, `RuleUpdate`, `RuleResponse`
* `RuleRow`, `RuleObject` — a row, and the object that it is loaded into
* `RuleObject.modelValidate`

## Main results

* `RuleFields.validate_validate` — what was accepted is accepted as it is
* `RuleObject.modelValidate_load` — no row that was loaded is a response
-/

namespace OpenLangGraph

open PyString

variable {ν : Type}

/-! ### Enumerations -/

/-- The member of an enumeration with a value. -/
def memberOfValue? {α : Type} (members : List α) (value : α → Str) (text : Str) : Option α :=
  members.find? fun a => value a = text

theorem memberOfValue?_value {α : Type} {members : List α} {value : α → Str}
    (hvalue : Function.Injective value) {a : α} (ha : a ∈ members) :
    memberOfValue? members value (value a) = some a := by
  rw [memberOfValue?]
  cases h : members.find? fun b => value b = value a with
  | none => exact absurd (List.find?_eq_none.mp h a ha) (by simp)
  | some b =>
    have hb := List.find?_some h
    rw [hvalue (of_decide_eq_true hb)]

namespace RateLimitTarget

def value : RateLimitTarget → Str
  | .global => "global".toList
  | .org => "org".toList
  | .user => "user".toList
  | .apiKey => "api_key".toList
  | .endpoint => "endpoint".toList

def ofValue? : Str → Option RateLimitTarget :=
  memberOfValue? [.global, .org, .user, .apiKey, .endpoint] value

theorem value_injective : Function.Injective value := by
  intro s t h
  cases s <;> cases t <;> first | rfl | exact absurd h (by decide)

@[simp] theorem ofValue?_value (t : RateLimitTarget) : ofValue? t.value = some t :=
  memberOfValue?_value value_injective (by cases t <;> simp)

end RateLimitTarget

namespace RateLimitWindow

def value : RateLimitWindow → Str
  | .second => "second".toList
  | .minute => "minute".toList
  | .hour => "hour".toList
  | .day => "day".toList

def ofValue? : Str → Option RateLimitWindow :=
  memberOfValue? [.second, .minute, .hour, .day] value

theorem value_injective : Function.Injective value := by
  intro v w h
  cases v <;> cases w <;> first | rfl | exact absurd h (by decide)

@[simp] theorem ofValue?_value (w : RateLimitWindow) : ofValue? w.value = some w :=
  memberOfValue?_value value_injective (by cases w <;> simp)

end RateLimitWindow

namespace RateLimitAction

def value : RateLimitAction → Str
  | .reject => "reject".toList
  | .throttle => "throttle".toList
  | .logOnly => "log_only".toList

def ofValue? : Str → Option RateLimitAction := memberOfValue? [.reject, .throttle, .logOnly] value

theorem value_injective : Function.Injective value := by
  intro a b h
  cases a <;> cases b <;> first | rfl | exact absurd h (by decide)

@[simp] theorem ofValue?_value (a : RateLimitAction) : ofValue? a.value = some a :=
  memberOfValue?_value value_injective (by cases a <;> simp)

end RateLimitAction

inductive RateLimitStatus
  | active
  | disabled
  | expired
deriving DecidableEq

namespace RateLimitStatus

def value : RateLimitStatus → Str
  | .active => "active".toList
  | .disabled => "disabled".toList
  | .expired => "expired".toList

def ofValue? : Str → Option RateLimitStatus := memberOfValue? [.active, .disabled, .expired] value

theorem value_injective : Function.Injective value := by
  intro s t h
  cases s <;> cases t <;> first | rfl | exact absurd h (by decide)

@[simp] theorem ofValue?_value (s : RateLimitStatus) : ofValue? s.value = some s :=
  memberOfValue?_value value_injective (by cases s <;> simp)

end RateLimitStatus

/-! ### Models -/

/-- `RateLimitRuleBase` -/
structure RuleFields (ν : Type) extends RateLimitRuleBase where
  description : Option Str
  metadata : ν
deriving DecidableEq

inductive RuleError
  /-- the fields that a model refuses -/
  | validationError (fields : List String)
  /-- what a validator of the whole model raises -/
  | valueError (message : Str)
  | httpException (statusCode : ℕ) (detail : Str)
  /-- the database refuses the row -/
  | integrityError
deriving DecidableEq

/-- A field, unless it is in order. -/
def refuse (field : String) (inOrder : Bool) : List String := if inOrder then [] else [field]

/-- The fields that are not of their type, or out of bounds, in the order of the model. -/
def refusedFields (targetType windowSize burstWindow action metadata : Bool) (name : Str)
    (description : Option Str) (requestsPerWindow : ℕ) (burstLimit : Option ℕ) (priority : ℕ) :
    List String :=
  refuse "name" (1 ≤ name.length && name.length ≤ 128) ++
    refuse "description" (description.all (·.length ≤ 512)) ++
    refuse "target_type" targetType ++
    refuse "requests_per_window" (1 ≤ requestsPerWindow) ++
    refuse "window_size" windowSize ++
    refuse "burst_limit" (burstLimit.all (1 ≤ ·)) ++
    refuse "burst_window" burstWindow ++
    refuse "action" action ++
    refuse "priority" (priority ≤ 1000) ++
    refuse "metadata" metadata

namespace RuleFields

def refused (f : RuleFields ν) : List String :=
  refusedFields true true true true true f.name f.description f.requestsPerWindow f.burstLimit
    f.priority

/-- What `validate_target_consistency` raises. -/
def targetError (f : RuleFields ν) : Option Str :=
  match f.targetType with
  | .global | .org => none
  | .user | .apiKey =>
    if (truthy f.targetId).isSome then none
    else some ("target_id required for target_type=".toList ++ f.targetType.value)
  | .endpoint =>
    if (truthy f.endpointPattern).isSome then none
    else some "endpoint_pattern required for target_type=endpoint".toList

/-- A burst limit without a window is one for a second. -/
def withBurstWindow (f : RuleFields ν) : RuleFields ν :=
  { f with burstWindow := f.burstWindow.or (f.burstLimit.map fun _ => .second) }

def validate (f : RuleFields ν) : Except RuleError (RuleFields ν) :=
  if f.refused = [] then
    match f.targetError with
    | some message => .error (.valueError message)
    | none => .ok f.withBurstWindow
  else .error (.validationError f.refused)

/-- What was accepted is accepted as it is. -/
theorem validate_validate {f g : RuleFields ν} (h : f.validate = .ok g) : g.validate = .ok g := by
  rw [validate] at h
  split at h
  · next hrefused =>
    split at h
    · cases h
    · next htarget =>
      cases h
      have hrefused' : f.withBurstWindow.refused = [] := hrefused
      have htarget' : f.withBurstWindow.targetError = none := htarget
      have hwindow : f.withBurstWindow.withBurstWindow = f.withBurstWindow := by
        rw [withBurstWindow, withBurstWindow]
        cases f.burstWindow <;> cases f.burstLimit <;> rfl
      rw [validate, if_pos hrefused', htarget', hwindow]
  · cases h

end RuleFields

/-- A request that was accepted. -/
structure RuleCreate (ν : Type) where
  fields : RuleFields ν
  enabled : Bool
  expiresAt : Option ℕ
  accepted : fields.validate = .ok fields

/-- `RateLimitRuleUpdate`: a field that is not set is `none`, and one that is set to `None` is
`some none`. -/
structure RuleUpdate (ν : Type) extends RateLimitRuleUpdate where
  description : Option (Option Str) := none
  metadata : Option (Option ν) := none

/-- The bounds of the fields that are set. -/
structure RuleUpdate.Accepted (request : RuleUpdate ν) : Prop where
  name : ∀ name, request.name = some (some name) → 1 ≤ name.length ∧ name.length ≤ 128
  requestsPerWindow : ∀ n, request.requestsPerWindow = some (some n) → 1 ≤ n
  burstLimit : ∀ n, request.burstLimit = some (some n) → 1 ≤ n
  priority : ∀ n, request.priority = some (some n) → n ≤ 1000

/-- `RateLimitRule` -/
structure RuleResponse (ν : Type) extends RuleFields ν where
  ruleId : Str
  orgId : Str
  enabled : Bool
  status : RateLimitStatus
  expiresAt : Option ℕ
  createdAt : ℕ
  updatedAt : ℕ
  createdBy : Option Str

/-! ### Rows and objects -/

/-- A row of `rate_limit_rules`. -/
structure RuleRow (ν : Type) where
  ruleId : Str
  orgId : Str
  name : Str
  description : Option Str
  targetType : Str
  targetId : Option Str
  endpointPattern : Option Str
  requestsPerWindow : ℕ
  windowSize : Str
  burstLimit : Option ℕ
  burstWindow : Option Str
  action : Str
  priority : ℕ
  enabled : Bool
  status : Str
  expiresAt : Option ℕ
  metadataDict : ν
  createdBy : Option Str
  createdAt : ℕ
  updatedAt : ℕ

/-- What an object has as `metadata`. -/
inductive MetadataAttribute (ν : Type)
  /-- the `MetaData` of the declarative class -/
  | ofClass
  /-- what was assigned to it -/
  | assigned (metadata : Option ν)

/-- It is a dictionary. -/
def MetadataAttribute.dict? : MetadataAttribute ν → Option ν
  | .ofClass => none
  | .assigned metadata => metadata

/-- A mapped object. -/
structure RuleObject (ν : Type) where
  row : RuleRow ν
  metadata : MetadataAttribute ν

namespace RuleObject

/-- A row that is loaded. -/
def load (row : RuleRow ν) : RuleObject ν := ⟨row, .ofClass⟩

/-- The window of the burst limit, if the text is one. -/
def burstWindow? (o : RuleObject ν) : Option (Option RateLimitWindow) :=
  match o.row.burstWindow with
  | none => some none
  | some text => (RateLimitWindow.ofValue? text).map some

/-- The attributes as fields, if each is of its type. -/
def fields? (o : RuleObject ν) : Option (RuleFields ν) := do
  let targetType ← RateLimitTarget.ofValue? o.row.targetType
  let windowSize ← RateLimitWindow.ofValue? o.row.windowSize
  let burstWindow ← o.burstWindow?
  let action ← RateLimitAction.ofValue? o.row.action
  let metadata ← o.metadata.dict?
  return {
    name := o.row.name
    targetType
    targetId := o.row.targetId
    endpointPattern := o.row.endpointPattern
    requestsPerWindow := o.row.requestsPerWindow
    windowSize
    burstLimit := o.row.burstLimit
    burstWindow
    action
    priority := o.row.priority
    description := o.row.description
    metadata }

def refused (o : RuleObject ν) : List String :=
  refusedFields (RateLimitTarget.ofValue? o.row.targetType).isSome
    (RateLimitWindow.ofValue? o.row.windowSize).isSome o.burstWindow?.isSome
    (RateLimitAction.ofValue? o.row.action).isSome o.metadata.dict?.isSome o.row.name
    o.row.description o.row.requestsPerWindow o.row.burstLimit o.row.priority ++
  refuse "status" (RateLimitStatus.ofValue? o.row.status).isSome

/-- `RateLimitRule.model_validate` -/
def modelValidate (o : RuleObject ν) : Except RuleError (RuleResponse ν) :=
  match o.fields?, RateLimitStatus.ofValue? o.row.status with
  | some fields, some status => fields.validate.map fun fields =>
    { fields with
      ruleId := o.row.ruleId
      orgId := o.row.orgId
      enabled := o.row.enabled
      status
      expiresAt := o.row.expiresAt
      createdAt := o.row.createdAt
      updatedAt := o.row.updatedAt
      createdBy := o.row.createdBy }
  | _, _ => .error (.validationError o.refused)

theorem fields?_load (row : RuleRow ν) : (load row).fields? = none := by
  simp [fields?, load, MetadataAttribute.dict?]

/-- No row that was loaded is a response. -/
theorem modelValidate_load (row : RuleRow ν) :
    (load row).modelValidate = .error (.validationError (load row).refused) := by
  rw [modelValidate, fields?_load]

/-- The field that is refused is the metadata. -/
theorem mem_refused_load (row : RuleRow ν) : "metadata" ∈ (load row).refused := by
  simp [refused, refusedFields, refuse, load, MetadataAttribute.dict?]

end RuleObject

end OpenLangGraph

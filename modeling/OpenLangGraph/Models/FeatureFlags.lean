import Mathlib.Data.Rat.Defs
import OpenLangGraph.Foundation.PyString

/-!
# Feature flags

The models of `models/feature_flags.py`. Datetimes are in microseconds, and a percentage is a float,
hence a rational number.

## Values

The value of a flag is any JSON value, and its type says what the validation makes of it. The type
`ν` stands for the values that Python tells apart by `==`, and `ValueTypes` for what the validation
asks of one.

## Requests

A request that the models accept carries the proof of it. A field of an update that is not set is
`none`, and one that is set to `None` is `some none`.

## What is left out

The targeting rules are values that no code evaluates. The attributes of an evaluation context are
for them.

## Main definitions

* `FeatureFlagBase.validate`, `FeatureFlag`, `FeatureFlagCreate`, `FeatureFlagUpdate`
* `OverrideScope.accepts`, `FeatureFlagOverride`, `FeatureFlagOverrideCreate`,
  `FeatureFlagOverrideUpdate`
* `FlagEvaluationContext`, `FlagEvaluationResult`
-/

namespace OpenLangGraph

open PyString

/-! ### Enums -/

inductive FlagValueType
  | boolean
  | string
  | number
  | json
deriving DecidableEq

inductive FlagStatus
  | active
  | disabled
  | archived
deriving DecidableEq

/-- `status.value` -/
def FlagStatus.value : FlagStatus → Str
  | .active => "active".toList
  | .disabled => "disabled".toList
  | .archived => "archived".toList

inductive RolloutStrategy
  | random
  | userHash
  | orgHash
deriving DecidableEq

inductive OverrideScope
  | global
  | org
  | user
deriving DecidableEq

/-- `scope.value` -/
def OverrideScope.value : OverrideScope → Str
  | .global => "global".toList
  | .org => "org".toList
  | .user => "user".toList

/-! ### Flags -/

/-- A percentage is between 0 and 100. -/
structure PercentageRolloutConfig where
  enabled : Bool := false
  percentage : ℚ := 0
  strategy : RolloutStrategy := .userHash
  seed : Option Str := none
  nonneg : 0 ≤ percentage := by decide
  le_hundred : percentage ≤ 100 := by decide
deriving DecidableEq

/-- `PercentageRolloutConfig()` -/
instance : Inhabited PercentageRolloutConfig := ⟨{}⟩

/-- What the validation asks of a value, and how it converts one. -/
structure ValueTypes (ν : Type) where
  /-- `isinstance(value, bool)` -/
  isBool : ν → Bool
  /-- `isinstance(value, (int, float))` -/
  isNumber : ν → Bool
  /-- `isinstance(value, str)` -/
  isStr : ν → Bool
  /-- `bool(value)` -/
  bool : ν → ν
  /-- `str(value)` -/
  str : ν → ν

/-- Why a model rejects its fields. -/
inductive FlagValidationError
  /-- a constraint of the field -/
  | field (name : Str)
  /-- the `ValueError` of a validator -/
  | value (text : Str)
deriving DecidableEq

structure FeatureFlagBase (ν : Type) where
  key : Str
  name : Str
  description : Option Str
  valueType : FlagValueType
  defaultValue : ν
  enabledValue : ν
  tags : List Str
  metadata : ν
deriving DecidableEq

/-- `^[a-z][a-z0-9_-]*$` -/
def isFlagKey : Str → Bool
  | [] => false
  | c :: s => c.isLower && s.all fun c => c.isLower || c.isDigit || c = '_' || c = '-'

namespace FeatureFlagBase

variable {ν : Type} (types : ValueTypes ν)

/-- `validate_value_types` -/
def validateValueTypes (flag : FeatureFlagBase ν) :
    Except FlagValidationError (FeatureFlagBase ν) :=
  match flag.valueType with
  | .boolean => .ok { flag with
      defaultValue := if types.isBool flag.defaultValue then flag.defaultValue
        else types.bool flag.defaultValue
      enabledValue := if types.isBool flag.enabledValue then flag.enabledValue
        else types.bool flag.enabledValue }
  | .number =>
    if !types.isNumber flag.defaultValue then
      .error (.value "default_value must be a number for NUMBER type".toList)
    else if !types.isNumber flag.enabledValue then
      .error (.value "enabled_value must be a number for NUMBER type".toList)
    else .ok flag
  | .string => .ok { flag with
      defaultValue := if types.isStr flag.defaultValue then flag.defaultValue
        else types.str flag.defaultValue
      enabledValue := if types.isStr flag.enabledValue then flag.enabledValue
        else types.str flag.enabledValue }
  | .json => .ok flag

/-- The constraints of the fields, and the validator. -/
def validate (flag : FeatureFlagBase ν) : Except FlagValidationError (FeatureFlagBase ν) :=
  if flag.key.length < 1 || 128 < flag.key.length || !isFlagKey flag.key then
    .error (.field "key".toList)
  else if flag.name.length < 1 || 256 < flag.name.length then .error (.field "name".toList)
  else if flag.description.any (1024 < ·.length) then .error (.field "description".toList)
  else validateValueTypes types flag

end FeatureFlagBase

/-- A flag of an organization. -/
structure FeatureFlag (ν : Type) extends FeatureFlagBase ν where
  flagId : Str
  orgId : Str
  enabled : Bool
  isKillswitch : Bool
  status : FlagStatus
  rollout : PercentageRolloutConfig
  targeting : Option ν
  expiresAt : Option ℕ
  createdAt : ℕ
  updatedAt : ℕ
  createdBy : Option Str
  version : ℤ
deriving DecidableEq

structure FeatureFlagCreate {ν : Type} (types : ValueTypes ν) extends FeatureFlagBase ν where
  enabled : Bool := false
  isKillswitch : Bool := false
  rollout : PercentageRolloutConfig := default
  targeting : Option ν := none
  expiresAt : Option ℕ := none
  /-- what the validator left is valid -/
  valid : toFeatureFlagBase.validate types = .ok toFeatureFlagBase

structure FeatureFlagUpdate (ν : Type) where
  name : Option (Option Str) := none
  description : Option (Option Str) := none
  /-- `None` is a JSON value -/
  defaultValue : Option ν := none
  enabledValue : Option ν := none
  enabled : Option (Option Bool) := none
  isKillswitch : Option (Option Bool) := none
  rollout : Option (Option PercentageRolloutConfig) := none
  targeting : Option (Option ν) := none
  tags : Option (Option (List Str)) := none
  metadata : Option (Option ν) := none
  expiresAt : Option (Option ℕ) := none
  status : Option (Option FlagStatus) := none

/-! ### Overrides -/

/-- `validate_scope_target` -/
def OverrideScope.accepts (targetId : Option Str) : OverrideScope → Bool
  | .user => (truthy targetId).isSome
  | .org => (truthy targetId).isNone
  | .global => true

structure FeatureFlagOverrideCreate (ν : Type) where
  flagKey : Str
  scope : OverrideScope
  targetId : Option Str := none
  value : ν
  enabled : Bool := true
  reason : Option Str := none
  expiresAt : Option ℕ := none
  reason_length : reason.all (·.length ≤ 512) = true := by decide
  accepted : scope.accepts targetId = true := by decide

structure FeatureFlagOverrideUpdate (ν : Type) where
  /-- `None` is a JSON value -/
  value : Option ν := none
  enabled : Option (Option Bool) := none
  reason : Option (Option Str) := none
  expiresAt : Option (Option ℕ) := none

structure FeatureFlagOverride (ν : Type) where
  overrideId : Str
  flagId : Str
  flagKey : Str
  orgId : Str
  scope : OverrideScope
  targetId : Option Str
  value : ν
  enabled : Bool
  reason : Option Str
  expiresAt : Option ℕ
  createdAt : ℕ
  updatedAt : ℕ
  createdBy : Option Str
deriving DecidableEq

/-! ### Evaluation -/

structure FlagEvaluationContext where
  userId : Option Str
  orgId : Option Str

structure FlagEvaluationResult (ν : Type) where
  flagKey : Str
  value : ν
  enabled : Bool
  source : Str
  reason : Str
  flagId : Option Str
  overrideId : Option Str
  evaluatedAt : ℕ

end OpenLangGraph

import OpenLangGraph.Foundation.PyString

/-!
# Rate limit rules

The model of `models/rate_limit_rules.py`: the rules that an organization keeps in the database, and
what a request gets to see of the one that applies to it. Datetimes are in milliseconds.

## Main definitions

* `RateLimitRule`, `RateLimitRuleCreate`, `RateLimitRuleUpdate`, `RateLimitRuleMatch`
* `RateLimitRuleMatch.fromRule`
-/

namespace OpenLangGraph

open PyString

inductive RateLimitTarget
  | global
  | org
  | user
  | apiKey
  | endpoint
deriving DecidableEq

inductive RateLimitWindow
  | second
  | minute
  | hour
  | day
deriving DecidableEq

def RateLimitWindow.seconds : RateLimitWindow → ℕ
  | .second => 1
  | .minute => 60
  | .hour => 3600
  | .day => 86400

inductive RateLimitAction
  | reject
  | throttle
  | logOnly
deriving DecidableEq

/-- What a rule says. A priority is at least 0. -/
structure RateLimitRuleBase where
  name : Str
  targetType : RateLimitTarget
  targetId : Option Str
  endpointPattern : Option Str
  requestsPerWindow : ℕ
  windowSize : RateLimitWindow
  burstLimit : Option ℕ
  burstWindow : Option RateLimitWindow
  action : RateLimitAction
  priority : ℕ
deriving DecidableEq

structure RateLimitRuleCreate extends RateLimitRuleBase where
  enabled : Bool
  expiresAt : Option ℕ

/-- A change of a rule. A field that is not set is `none`, and one that is set to `None` is
`some none`. -/
structure RateLimitRuleUpdate where
  name : Option (Option Str) := none
  requestsPerWindow : Option (Option ℕ) := none
  windowSize : Option (Option RateLimitWindow) := none
  burstLimit : Option (Option ℕ) := none
  burstWindow : Option (Option RateLimitWindow) := none
  action : Option (Option RateLimitAction) := none
  priority : Option (Option ℕ) := none
  enabled : Option (Option Bool) := none
  expiresAt : Option (Option ℕ) := none

/-- A rule of an organization. -/
structure RateLimitRule extends RateLimitRuleBase where
  ruleId : Str
  orgId : Str
  enabled : Bool
  expiresAt : Option ℕ
deriving DecidableEq

/-- The rule that applies to a request. -/
structure RateLimitRuleMatch where
  ruleId : Str
  ruleName : Str
  targetType : RateLimitTarget
  requestsPerWindow : ℕ
  windowSize : RateLimitWindow
  windowSeconds : ℕ
  burstLimit : Option ℕ
  burstWindowSeconds : Option ℕ
  action : RateLimitAction
  priority : ℕ
deriving DecidableEq

def RateLimitRuleMatch.fromRule (rule : RateLimitRule) : RateLimitRuleMatch where
  ruleId := rule.ruleId
  ruleName := rule.name
  targetType := rule.targetType
  requestsPerWindow := rule.requestsPerWindow
  windowSize := rule.windowSize
  windowSeconds := rule.windowSize.seconds
  burstLimit := rule.burstLimit
  burstWindowSeconds := rule.burstWindow.map RateLimitWindow.seconds
  action := rule.action
  priority := rule.priority

end OpenLangGraph

import OpenLangGraph.Core.Orm
import OpenLangGraph.Foundation.PyDict

/-!
# The rate limits of an organization

`OrgRateLimits` and `OrgRateLimitsUpdate` of `models/rate_limit.py`. The limits keep members that
they do not know. How the library converts a JSON value to an integer or a boolean is a parameter,
of which only the values that are integers and booleans already are fixed.

## Main results

* `OrgRateLimits.validate_dump` — limits are read back from their dump
-/

namespace OpenLangGraph

/-- The conversions of the validation library; `none` is a validation error. -/
structure Conversions where
  int : Json → Option ℤ
  bool : Json → Option Bool
  int_ofInt : ∀ n : ℤ, int (.ofInt n) = some n
  bool_bool : ∀ b, bool (.bool b) = some b

/-- The names of the fields of `OrgRateLimits`. -/
def rateLimitFields : List String :=
  ["requests_per_hour", "runs_per_hour", "streaming_per_hour", "enabled"]

/-- `OrgRateLimits`, with the members that are allowed besides its fields. -/
@[ext] structure OrgRateLimits where
  requestsPerHour : ℕ := 10000
  runsPerHour : ℕ := 1000
  streamingPerHour : ℕ := 200
  enabled : Bool := true
  extra : JsonObject := []
  extra_fields : ∀ e ∈ extra, e.1 ∉ rateLimitFields := by decide

/-- A field that is `None` is not set. -/
structure OrgRateLimitsUpdate where
  requestsPerHour : Option ℕ
  runsPerHour : Option ℕ
  streamingPerHour : Option ℕ
  enabled : Option Bool

/-- `model_dump(exclude_none=True)` -/
def OrgRateLimitsUpdate.updateData (limits : OrgRateLimitsUpdate) : JsonObject :=
  limits.requestsPerHour.toList.map (fun n => ("requests_per_hour", .ofInt n)) ++
    limits.runsPerHour.toList.map (fun n => ("runs_per_hour", .ofInt n)) ++
    limits.streamingPerHour.toList.map (fun n => ("streaming_per_hour", .ofInt n)) ++
    limits.enabled.toList.map fun b => ("enabled", .bool b)

theorem OrgRateLimitsUpdate.nodup_updateData (limits : OrgRateLimitsUpdate) :
    (limits.updateData.map Prod.fst).Nodup := by
  obtain ⟨requests, runs, streaming, enabled⟩ := limits
  cases requests <;> cases runs <;> cases streaming <;> cases enabled <;>
    simp [updateData]

namespace OrgRateLimits

/-- `model_dump()` -/
def dump (limits : OrgRateLimits) : JsonObject :=
  [("requests_per_hour", .ofInt limits.requestsPerHour),
    ("runs_per_hour", .ofInt limits.runsPerHour),
    ("streaming_per_hour", .ofInt limits.streamingPerHour),
    ("enabled", .bool limits.enabled)] ++ limits.extra

variable (conversions : Conversions)

/-- A field with a default that is an integer and not negative. -/
def natField (members : JsonObject) (name : String) (default : ℕ) : Option ℕ :=
  match members.lookup name with
  | none => some default
  | some v => (conversions.int v).bind fun n => if 0 ≤ n then some n.toNat else none

/-- `OrgRateLimits.model_validate` -/
def validate : Json → Option OrgRateLimits
  | .obj members => do
    let requestsPerHour ← natField conversions members "requests_per_hour" 10000
    let runsPerHour ← natField conversions members "runs_per_hour" 1000
    let streamingPerHour ← natField conversions members "streaming_per_hour" 200
    let enabled ← match members.lookup "enabled" with
      | none => some true
      | some v => conversions.bool v
    return { requestsPerHour, runsPerHour, streamingPerHour, enabled
             extra := members.filter fun e => e.1 ∉ rateLimitFields
             extra_fields := fun _ he => of_decide_eq_true (List.mem_filter.mp he).2 }
  | _ => none

variable {conversions}

theorem natField_of_lookup {members : JsonObject} {name : String} {n : ℕ} (default : ℕ)
    (h : members.lookup name = some (.ofInt n)) :
    natField conversions members name default = some n := by
  rw [natField, h]
  show (conversions.int (.ofInt n)).bind _ = _
  rw [conversions.int_ofInt, Option.bind_some, if_pos (Int.natCast_nonneg n), Int.toNat_natCast]

/-- Limits are read back from their dump. -/
theorem validate_dump (limits : OrgRateLimits) :
    validate conversions (.obj limits.dump) = some limits := by
  have hextra : limits.dump.filter (fun e => e.1 ∉ rateLimitFields) = limits.extra := by
    rw [dump, List.filter_append, List.filter_eq_self.mpr fun e he =>
      decide_eq_true (limits.extra_fields e he)]
    rfl
  rw [validate, natField_of_lookup _ rfl, natField_of_lookup _ rfl, natField_of_lookup _ rfl]
  show (conversions.bool (.bool limits.enabled)).bind _ = _
  rw [conversions.bool_bool]
  exact congrArg some (OrgRateLimits.ext rfl rfl rfl rfl hextra)

end OrgRateLimits

end OpenLangGraph

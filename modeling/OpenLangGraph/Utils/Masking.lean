import OpenLangGraph.Foundation.Json
import OpenLangGraph.Foundation.PyString
import Mathlib.Data.List.Infix

/-!
# Masking

The model of `utils/masking.py` on the values that `json.loads` returns. Such a value has no
cycles, and its keys are strings.

## Main definitions

* `isSensitiveKey`
* `maskSensitiveData`

## Main results

* `maskSensitiveData_obj`, `maskSensitiveData_ne_obj` — exactly the objects are masked to objects
-/

open PyString

namespace OpenLangGraph

namespace Masking

/-- `SENSITIVE_PATTERNS` -/
def sensitivePatterns : List String :=
  ["password", "api_key", "apikey", "secret", "token", "authorization", "credential",
    "private_key", "privatekey", "access_key", "accesskey", "bearer", "jwt", "cookie", "session",
    "sid", "auth", "set-cookie", "x-api-key", "refresh_token", "id_token", "dsn",
    "connection_string", "connection", "database_url", "db_url", "redis_url", "mongo_uri",
    "mongodb_uri"]

/-- `ALLOWED_FIELDS` -/
def allowedFields : List String :=
  ["graph_id", "assistant_id", "thread_id", "run_id", "user_id", "org_id", "name", "description",
    "status", "action", "resource_type", "resource_id", "http_method", "path", "config",
    "metadata", "created_at", "updated_at", "timestamp"]

/-- `MAX_DEPTH` -/
def maxDepth : ℕ := 10

/-- `MAX_STRING_LENGTH` -/
def maxStringLength : ℕ := 1000

/-- `MAX_LIST_ITEMS` -/
def maxListItems : ℕ := 100

/-- `MASK_VALUE` -/
def maskValue : Json := .str "***REDACTED***"

/-- `TRUNCATED_SUFFIX` -/
def truncatedSuffix : String := "...[TRUNCATED]"

/-- `_is_sensitive_key` -/
def isSensitiveKey (U : UnicodeDb) (key : String) : Bool :=
  let keyLower := U.lower key.toList
  if allowedFields.any fun field => U.lower field.toList = keyLower then false
  else sensitivePatterns.any fun pattern => pattern.toList <:+: keyLower

/-- `_truncate_string` -/
def truncateString (value : String) : String :=
  if maxStringLength < value.length then
    String.ofList (value.toList.take (maxStringLength - truncatedSuffix.length)) ++ truncatedSuffix
  else value

/-- The notice at the end of a list that was cut. -/
def truncationNotice (length : ℕ) : Json :=
  .ofEntries [("_truncated", .bool true), ("_original_length", .num (.finite length))]

/-- `_limit_list` -/
def limitList (items : List Json) : List Json :=
  if maxListItems < items.length then
    items.take maxListItems ++ [truncationNotice items.length]
  else items

def depthExceeded : Json := .obj [("_depth_exceeded", .bool true)]

/-- An item that is taken for a notice: `isinstance(item, dict) and item.get("_truncated")`. -/
def isNotice : Json → Bool
  | .obj entries => (entries.lookup "_truncated").any Json.truthy
  | _ => false

mutual

/-- `mask_sensitive_data`. The items of a list are masked before it is limited, which comes to the
same: the notice at its end is not masked. -/
def maskSensitiveData (U : UnicodeDb) (depth : ℕ) (data : Json) : Json :=
  if maxDepth ≤ depth then depthExceeded
  else
    match data with
    | .obj entries => .obj (maskEntries U (depth + 1) entries)
    | .arr items => .arr (limitList (maskItems U (depth + 1) items))
    | .str value => .str (truncateString value)
    | .null => .null
    | .bool b => .bool b
    | .num x => .num x

def maskEntries (U : UnicodeDb) (depth : ℕ) : List (String × Json) → List (String × Json)
  | [] => []
  | (key, value) :: entries =>
    (key, if isSensitiveKey U key then maskValue else maskSensitiveData U depth value) ::
      maskEntries U depth entries

def maskItems (U : UnicodeDb) (depth : ℕ) : List Json → List Json
  | [] => []
  | item :: items =>
    (if isNotice item then item else maskSensitiveData U depth item) :: maskItems U depth items

end

/-- An object is masked to an object. -/
theorem maskSensitiveData_obj (U : UnicodeDb) (entries : List (String × Json)) :
    maskSensitiveData U 0 (.obj entries) = .obj (maskEntries U 1 entries) := by
  rw [maskSensitiveData, if_neg (by decide)]

/-- Nothing else is. -/
theorem maskSensitiveData_ne_obj (U : UnicodeDb) {data : Json}
    (h : ∀ entries, data ≠ .obj entries) (entries : List (String × Json)) :
    maskSensitiveData U 0 data ≠ .obj entries := by
  cases data with
  | obj es => exact absurd rfl (h es)
  | null | bool | num | str | arr =>
    rw [maskSensitiveData, if_neg (by decide)]
    exact Json.noConfusion

theorem eq_null_of_mask {U : UnicodeDb} {data : Json} (h : maskSensitiveData U 0 data = .null) :
    data = .null := by
  cases data with
  | null => rfl
  | bool | num | str | arr | obj =>
    rw [maskSensitiveData, if_neg (by decide)] at h
    cases h

end Masking

end OpenLangGraph

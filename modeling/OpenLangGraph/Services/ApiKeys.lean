import OpenLangGraph.Core.SecretsOrm
import OpenLangGraph.Services.OrganizationService

/-!
# API keys

The API keys of `services/organization_service.py`: how a key is generated, stored as a digest,
listed, revoked and verified. Each operation is one request alone; the database gives ids and
creation times, and `secrets.token_urlsafe` the body of a key. The digest `sha256` is a parameter,
of which nothing is assumed.

## Over HTTP

The endpoints `create_api_key` and `revoke_api_key` of `api/organizations.py` call the service with
keyword arguments that it does not have, so these requests end in a `TypeError` before their first
statement. The operations here are those of the service.

## Main definitions

* `generateApiKey`, `APIKeyCreate`, `APIKey`, `APIKeyWithSecret`
* `createApiKey`, `listApiKeys`, `revokeApiKey`, `verifyApiKey`

## Main results

* `keyHash_row`, `checkApiKey_eq_some_iff` — which row a key is checked against
-/

namespace OpenLangGraph

/-- How an operation on keys and credentials fails. -/
inductive SecretError
  | org (error : OrgError)
  /-- The row has gone before it is updated or read back: a `StaleDataError`, the
  `InvalidRequestError` of `refresh`, or the `ValidationError` of `None`. -/
  | rowGone
deriving DecidableEq

/-- `APIKeyCreate` of `models/organization.py` -/
structure APIKeyCreate where
  name : String
  scopes : List String := []
  expiresInDays : Option ℕ := none
  name_length : 1 ≤ name.length ∧ name.length ≤ 255
  days : ∀ d ∈ expiresInDays, 1 ≤ d ∧ d ≤ 365

/-- `APIKey`, which has no digest -/
structure APIKey where
  keyId : String
  orgId : String
  name : String
  keyPrefix : String
  scopes : List String
  expiresAt : Option ℕ
  lastUsedAt : Option ℕ
  createdBy : String
  createdAt : ℕ
  revokedAt : Option ℕ
deriving DecidableEq

/-- `APIKeyWithSecret` -/
structure APIKeyWithSecret extends APIKey where
  rawKey : String
deriving DecidableEq

/-- An API key as it is issued: what `create_api_key` has before the row is written. -/
structure IssuedKey where
  keyId : String
  orgId : String
  rawKey : String
  name : String
  scopes : List String
  expiresAt : Option ℕ
  createdBy : String
  createdAt : ℕ
deriving DecidableEq

/-- What the clients and the database give to a request that creates a key. -/
structure KeyDraft where
  /-- `secrets.token_urlsafe(32)` -/
  keyBody : String
  keyId : String
  now : ℕ
  createdAt : ℕ

namespace OrganizationService

/-! ### Keys -/

/-- `raw_key[:16] + "..."` -/
def keyPrefixOf (rawKey : String) : String := String.ofList (rawKey.toList.take 16) ++ "..."

/-- `generate_api_key`, with the body that `secrets.token_urlsafe(32)` returns -/
def generateApiKey (sha256 : String → String) (keyBody : String) : String × String × String :=
  let rawKey := "olg_" ++ keyBody
  (rawKey, sha256 rawKey, keyPrefixOf rawKey)

/-- `to_api_key_pydantic` -/
def toApiKeyPydantic (row : APIKeyRow) : APIKey where
  keyId := row.keyId
  orgId := row.orgId
  name := row.name
  keyPrefix := row.keyPrefix
  scopes := row.scopes
  expiresAt := row.expiresAt
  lastUsedAt := row.lastUsedAt
  createdBy := row.createdBy
  createdAt := row.createdAt
  revokedAt := row.revokedAt

/-- `timedelta(days=…)` in microseconds -/
def daysUs (days : ℕ) : ℕ := days * 86400 * 1000000

/-- The expiry of a new key; `0` days count as none. -/
def newExpiry (request : APIKeyCreate) (now : ℕ) : Option ℕ :=
  (request.expiresInDays.filter (· ≠ 0)).map fun days => now + daysUs days

/-- The key that `create_api_key` issues. -/
def issueKey (orgId : String) (request : APIKeyCreate) (userIdentity : String) (draft : KeyDraft) :
    IssuedKey where
  keyId := draft.keyId
  orgId := orgId
  rawKey := "olg_" ++ draft.keyBody
  name := request.name
  scopes := request.scopes
  expiresAt := newExpiry request draft.now
  createdBy := userIdentity
  createdAt := draft.createdAt

variable (sha256 : String → String)

/-- The row of a new key: the key itself is not stored. -/
def keyRow (key : IssuedKey) : APIKeyRow where
  keyId := key.keyId
  orgId := key.orgId
  name := key.name
  keyHash := sha256 key.rawKey
  keyPrefix := keyPrefixOf key.rawKey
  scopes := key.scopes
  expiresAt := key.expiresAt
  lastUsedAt := none
  createdBy := key.createdBy
  createdAt := key.createdAt
  revokedAt := none

/-- What is stored of a key is what `generate_api_key` returns. -/
theorem keyHash_row (orgId : String) (request : APIKeyCreate) (userIdentity : String)
    (draft : KeyDraft) :
    let key := issueKey orgId request userIdentity draft
    (key.rawKey, (keyRow sha256 key).keyHash, (keyRow sha256 key).keyPrefix) =
      generateApiKey sha256 draft.keyBody := rfl

/-! ### Operations -/

/-- `_require_role`, as an operation on keys fails with it -/
def requireRoleOf (t : SecretTables) (orgId userId : String) (minRoles : List OrganizationRole) :
    Except SecretError OrganizationRole :=
  (requireRole t.org orgId userId minRoles).mapError .org

/-- The `INSERT` of a key, which needs its organization. -/
def insertApiKey (t : SecretTables) (key : IssuedKey) : Except SecretError SecretTables :=
  if t.hasOrganization key.orgId then
    match t.apiKeys.insert (keyRow sha256 key) with
    | none => .error (.org .integrityError)
    | some apiKeys => .ok { t with apiKeys }
  else .error (.org .integrityError)

/-- `create_api_key` -/
def createApiKey (t : SecretTables) (orgId : String) (request : APIKeyCreate)
    (userIdentity : String) (draft : KeyDraft) :
    Except SecretError (SecretTables × APIKeyWithSecret) := do
  let _ ← requireRoleOf t orgId userIdentity [.owner, .admin]
  let key := issueKey orgId request userIdentity draft
  let t ← insertApiKey sha256 t key
  return (t, { toApiKeyPydantic (keyRow sha256 key) with rawKey := key.rawKey })

/-- `list_api_keys`; the total is the length of the list. -/
def listApiKeys (t : SecretTables) (orgId userIdentity : String) :
    Except SecretError (List APIKey) := do
  let _ ← requireRoleOf t orgId userIdentity [.owner, .admin, .member]
  return (t.apiKeys.rows.filter (·.orgId = orgId)).map toApiKeyPydantic

/-- The key that `revoke_api_key` is about, which must not be revoked yet. -/
def keyToRevoke (t : SecretTables) (orgId keyId : String) : Except SecretError APIKeyRow :=
  match t.apiKeys.rows.find? fun row => row.orgId = orgId && row.keyId = keyId with
  | none => .error (.org (.httpException 404 ("API key '" ++ keyId ++ "' not found")))
  | some key =>
    if key.revokedAt.isSome then
      .error (.org (.httpException 400 "API key is already revoked"))
    else .ok key

/-- `UPDATE api_key SET revoked_at = … WHERE key_id = …` -/
def setRevoked (t : SecretTables) (keyId : String) (now : ℕ) : SecretTables :=
  t.updateApiKey keyId ({ · with revokedAt := some now }) (fun _ => rfl) fun _ => rfl

/-- `await self.session.get(APIKeyORM, key_id)`, and the conversion of what it returns -/
def readApiKey (t : SecretTables) (keyId : String) : Except SecretError APIKey :=
  match t.apiKeys.find? keyId with
  | none => .error .rowGone
  | some row => .ok (toApiKeyPydantic row)

/-- `revoke_api_key` -/
def revokeApiKey (t : SecretTables) (orgId keyId userIdentity : String) (now : ℕ) :
    Except SecretError (SecretTables × APIKey) := do
  let _ ← requireRoleOf t orgId userIdentity [.owner, .admin]
  let _ ← keyToRevoke t orgId keyId
  let t := setRevoked t keyId now
  return (t, ← readApiKey t keyId)

/-- What `verify_api_key` checks of a key: it is known, not revoked and not expired. -/
def checkApiKey (t : SecretTables) (rawKey : String) (now : ℕ) : Option APIKeyRow :=
  match t.apiKeys.findBy? (sha256 rawKey) with
  | none => none
  | some key =>
    if key.revokedAt.isSome then none
    else if key.expiresAt.any (· < now) then none
    else some key

/-- `UPDATE api_key SET last_used_at = … WHERE key_id = …` -/
def setLastUsed (t : SecretTables) (keyId : String) (now : ℕ) : SecretTables :=
  t.updateApiKey keyId ({ · with lastUsedAt := some now }) (fun _ => rfl) fun _ => rfl

/-- `verify_api_key` -/
def verifyApiKey (t : SecretTables) (rawKey : String) (now : ℕ) :
    SecretTables × Option (String × List String) :=
  match checkApiKey sha256 t rawKey now with
  | none => (t, none)
  | some key => (setLastUsed t key.keyId now, some (key.orgId, key.scopes))

/-- `delete_organization`, with all of the cascade. -/
def deleteOrganizationOf (t : SecretTables) (orgId userIdentity : String) :
    Except SecretError SecretTables := do
  let _ ← requireRoleOf t orgId userIdentity [.owner]
  if t.hasOrganization orgId then .ok (t.dropOrganization orgId)
  else .error (.org (.httpException 404 ("Organization '" ++ orgId ++ "' not found")))

variable {sha256} {t t' : SecretTables} {rawKey : String} {now : ℕ} {row : APIKeyRow}

theorem mapError_eq_ok {α ε ε' : Type} {x : Except ε α} {f : ε → ε'} {a : α} :
    x.mapError f = .ok a ↔ x = .ok a := by
  cases x <;> simp [Except.mapError]

/-- The user is a member of the organization with one of the roles. -/
def HasRole (t : SecretTables) (orgId userId : String) (roles : List OrganizationRole) : Prop :=
  ∃ role ∈ roles, ∃ member, t.org.member? orgId userId = some member ∧ member.role = role.value

/-- A passed check says so. -/
theorem requireRoleOf_eq_ok {orgId userId : String} {roles : List OrganizationRole}
    {role : OrganizationRole} (h : requireRoleOf t orgId userId roles = .ok role) :
    HasRole t orgId userId roles := by
  obtain ⟨hmem, hmember⟩ := requireRole_eq_ok (mapError_eq_ok.mp h)
  exact ⟨role, hmem, hmember⟩

/-- A key has been written for an organization that exists. -/
theorem insertApiKey_eq_ok {key : IssuedKey} (h : insertApiKey sha256 t key = .ok t') :
    t.hasOrganization key.orgId = true ∧
      ∃ apiKeys, t.apiKeys.insert (keyRow sha256 key) = some apiKeys ∧
        t' = { t with apiKeys } := by
  rw [insertApiKey] at h
  split at h
  · rename_i horg
    split at h
    · cases h
    · rename_i apiKeys hinsert
      cases h
      exact ⟨horg, apiKeys, hinsert, rfl⟩
  · cases h

/-- A passed check found a key of the organization, in force. -/
theorem keyToRevoke_eq_ok {orgId keyId : String} (h : keyToRevoke t orgId keyId = .ok row) :
    row ∈ t.apiKeys.rows ∧ row.orgId = orgId ∧ row.keyId = keyId ∧ row.revokedAt = none := by
  rw [keyToRevoke] at h
  split at h
  · cases h
  · rename_i key hfind
    split at h
    · cases h
    · rename_i hrevoked
      cases h
      have hboth := List.find?_some hfind
      obtain ⟨horg, hid⟩ := Bool.and_eq_true_iff.mp hboth
      exact ⟨List.mem_of_find?_eq_some hfind, of_decide_eq_true horg, of_decide_eq_true hid,
        by simpa using hrevoked⟩

/-- A passed check found the row with the digest of the key, in force. -/
theorem checkApiKey_eq_some_iff :
    checkApiKey sha256 t rawKey now = some row ↔
      row ∈ t.apiKeys.rows ∧ row.keyHash = sha256 rawKey ∧ row.revokedAt = none ∧
        ∀ expiry ∈ row.expiresAt, now ≤ expiry := by
  rw [checkApiKey]
  constructor
  · intro h
    split at h
    · cases h
    · rename_i key hfind
      obtain ⟨hmem, hhash⟩ := TwoKeyTable.findBy?_eq_some_iff.mp hfind
      split at h
      · cases h
      · rename_i hrevoked
        split at h
        · cases h
        · rename_i hexpired
          cases h
          refine ⟨hmem, hhash, by simpa using hrevoked, fun expiry hexpiry => ?_⟩
          by_contra hlate
          exact hexpired (Option.any_eq_true _ _ |>.mpr ⟨expiry, hexpiry, by simpa using hlate⟩)
  · rintro ⟨hmem, hhash, hrevoked, hexpiry⟩
    rw [TwoKeyTable.findBy?_eq_some_iff.mpr ⟨hmem, hhash⟩]
    have hopen : row.expiresAt.any (fun expiry => decide (expiry < now)) = false := by
      cases hrow : row.expiresAt with
      | none => rfl
      | some expiry => exact decide_eq_false (Nat.not_lt.mpr (hexpiry expiry hrow))
    simp [hrevoked, hopen]

end OrganizationService

end OpenLangGraph

import OpenLangGraph.Services.ApiKeys

/-!
# Agents and their credentials

`services/agent_auth/service.py`: an organization registers agents, and issues credentials to them.
Each operation is one request alone; the database gives ids and times. The roles are checked as by
the organization service, whose `_require_role` this service repeats word for word.

## Main definitions

* `AgentIdentityCreate`, `AgentCredentialCreate`, `AgentCredentialType`
* `registerAgent`, `listAgents`, `createCredential`, `revokeCredential`

## Main results

* `activeAgent_eq_ok`, `credentialToRevoke_eq_ok` — what the checks of the two last operations say
-/

namespace OpenLangGraph

/-- `AgentIdentityStatus` of `services/agent_auth/models.py` -/
inductive AgentIdentityStatus
  | active
  | revoked
deriving DecidableEq

/-- `status.value` -/
def AgentIdentityStatus.value : AgentIdentityStatus → String
  | .active => "active"
  | .revoked => "revoked"

/-- `AgentCredentialType` -/
inductive AgentCredentialType
  | jwtIssuer
  | apiKey
deriving DecidableEq

/-- `credential_type.value` -/
def AgentCredentialType.value : AgentCredentialType → String
  | .jwtIssuer => "jwt_issuer"
  | .apiKey => "api_key"

/-- `AgentIdentityCreate` -/
structure AgentIdentityCreate where
  name : String
  metadata : Option (List (String × Json))
  name_length : 1 ≤ name.length ∧ name.length ≤ 255

/-- `AgentCredentialCreate` -/
structure AgentCredentialCreate where
  credentialType : AgentCredentialType
  credentialData : Option (List (String × Json))
  fingerprint : String
  expiresAt : Option ℕ
  fingerprint_length : 1 ≤ fingerprint.length

namespace AgentAuthService

open OrganizationService

/-- The row of a new agent; `metadata or {}` -/
def newAgent (orgId : String) (request : AgentIdentityCreate) (agentId : String) (now : ℕ) :
    AgentIdentityRow where
  id := agentId
  orgId := orgId
  name := request.name
  status := AgentIdentityStatus.active.value
  metadataDict := request.metadata.getD []
  createdAt := now
  updatedAt := now

/-- The row of a new credential; `credential_data or {}` -/
def newCredential (agentId : String) (request : AgentCredentialCreate) (credentialId : String)
    (now : ℕ) : AgentCredentialRow where
  id := credentialId
  agentId := agentId
  credentialType := request.credentialType.value
  credentialData := request.credentialData.getD []
  fingerprint := request.fingerprint
  createdAt := now
  expiresAt := request.expiresAt
  revokedAt := none

/-! ### Reads and writes -/

/-- The `INSERT` of an agent, which needs its organization. -/
def insertAgent (t : SecretTables) (row : AgentIdentityRow) : Except SecretError SecretTables :=
  if t.hasOrganization row.orgId then
    match t.agents.insert row with
    | none => .error (.org .integrityError)
    | some agents => .ok { t with agents }
  else .error (.org .integrityError)

/-- The `INSERT` of a credential, which needs its agent. -/
def insertCredential (t : SecretTables) (row : AgentCredentialRow) :
    Except SecretError SecretTables :=
  if (t.agents.find? row.agentId).isSome then
    match t.credentials.insert row with
    | none => .error (.org .integrityError)
    | some credentials => .ok { t with credentials }
  else .error (.org .integrityError)

/-- The agent with this id in the organization. -/
def findAgent (t : SecretTables) (orgId agentId : String) : Except SecretError AgentIdentityRow :=
  match t.agents.rows.find? fun row => row.id = agentId && row.orgId = orgId with
  | none => .error (.org (.httpException 404 ("Agent '" ++ agentId ++ "' not found")))
  | some agent => .ok agent

/-- The agent of a new credential. -/
def activeAgent (t : SecretTables) (orgId agentId : String) :
    Except SecretError AgentIdentityRow := do
  let agent ← findAgent t orgId agentId
  if agent.status ≠ AgentIdentityStatus.active.value then
    .error (.org (.httpException 400 "Agent identity is revoked"))
  else return agent

/-- The query for a credential with the fingerprint. -/
def checkFingerprint (t : SecretTables) (fingerprint : String) : Except SecretError Unit :=
  if (t.credentials.findBy? fingerprint).isSome then
    .error (.org (.httpException 409 "Credential fingerprint already exists"))
  else .ok ()

/-- The credential that `revoke_credential` is about, which must not be revoked yet. -/
def credentialToRevoke (t : SecretTables) (agentId credentialId : String) :
    Except SecretError AgentCredentialRow :=
  match t.credentials.rows.find? fun row => row.id = credentialId && row.agentId = agentId with
  | none => .error (.org (.httpException 404 ("Credential '" ++ credentialId ++ "' not found")))
  | some credential =>
    if credential.revokedAt.isSome then
      .error (.org (.httpException 400 "Credential is already revoked"))
    else .ok credential

/-- `UPDATE agent_credential SET revoked_at = … WHERE id = …`, which must match a row -/
def setCredentialRevoked (t : SecretTables) (credentialId : String) (now : ℕ) :
    Except SecretError SecretTables :=
  if (t.credentials.find? credentialId).isSome then
    .ok
      { t with
        credentials := t.credentials.updateIf (·.id = credentialId)
          ({ · with revokedAt := some now }) (fun _ => rfl) fun _ => rfl }
  else .error .rowGone

/-! ### Operations -/

/-- `register_agent` -/
def registerAgent (t : SecretTables) (request : AgentIdentityCreate) (orgId userIdentity : String)
    (agentId : String) (now : ℕ) : Except SecretError (SecretTables × AgentIdentityRow) := do
  let _ ← requireRoleOf t orgId userIdentity [.owner, .admin]
  let agent := newAgent orgId request agentId now
  return (← insertAgent t agent, agent)

/-- `list_agents` -/
def listAgents (t : SecretTables) (orgId userIdentity : String) :
    Except SecretError (List AgentIdentityRow) := do
  let _ ← requireRoleOf t orgId userIdentity [.owner, .admin, .member]
  return t.agents.rows.filter (·.orgId = orgId)

/-- `create_credential` -/
def createCredential (t : SecretTables) (orgId agentId : String) (request : AgentCredentialCreate)
    (userIdentity credentialId : String) (now : ℕ) :
    Except SecretError (SecretTables × AgentCredentialRow) := do
  let _ ← requireRoleOf t orgId userIdentity [.owner, .admin]
  let _ ← activeAgent t orgId agentId
  checkFingerprint t request.fingerprint
  let credential := newCredential agentId request credentialId now
  return (← insertCredential t credential, credential)

/-- `revoke_credential` -/
def revokeCredential (t : SecretTables) (orgId agentId credentialId userIdentity : String)
    (now : ℕ) : Except SecretError (SecretTables × AgentCredentialRow) := do
  let _ ← requireRoleOf t orgId userIdentity [.owner, .admin]
  let _ ← findAgent t orgId agentId
  let credential ← credentialToRevoke t agentId credentialId
  return (← setCredentialRevoked t credentialId now, { credential with revokedAt := some now })

/-! ### What the checks say -/

variable {t t' : SecretTables} {orgId agentId credentialId : String} {agent : AgentIdentityRow}
  {credential : AgentCredentialRow}

/-- An agent has been written for an organization that exists. -/
theorem insertAgent_eq_ok (h : insertAgent t agent = .ok t') :
    t.hasOrganization agent.orgId = true ∧
      ∃ agents, t.agents.insert agent = some agents ∧ t' = { t with agents } := by
  rw [insertAgent] at h
  split at h
  · rename_i horg
    split at h
    · cases h
    · rename_i agents hinsert
      cases h
      exact ⟨horg, agents, hinsert, rfl⟩
  · cases h

/-- A credential has been written for an agent that exists. -/
theorem insertCredential_eq_ok (h : insertCredential t credential = .ok t') :
    (∃ agent, t.agents.find? credential.agentId = some agent) ∧
      ∃ credentials, t.credentials.insert credential = some credentials ∧
        t' = { t with credentials } := by
  rw [insertCredential] at h
  split at h
  · rename_i hagent
    split at h
    · cases h
    · rename_i credentials hinsert
      cases h
      exact ⟨Option.isSome_iff_exists.mp hagent, credentials, hinsert, rfl⟩
  · cases h

theorem findAgent_eq_ok (h : findAgent t orgId agentId = .ok agent) :
    t.agentOf orgId agentId = true := by
  rw [findAgent] at h
  split at h
  · cases h
  · rename_i row hfind
    have hboth := List.find?_some hfind
    obtain ⟨hid, horg⟩ := Bool.and_eq_true_iff.mp hboth
    exact SecretTables.agentOf_iff.mpr
      ⟨row, List.mem_of_find?_eq_some hfind, of_decide_eq_true hid, of_decide_eq_true horg⟩

/-- A passed check found an active agent of the organization. -/
theorem activeAgent_eq_ok (h : activeAgent t orgId agentId = .ok agent) :
    t.agentOf orgId agentId = true ∧ agent.status = AgentIdentityStatus.active.value := by
  obtain ⟨row, hrow, hrest⟩ := bind_eq_ok.mp h
  split at hrest
  · cases hrest
  · rename_i hactive
    cases hrest
    exact ⟨findAgent_eq_ok hrow, by simpa using hactive⟩

/-- A passed check found a credential of the agent, in force. -/
theorem credentialToRevoke_eq_ok (h : credentialToRevoke t agentId credentialId = .ok credential) :
    credential ∈ t.credentials.rows ∧ credential.id = credentialId ∧
      credential.agentId = agentId ∧ credential.revokedAt = none := by
  rw [credentialToRevoke] at h
  split at h
  · cases h
  · rename_i row hfind
    split at h
    · cases h
    · rename_i hrevoked
      cases h
      have hboth := List.find?_some hfind
      obtain ⟨hid, hagent⟩ := Bool.and_eq_true_iff.mp hboth
      exact ⟨List.mem_of_find?_eq_some hfind, of_decide_eq_true hid, of_decide_eq_true hagent,
        by simpa using hrevoked⟩

end AgentAuthService

end OpenLangGraph

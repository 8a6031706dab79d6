import OpenLangGraph.Core.OrganizationOrm
import OpenLangGraph.Foundation.Json
import OpenLangGraph.Foundation.TwoKeyTable

/-!
# API keys, agents and their credentials

The rows of `core/orm.py` for what an organization hands out: `api_key`, `agent_identity` and
`agent_credential`. Times are in microseconds.

## Keys

Each table has its id as primary key. The index on `api_key.key_hash` and the one on
`agent_credential.fingerprint` are unique. The foreign keys cascade: with an organization go its API
keys and its agents, and with an agent its credentials.

## Main definitions

* `APIKeyRow`, `AgentIdentityRow`, `AgentCredentialRow`
* `SecretTables`, with `SecretTables.dropOrganization`

## Main results

* `SecretTables.belongs_dropOrganization` — the cascade leaves no row behind
-/

namespace OpenLangGraph

/-- A row of `api_key`. -/
structure APIKeyRow where
  keyId : String
  orgId : String
  name : String
  keyHash : String
  keyPrefix : String
  scopes : List String
  expiresAt : Option ℕ
  lastUsedAt : Option ℕ
  createdBy : String
  createdAt : ℕ
  revokedAt : Option ℕ
deriving DecidableEq

/-- A row of `agent_identity`. -/
structure AgentIdentityRow where
  id : String
  orgId : String
  name : String
  status : String
  metadataDict : List (String × Json)
  createdAt : ℕ
  updatedAt : ℕ

/-- A row of `agent_credential`. -/
structure AgentCredentialRow where
  id : String
  agentId : String
  credentialType : String
  credentialData : List (String × Json)
  fingerprint : String
  createdAt : ℕ
  expiresAt : Option ℕ
  revokedAt : Option ℕ

/-- The tables, next to those of the organizations. -/
structure SecretTables where
  org : OrgTables
  apiKeys : TwoKeyTable APIKeyRow.keyId APIKeyRow.keyHash
  agents : Table AgentIdentityRow.id
  credentials : TwoKeyTable AgentCredentialRow.id AgentCredentialRow.fingerprint

namespace SecretTables

/-- The organization exists. -/
def hasOrganization (t : SecretTables) (orgId : String) : Bool :=
  t.org.organizations.rows.any (·.orgId = orgId)

/-- The agent belongs to the organization. -/
def agentOf (t : SecretTables) (orgId agentId : String) : Bool :=
  (t.agents.find? agentId).any (·.orgId = orgId)

/-- `DELETE FROM organization WHERE org_id = …`, with the cascade of the foreign keys. -/
def dropOrganization (t : SecretTables) (orgId : String) : SecretTables where
  org :=
    { organizations := t.org.organizations.deleteIf (·.orgId = orgId)
      members := t.org.members.deleteIf (·.orgId = orgId)
      roleDefinitions := t.org.roleDefinitions.deleteIf (·.orgId = orgId)
      customPermissions := t.org.customPermissions.deleteIf (·.orgId = orgId) }
  apiKeys := t.apiKeys.deleteIf (·.orgId = orgId)
  agents := t.agents.deleteIf (·.orgId = orgId)
  credentials := t.credentials.deleteIf fun row => t.agentOf orgId row.agentId

/-- `UPDATE api_key SET … WHERE key_id = …` -/
def updateApiKey (t : SecretTables) (keyId : String) (f : APIKeyRow → APIKeyRow)
    (hkey : ∀ row, (f row).keyId = row.keyId) (hhash : ∀ row, (f row).keyHash = row.keyHash) :
    SecretTables :=
  { t with apiKeys := t.apiKeys.updateIf (·.keyId = keyId) f hkey hhash }

/-- The foreign keys: every row has its organization or its agent. -/
structure Belongs (t : SecretTables) : Prop where
  apiKey : ∀ row ∈ t.apiKeys.rows, t.hasOrganization row.orgId = true
  agent : ∀ row ∈ t.agents.rows, t.hasOrganization row.orgId = true
  credential : ∀ row ∈ t.credentials.rows, ∃ agent ∈ t.agents.rows, agent.id = row.agentId

variable {t : SecretTables} {orgId orgId' agentId : String}

theorem hasOrganization_iff :
    t.hasOrganization orgId = true ↔ ∃ row ∈ t.org.organizations.rows, row.orgId = orgId := by
  simp [hasOrganization]

theorem agentOf_iff :
    t.agentOf orgId agentId = true ↔
      ∃ row ∈ t.agents.rows, row.id = agentId ∧ row.orgId = orgId := by
  rw [agentOf, Option.any_eq_true]
  constructor
  · rintro ⟨row, hrow, horg⟩
    obtain ⟨hmem, hid⟩ := Table.find?_eq_some_iff.mp hrow
    exact ⟨row, hmem, hid, of_decide_eq_true horg⟩
  · rintro ⟨row, hmem, hid, horg⟩
    exact ⟨row, Table.find?_eq_some_iff.mpr ⟨hmem, hid⟩, decide_eq_true horg⟩

/-- An agent belongs to one organization. -/
theorem agentOf_unique (h : t.agentOf orgId agentId = true) (h' : t.agentOf orgId' agentId = true) :
    orgId = orgId' := by
  obtain ⟨row, hrow, hid, rfl⟩ := agentOf_iff.mp h
  obtain ⟨row', hrow', hid', rfl⟩ := agentOf_iff.mp h'
  rw [List.inj_on_of_nodup_map t.agents.unique hrow hrow' (hid.trans hid'.symm)]

/-- Rows of other tables do not matter to the foreign keys. -/
theorem Belongs.of_subset {t t' : SecretTables} (h : t.Belongs)
    (horganizations : ∀ orgId, t.hasOrganization orgId = true → t'.hasOrganization orgId = true)
    (hagents : ∀ row ∈ t.agents.rows, row ∈ t'.agents.rows)
    (hapiKey : ∀ row ∈ t'.apiKeys.rows, t'.hasOrganization row.orgId = true ∨
      ∃ old ∈ t.apiKeys.rows, old.orgId = row.orgId)
    (hagent : ∀ row ∈ t'.agents.rows, t'.hasOrganization row.orgId = true ∨ row ∈ t.agents.rows)
    (hcredential : ∀ row ∈ t'.credentials.rows, (∃ agent ∈ t.agents.rows, agent.id = row.agentId) ∨
      ∃ old ∈ t.credentials.rows, old.agentId = row.agentId) : t'.Belongs where
  apiKey row hrow := by
    rcases hapiKey row hrow with hnew | ⟨old, hold, heq⟩
    · exact hnew
    · exact heq ▸ horganizations _ (h.apiKey old hold)
  agent row hrow := (hagent row hrow).elim id fun hold => horganizations _ (h.agent row hold)
  credential row hrow := by
    rcases hcredential row hrow with ⟨agent, hmem, hid⟩ | ⟨old, hold, heq⟩
    · exact ⟨agent, hagents agent hmem, hid⟩
    · obtain ⟨agent, hmem, hid⟩ := h.credential old hold
      exact ⟨agent, hagents agent hmem, hid.trans heq⟩

theorem belongs_updateApiKey (h : t.Belongs) {keyId : String} {f : APIKeyRow → APIKeyRow}
    (hkey : ∀ row, (f row).keyId = row.keyId) (hhash : ∀ row, (f row).keyHash = row.keyHash)
    (horg : ∀ row, (f row).orgId = row.orgId) : (t.updateApiKey keyId f hkey hhash).Belongs := by
  refine h.of_subset (fun _ hold => hold) (fun _ hrow => hrow) (fun row hrow => ?_)
    (fun _ hrow => .inr hrow) fun row hrow => .inr ⟨row, hrow, rfl⟩
  rcases Table.mem_updateIf hkey hrow with hold | ⟨old, hold, -, rfl⟩
  · exact .inr ⟨row, hold, rfl⟩
  · exact .inr ⟨old, hold, (horg old).symm⟩

/-- An updated key is found by its id. -/
theorem find?_updateApiKey {keyId : String} {f : APIKeyRow → APIKeyRow}
    (hkey : ∀ row, (f row).keyId = row.keyId) (hhash : ∀ row, (f row).keyHash = row.keyHash) :
    (t.updateApiKey keyId f hkey hhash).apiKeys.find? keyId = (t.apiKeys.find? keyId).map f := by
  have h := Table.find?_updateIf (t := t.apiKeys.toTable) (p := (·.keyId = keyId)) hkey keyId
  refine h.trans ?_
  cases hrow : t.apiKeys.find? keyId with
  | none => rfl
  | some row =>
    rw [Option.map_some, Option.map_some]
    exact congrArg some (if_pos (decide_eq_true (Table.find?_eq_some_iff.mp hrow).2))

theorem hasOrganization_dropOrganization :
    (t.dropOrganization orgId).hasOrganization orgId' =
      (t.hasOrganization orgId' && !decide (orgId' = orgId)) := by
  rw [Bool.eq_iff_iff, hasOrganization_iff, Bool.and_eq_true, hasOrganization_iff]
  constructor
  · rintro ⟨row, hrow, rfl⟩
    obtain ⟨hmem, hne⟩ := List.mem_filter.mp hrow
    exact ⟨⟨row, hmem, rfl⟩, hne⟩
  · rintro ⟨⟨row, hrow, rfl⟩, hne⟩
    exact ⟨row, List.mem_filter.mpr ⟨hrow, hne⟩, rfl⟩

/-- **The cascade leaves no row behind**: what belonged still belongs. -/
theorem belongs_dropOrganization (h : t.Belongs) : (t.dropOrganization orgId).Belongs where
  apiKey row hrow := by
    obtain ⟨hmem, hne⟩ := List.mem_filter.mp hrow
    rw [hasOrganization_dropOrganization, h.apiKey row hmem]
    exact hne
  agent row hrow := by
    obtain ⟨hmem, hne⟩ := List.mem_filter.mp hrow
    rw [hasOrganization_dropOrganization, h.agent row hmem]
    exact hne
  credential row hrow := by
    obtain ⟨hmem, hother⟩ := List.mem_filter.mp hrow
    obtain ⟨agent, hagent, hid⟩ := h.credential row hmem
    refine ⟨agent, List.mem_filter.mpr ⟨hagent, ?_⟩, hid⟩
    by_contra hsame
    have horg : agent.orgId = orgId := by simpa using hsame
    have hof : t.agentOf orgId row.agentId = true := agentOf_iff.mpr ⟨agent, hagent, hid, horg⟩
    simp [hof] at hother

end SecretTables

end OpenLangGraph

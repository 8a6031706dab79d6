import OpenLangGraph.Foundation.Grants
import OpenLangGraph.Foundation.ProgramReads
import OpenLangGraph.Services.AgentAuth
import OpenLangGraph.Services.LastOwner

/-!
# Requests on keys and credentials

The operations on API keys, agents and credentials as programs whose statements interleave with each
other, with those of the membership operations and with the deletion of organizations.

## The log

The store has the tables and two logs, one of the API keys and one of the credentials: what was
issued, revoked and dropped with its organization, in the order of the writes. The logs are a record
for what is said about runs; no statement reads them.

## Main definitions

* `SecretStore`, `SecretStatement`, `SecretStatement.apply`
* `SecretCall`, `SecretCall.program` — the operations
* `TenantCall` — these, and the membership operations

## Main results

* `SecretCall.run_program` — a program that runs alone is the operation
-/

namespace OpenLangGraph

open OrganizationService AgentAuthService

/-- A credential as it is issued, with the organization of its agent. -/
structure IssuedCredential where
  row : AgentCredentialRow
  orgId : String

/-- The tables, the organizations that wait for their first owner, and the two logs. -/
structure SecretStore where
  tables : SecretTables
  awaiting : List String
  keyLog : List (Grants.Event IssuedKey String String)
  credentialLog : List (Grants.Event IssuedCredential String String)

/-- Before any key, agent or credential. -/
def SecretStore.initial (org : OrgTables) : SecretStore where
  tables := { org, apiKeys := .empty, agents := .empty, credentials := .empty }
  awaiting := []
  keyLog := []
  credentialLog := []

/-- The part of the store that the membership operations know. -/
def SecretStore.orgStore (s : SecretStore) : OrgStore := ⟨s.tables.org, s.awaiting⟩

def SecretStore.withOrg (s : SecretStore) (o : OrgStore) : SecretStore :=
  { s with tables := { s.tables with org := o.tables }, awaiting := o.awaiting }

/-- The organization of a member that a statement adds. -/
def Statement.newMemberOf : Statement → Option String
  | .insertCreator _ orgId _ => some orgId
  | .insertMember member => some member.orgId
  | _ => none

/-- The writes, each with its commit. -/
inductive SecretStatement
  | membership (statement : Statement)
  | deleteOrganization (orgId : String)
  | insertApiKey (key : IssuedKey)
  | setRevoked (keyId : String) (now : ℕ)
  | setLastUsed (keyId : String) (now : ℕ)
  | insertAgent (row : AgentIdentityRow)
  | insertCredential (agentId : String) (request : AgentCredentialCreate) (credentialId : String)
      (now : ℕ)
  | setCredentialRevoked (credentialId : String) (now : ℕ)

namespace SecretStatement

variable (sha256 : String → String)

/-- The organization of the agent with this id. -/
def orgOfAgent (t : SecretTables) (agentId : String) : String :=
  ((t.agents.find? agentId).map (·.orgId)).getD ""

def apply : SecretStatement → SecretStore → Except SecretError SecretStore
  | .membership statement, s =>
    if statement.newMemberOf.all s.tables.hasOrganization then
      ((statement.apply s.orgStore).mapError .org).map s.withOrg
    else .error (.org .integrityError)
  | .deleteOrganization orgId, s =>
    .ok
      { tables := s.tables.dropOrganization orgId
        awaiting := s.awaiting.filter (· ≠ orgId)
        keyLog := s.keyLog ++ [.dropped orgId]
        credentialLog := s.credentialLog ++ [.dropped orgId] }
  | .insertApiKey key, s =>
    (OrganizationService.insertApiKey sha256 s.tables key).map fun tables =>
      { s with tables, keyLog := s.keyLog ++ [.issued key] }
  | .setRevoked keyId now, s =>
    .ok
      { s with
        tables := OrganizationService.setRevoked s.tables keyId now
        keyLog := s.keyLog ++ [.revoked keyId] }
  | .setLastUsed keyId now, s =>
    .ok { s with tables := OrganizationService.setLastUsed s.tables keyId now }
  | .insertAgent row, s =>
    (AgentAuthService.insertAgent s.tables row).map fun tables => { s with tables }
  | .insertCredential agentId request credentialId now, s =>
    let row := newCredential agentId request credentialId now
    (AgentAuthService.insertCredential s.tables row).map fun tables =>
      { s with
        tables
        credentialLog := s.credentialLog ++ [.issued ⟨row, orgOfAgent s.tables agentId⟩] }
  | .setCredentialRevoked credentialId now, s =>
    (AgentAuthService.setCredentialRevoked s.tables credentialId now).map fun tables =>
      { s with tables, credentialLog := s.credentialLog ++ [.revoked credentialId] }

end SecretStatement

/-! ### The operations -/

/-- An operation with its arguments, and what the database and the clock give to it. -/
inductive SecretCall
  | deleteOrganization (orgId userIdentity : String)
  | createApiKey (orgId : String) (request : APIKeyCreate) (userIdentity : String)
      (draft : KeyDraft)
  | revokeApiKey (orgId keyId userIdentity : String) (now : ℕ)
  | verifyApiKey (rawKey : String) (now : ℕ)
  | registerAgent (request : AgentIdentityCreate) (orgId userIdentity agentId : String) (now : ℕ)
  | createCredential (orgId agentId : String) (request : AgentCredentialCreate)
      (userIdentity credentialId : String) (now : ℕ)
  | revokeCredential (orgId agentId credentialId userIdentity : String) (now : ℕ)

namespace SecretCall

open Program

variable (sha256 : String → String)

/-- The query of `delete_organization`. -/
def checkOrganization (t : SecretTables) (orgId : String) : Except SecretError Unit :=
  if t.hasOrganization orgId then .ok ()
  else .error (.org (.httpException 404 ("Organization '" ++ orgId ++ "' not found")))

/-- The operations as programs. What is read back after a commit can be gone. -/
def program : SecretCall → Program SecretStore SecretStatement SecretError
  | .deleteOrganization orgId userIdentity =>
    .read (fun s => requireRoleOf s.tables orgId userIdentity [.owner]) fun _ =>
    .read (fun s => checkOrganization s.tables orgId) fun _ =>
    .write (.deleteOrganization orgId) <|
    .ended (.ok ())
  | .createApiKey orgId request userIdentity draft =>
    .read (fun s => requireRoleOf s.tables orgId userIdentity [.owner, .admin]) fun _ =>
    .write (.insertApiKey (issueKey orgId request userIdentity draft)) <|
    .read (fun s => readApiKey s.tables draft.keyId) fun _ =>
    .ended (.ok ())
  | .revokeApiKey orgId keyId userIdentity now =>
    .read (fun s => requireRoleOf s.tables orgId userIdentity [.owner, .admin]) fun _ =>
    .read (fun s => keyToRevoke s.tables orgId keyId) fun _ =>
    .write (.setRevoked keyId now) <|
    .read (fun s => readApiKey s.tables keyId) fun _ =>
    .ended (.ok ())
  | .verifyApiKey rawKey now =>
    .select fun s =>
      match checkApiKey sha256 s.tables rawKey now with
      | none => .ended (.ok ())
      | some key => .write (.setLastUsed key.keyId now) (.ended (.ok ()))
  | .registerAgent request orgId userIdentity agentId now =>
    .read (fun s => requireRoleOf s.tables orgId userIdentity [.owner, .admin]) fun _ =>
    .write (.insertAgent (newAgent orgId request agentId now)) <|
    .ended (.ok ())
  | .createCredential orgId agentId request userIdentity credentialId now =>
    .read (fun s => requireRoleOf s.tables orgId userIdentity [.owner, .admin]) fun _ =>
    .read (fun s => activeAgent s.tables orgId agentId) fun _ =>
    .read (fun s => checkFingerprint s.tables request.fingerprint) fun _ =>
    .write (.insertCredential agentId request credentialId now) <|
    .ended (.ok ())
  | .revokeCredential orgId agentId credentialId userIdentity now =>
    .read (fun s => requireRoleOf s.tables orgId userIdentity [.owner, .admin]) fun _ =>
    .read (fun s => findAgent s.tables orgId agentId) fun _ =>
    .read (fun s => credentialToRevoke s.tables agentId credentialId) fun _ =>
    .write (.setCredentialRevoked credentialId now) <|
    .ended (.ok ())

/-- The tables after the operation alone. -/
def perform (t : SecretTables) : SecretCall → Except SecretError SecretTables
  | .deleteOrganization orgId userIdentity => deleteOrganizationOf t orgId userIdentity
  | .createApiKey orgId request userIdentity draft =>
    (OrganizationService.createApiKey sha256 t orgId request userIdentity draft).map Prod.fst
  | .revokeApiKey orgId keyId userIdentity now =>
    (OrganizationService.revokeApiKey t orgId keyId userIdentity now).map Prod.fst
  | .verifyApiKey rawKey now => .ok (OrganizationService.verifyApiKey sha256 t rawKey now).1
  | .registerAgent request orgId userIdentity agentId now =>
    (AgentAuthService.registerAgent t request orgId userIdentity agentId now).map Prod.fst
  | .createCredential orgId agentId request userIdentity credentialId now =>
    (AgentAuthService.createCredential t orgId agentId request userIdentity credentialId now).map
      Prod.fst
  | .revokeCredential orgId agentId credentialId userIdentity now =>
    (AgentAuthService.revokeCredential t orgId agentId credentialId userIdentity now).map Prod.fst

/-- An operation that fails changes nothing. -/
def after (t : SecretTables) (call : SecretCall) : SecretTables :=
  match call.perform sha256 t with
  | .ok t' => t'
  | .error _ => t

end SecretCall

/-- The user whose request it is. A key is verified for anyone. -/
def SecretCall.sender : SecretCall → Option String
  | .deleteOrganization _ userIdentity => some userIdentity
  | .createApiKey _ _ userIdentity _ => some userIdentity
  | .revokeApiKey _ _ userIdentity _ => some userIdentity
  | .verifyApiKey _ _ => none
  | .registerAgent _ _ userIdentity _ _ => some userIdentity
  | .createCredential _ _ _ userIdentity _ _ => some userIdentity
  | .revokeCredential _ _ _ userIdentity _ => some userIdentity

/-- A request of the organization service, or of the agent service. -/
inductive TenantCall
  | membership (call : MembershipCall)
  | secret (call : SecretCall)

def TenantCall.sender : TenantCall → Option String
  | .membership _ => none
  | .secret call => call.sender

/-- The requests as programs on one store. -/
def TenantCall.program (sha256 : String → String) :
    TenantCall → Program SecretStore SecretStatement SecretError
  | .membership call =>
    (call.program.lift SecretStore.orgStore SecretStatement.membership).mapError .org
  | .secret call => call.program sha256

/-! ### Running alone -/

namespace SecretCall

open Program

variable {sha256 : String → String}

/-- The key that has just been written is read back. -/
theorem readApiKey_setRevoked {t : SecretTables} {orgId keyId : String} {key : APIKeyRow}
    (h : keyToRevoke t orgId keyId = .ok key) (now : ℕ) :
    ∃ view, readApiKey (setRevoked t keyId now) keyId = .ok view := by
  rw [keyToRevoke] at h
  split at h
  · cases h
  · rename_i row hfind
    have hboth := List.find?_some hfind
    obtain ⟨-, hid⟩ := Bool.and_eq_true_iff.mp hboth
    have hrow : t.apiKeys.find? keyId = some row :=
      Table.find?_eq_some_iff.mpr ⟨List.mem_of_find?_eq_some hfind, of_decide_eq_true hid⟩
    refine ⟨toApiKeyPydantic { row with revokedAt := some now }, ?_⟩
    rw [readApiKey, setRevoked, SecretTables.find?_updateApiKey, hrow]
    rfl

/-- **A program that runs alone** is the operation. -/
theorem run_program (call : SecretCall) (s : SecretStore) :
    ((call.program sha256).run (SecretStatement.apply sha256) s).1.tables =
      call.after sha256 s.tables := by
  rw [after]
  cases call with
  | deleteOrganization orgId userIdentity =>
    rw [perform, deleteOrganizationOf, program]
    simp only [run_read]
    cases requireRoleOf s.tables orgId userIdentity [.owner] with
    | error e => rfl
    | ok role =>
      simp only [bind, Except.bind, checkOrganization]
      by_cases horg : s.tables.hasOrganization orgId = true
      · rw [if_pos horg, if_pos horg]
        rfl
      · rw [if_neg horg, if_neg horg]
  | createApiKey orgId request userIdentity draft =>
    rw [perform, OrganizationService.createApiKey, program]
    simp only [run_read]
    cases requireRoleOf s.tables orgId userIdentity [.owner, .admin] with
    | error e => rfl
    | ok role =>
      simp only [bind, Except.bind, run, SecretStatement.apply]
      cases insertApiKey sha256 s.tables (issueKey orgId request userIdentity draft) with
      | error e => rfl
      | ok tables =>
        simp only [Except.map, run_read]
        split <;> rfl
  | revokeApiKey orgId keyId userIdentity now =>
    rw [perform, OrganizationService.revokeApiKey, program]
    simp only [run_read]
    cases requireRoleOf s.tables orgId userIdentity [.owner, .admin] with
    | error e => rfl
    | ok role =>
      simp only [bind, Except.bind]
      cases hkey : keyToRevoke s.tables orgId keyId with
      | error e => rfl
      | ok key =>
        obtain ⟨view, hview⟩ := readApiKey_setRevoked hkey now
        simp only [run, SecretStatement.apply, run_read, hview]
        rfl
  | verifyApiKey rawKey now =>
    rw [perform, OrganizationService.verifyApiKey, program, run]
    cases checkApiKey sha256 s.tables rawKey now with
    | none => rfl
    | some key => rfl
  | registerAgent request orgId userIdentity agentId now =>
    rw [perform, AgentAuthService.registerAgent, program]
    simp only [run_read]
    cases requireRoleOf s.tables orgId userIdentity [.owner, .admin] with
    | error e => rfl
    | ok role =>
      simp only [bind, Except.bind, run, SecretStatement.apply]
      cases AgentAuthService.insertAgent s.tables (newAgent orgId request agentId now) with
      | error e => rfl
      | ok tables => rfl
  | createCredential orgId agentId request userIdentity credentialId now =>
    rw [perform, AgentAuthService.createCredential, program]
    simp only [run_read]
    cases requireRoleOf s.tables orgId userIdentity [.owner, .admin] with
    | error e => rfl
    | ok role =>
      simp only [bind, Except.bind]
      cases activeAgent s.tables orgId agentId with
      | error e => rfl
      | ok agent =>
        cases checkFingerprint s.tables request.fingerprint with
        | error e => rfl
        | ok u =>
          simp only [run, SecretStatement.apply]
          cases AgentAuthService.insertCredential s.tables
              (newCredential agentId request credentialId now) with
          | error e => rfl
          | ok tables => rfl
  | revokeCredential orgId agentId credentialId userIdentity now =>
    rw [perform, AgentAuthService.revokeCredential, program]
    simp only [run_read]
    cases requireRoleOf s.tables orgId userIdentity [.owner, .admin] with
    | error e => rfl
    | ok role =>
      simp only [bind, Except.bind]
      cases findAgent s.tables orgId agentId with
      | error e => rfl
      | ok agent =>
        cases credentialToRevoke s.tables agentId credentialId with
        | error e => rfl
        | ok credential =>
          simp only [run, SecretStatement.apply]
          cases AgentAuthService.setCredentialRevoked s.tables credentialId now with
          | error e => rfl
          | ok tables => rfl

end SecretCall

end OpenLangGraph

import OpenLangGraph.Services.SecretRequests

/-!
# Which keys are in force

What the log of a run says about the keys and credentials in the tables.

## The tables mirror the log

A key is in the table from its issue until its organization is deleted, and is open until it is
revoked. This holds in every state of every interleaving, although `revoke_api_key` checks and
writes in two statements, and writes by the id of the key alone: a key that two requests revoke at
the same time is revoked twice, and one that is deleted in between is not found.

## Main definitions

* `SecretStore.Recorded` — the tables mirror the logs
* `SecretStatement.Authorized` — the checks that were passed for a write

## Main results

* `recorded_apply`, `recorded_exec` — a write keeps the record, and so does every run
* `verifyApiKey_iff_issued` — a key is verified if and only if it is in force
* `write_authorized` — every write was allowed by managers of the organization
* `fingerprint_reissued` — a revoked credential keeps its fingerprint
-/

namespace OpenLangGraph

open Transition OrganizationService AgentAuthService

/-! ### The record -/

/-- What the log knows of a key. -/
def IssuedKey.view (sha256 : String → String) (key : IssuedKey) :
    String × String × String × List String × Option ℕ :=
  (key.keyId, key.orgId, sha256 key.rawKey, key.scopes, key.expiresAt)

/-- The same of a row. -/
def APIKeyRow.view (row : APIKeyRow) : String × String × String × List String × Option ℕ :=
  (row.keyId, row.orgId, row.keyHash, row.scopes, row.expiresAt)

/-- What the log knows of a credential. -/
def AgentCredentialRow.view (row : AgentCredentialRow) : String × String × String :=
  (row.id, row.agentId, row.fingerprint)

/-- The tables mirror the logs. -/
structure SecretStore.Recorded (sha256 : String → String) (s : SecretStore) : Prop where
  belongs : s.tables.Belongs
  keys : Grants.Mirrors IssuedKey.keyId IssuedKey.orgId
    (fun row : APIKeyRow => row.revokedAt.isNone)
    APIKeyRow.view (IssuedKey.view sha256) s.tables.apiKeys.rows s.keyLog
  credentials : Grants.Mirrors (·.row.id) IssuedCredential.orgId
    (fun row : AgentCredentialRow => row.revokedAt.isNone) AgentCredentialRow.view
    (·.row.view) s.tables.credentials.rows s.credentialLog
  agents : ∀ credential ∈ Grants.held IssuedCredential.orgId s.credentialLog,
    s.tables.agentOf credential.orgId credential.row.agentId = true
  keysIssued : Grants.WellIssued IssuedKey.orgId (sha256 ·.rawKey) s.keyLog
  credentialsIssued : Grants.WellIssued IssuedCredential.orgId (·.row.fingerprint) s.credentialLog

namespace SecretStatement

variable {sha256 : String → String} {s s' : SecretStore}

theorem recorded_initial (org : OrgTables) : (SecretStore.initial org).Recorded sha256 where
  belongs :=
    { apiKey := fun _ h => by cases h
      agent := fun _ h => by cases h
      credential := fun _ h => by cases h }
  keys := Grants.mirrors_nil
  credentials := Grants.mirrors_nil
  agents := fun _ h => by cases h
  keysIssued := Grants.wellIssued_nil
  credentialsIssued := Grants.wellIssued_nil

/-- A membership operation deletes no organization. -/
theorem organizations_apply {statement : Statement} {o o' : OrgStore}
    (h : statement.apply o = .ok o') {orgId : String}
    (horg : ∃ row ∈ o.tables.organizations.rows, row.orgId = orgId) :
    ∃ row ∈ o'.tables.organizations.rows, row.orgId = orgId := by
  obtain ⟨row, hrow, hid⟩ := horg
  cases statement with
  | insertOrganization organization =>
    rw [Statement.apply] at h
    split at h
    · cases h
    · split at h
      · cases h
      · rename_i organizations hinsert
        cases h
        refine ⟨row, ?_, hid⟩
        rw [(Table.insert_eq_some hinsert).2]
        exact List.mem_append_left _ hrow
  | insertCreator memberId orgId userIdentity =>
    rw [Statement.apply, Statement.addMember] at h
    split at h
    · cases h
    · cases h
      exact ⟨row, hrow, hid⟩
  | insertMember member =>
    rw [Statement.apply, Statement.addMember] at h
    split at h
    · cases h
    · cases h
      exact ⟨row, hrow, hid⟩
  | setRole orgId userId role =>
    cases h
    exact ⟨row, hrow, hid⟩
  | setRoleOf member role =>
    cases h
    exact ⟨row, hrow, hid⟩
  | deleteMember member =>
    cases h
    exact ⟨row, hrow, hid⟩

variable {key : IssuedKey} {keyId orgId credentialId : String} {now : ℕ}
  {agent : AgentIdentityRow} {agentId : String} {request : AgentCredentialCreate}

theorem recorded_membership {statement : Statement} (hs : s.Recorded sha256)
    (h : apply sha256 (.membership statement) s = .ok s') : s'.Recorded sha256 := by
  rw [apply] at h
  split at h
  · obtain ⟨o, ho, rfl⟩ := ServiceCall.map_eq_ok h
    have hstatement : statement.apply s.orgStore = .ok o := mapError_eq_ok.mp ho
    have hgrows : ∀ orgId, s.tables.hasOrganization orgId = true →
        (s.withOrg o).tables.hasOrganization orgId = true := fun orgId horg =>
      SecretTables.hasOrganization_iff.mpr
        (organizations_apply hstatement (SecretTables.hasOrganization_iff.mp horg))
    exact
      { hs with
        belongs := hs.belongs.of_subset hgrows (fun _ hrow => hrow)
          (fun row hrow => .inr ⟨row, hrow, rfl⟩) (fun _ hrow => .inr hrow)
          fun row hrow => .inr ⟨row, hrow, rfl⟩ }
  · cases h

/-- A new key has a digest that no key in the table has. -/
theorem recorded_insertApiKey (hs : s.Recorded sha256)
    (h : apply sha256 (.insertApiKey key) s = .ok s') : s'.Recorded sha256 := by
  obtain ⟨tables, htables, rfl⟩ := ServiceCall.map_eq_ok h
  obtain ⟨horg, apiKeys, hinsert, rfl⟩ := insertApiKey_eq_ok htables
  obtain ⟨-, hnew, hrows⟩ := TwoKeyTable.insert_eq_some hinsert
  refine { hs with belongs := ?_, keys := ?_, keysIssued := hs.keysIssued.append ?_ }
  · refine hs.belongs.of_subset (fun _ hold => hold) (fun _ hrow => hrow) (fun row hrow => ?_)
      (fun _ hrow => .inr hrow) fun row hrow => .inr ⟨row, hrow, rfl⟩
    rw [hrows] at hrow
    rcases List.mem_append.mp hrow with hold | hlast
    · exact .inr ⟨row, hold, rfl⟩
    · rw [List.mem_singleton.mp hlast]
      exact .inl horg
  · show Grants.Mirrors _ _ _ _ _ apiKeys.rows _
    rw [hrows]
    exact hs.keys.issue rfl rfl
  · rintro _ hsame other hother heq
    cases hsame
    have hview : other.view sha256 ∈ s.tables.apiKeys.rows.map APIKeyRow.view := by
      rw [hs.keys.held]
      exact List.mem_map_of_mem hother
    obtain ⟨row, hrow, hrowview⟩ := List.mem_map.mp hview
    have hhash : row.keyHash = sha256 other.rawKey := congrArg (·.2.2.1) hrowview
    exact hnew (List.mem_map.mpr ⟨row, hrow, hhash.trans heq⟩)

theorem recorded_setRevoked (hs : s.Recorded sha256) :
    SecretStore.Recorded sha256
      { s with
        tables := OrganizationService.setRevoked s.tables keyId now
        keyLog := s.keyLog ++ [.revoked keyId] } where
  belongs := SecretTables.belongs_updateApiKey hs.belongs
    (f := ({ · with revokedAt := some now })) (fun _ => rfl) (fun _ => rfl) fun _ => rfl
  keys := hs.keys.revoke (q := fun v => decide (v.1 = keyId)) (fun _ => rfl) (fun _ => rfl)
    (fun _ => rfl) fun _ _ => rfl
  credentials := hs.credentials
  agents := hs.agents
  keysIssued := hs.keysIssued.append fun _ hsame => by cases hsame
  credentialsIssued := hs.credentialsIssued

theorem recorded_setLastUsed (hs : s.Recorded sha256) :
    SecretStore.Recorded sha256
      { s with tables := OrganizationService.setLastUsed s.tables keyId now } where
  belongs := SecretTables.belongs_updateApiKey hs.belongs
    (f := ({ · with lastUsedAt := some now })) (fun _ => rfl) (fun _ => rfl) fun _ => rfl
  keys := by
    refine hs.keys.touch (fun row => ?_) fun row => ?_
    · split <;> rfl
    · split <;> rfl
  credentials := hs.credentials
  agents := hs.agents
  keysIssued := hs.keysIssued
  credentialsIssued := hs.credentialsIssued

theorem recorded_insertAgent (hs : s.Recorded sha256)
    (h : apply sha256 (.insertAgent agent) s = .ok s') : s'.Recorded sha256 := by
  obtain ⟨tables, htables, rfl⟩ := ServiceCall.map_eq_ok h
  obtain ⟨horg, agents, hinsert, rfl⟩ := insertAgent_eq_ok htables
  obtain ⟨-, hrows⟩ := Table.insert_eq_some hinsert
  have hkept : ∀ row ∈ s.tables.agents.rows, row ∈ agents.rows := fun row hrow => by
    rw [hrows]
    exact List.mem_append_left _ hrow
  refine { hs with belongs := ?_, agents := fun credential hheld => ?_ }
  · refine hs.belongs.of_subset (fun _ hold => hold) hkept
      (fun row hrow => .inr ⟨row, hrow, rfl⟩) (fun row hrow => ?_)
      fun row hrow => .inr ⟨row, hrow, rfl⟩
    have hrow : row ∈ agents.rows := hrow
    rw [hrows] at hrow
    rcases List.mem_append.mp hrow with hold | hlast
    · exact .inr hold
    · rw [List.mem_singleton.mp hlast]
      exact .inl horg
  · obtain ⟨row, hrow, hid, horg⟩ := SecretTables.agentOf_iff.mp (hs.agents credential hheld)
    exact SecretTables.agentOf_iff.mpr ⟨row, hkept row hrow, hid, horg⟩

/-- A new credential has a fingerprint that no credential in the table has. -/
theorem recorded_insertCredential (hs : s.Recorded sha256)
    (h : apply sha256 (.insertCredential agentId request credentialId now) s = .ok s') :
    s'.Recorded sha256 := by
  obtain ⟨tables, htables, rfl⟩ := ServiceCall.map_eq_ok h
  obtain ⟨⟨owner, howner⟩, credentials, hinsert, rfl⟩ := insertCredential_eq_ok htables
  obtain ⟨-, hnew, hrows⟩ := TwoKeyTable.insert_eq_some hinsert
  obtain ⟨hmem, hid⟩ := Table.find?_eq_some_iff.mp howner
  refine
    { hs with
      belongs := ?_
      credentials := ?_
      agents := fun other hheld => ?_
      credentialsIssued := hs.credentialsIssued.append ?_ }
  · refine hs.belongs.of_subset (fun _ hold => hold) (fun _ hrow => hrow)
      (fun row hrow => .inr ⟨row, hrow, rfl⟩) (fun _ hrow => .inr hrow) fun row hrow => ?_
    have hrow : row ∈ credentials.rows := hrow
    rw [hrows] at hrow
    rcases List.mem_append.mp hrow with hold | hlast
    · exact .inr ⟨row, hold, rfl⟩
    · rw [List.mem_singleton.mp hlast]
      exact .inl ⟨owner, hmem, hid⟩
  · show Grants.Mirrors _ _ _ _ _ credentials.rows _
    rw [hrows]
    exact hs.credentials.issue rfl rfl
  · rw [Grants.held_append] at hheld
    rcases List.mem_append.mp hheld with hold | hlast
    · exact hs.agents other hold
    · rw [List.mem_singleton.mp hlast]
      refine SecretTables.agentOf_iff.mpr ⟨owner, hmem, hid, ?_⟩
      have hfind : s.tables.agents.find? agentId = some owner := howner
      rw [orgOfAgent, hfind]
      rfl
  · rintro _ hsame other hother heq
    cases hsame
    have hview : other.row.view ∈ s.tables.credentials.rows.map AgentCredentialRow.view := by
      rw [hs.credentials.held]
      exact List.mem_map_of_mem hother
    obtain ⟨row, hrow, hrowview⟩ := List.mem_map.mp hview
    have hprint : row.fingerprint = other.row.fingerprint := congrArg (·.2.2) hrowview
    exact hnew (List.mem_map.mpr ⟨row, hrow, hprint.trans heq⟩)

theorem setCredentialRevoked_eq_ok {t t' : SecretTables}
    (h : AgentAuthService.setCredentialRevoked t credentialId now = .ok t') :
    t' =
      { t with
        credentials := t.credentials.updateIf (·.id = credentialId)
          ({ · with revokedAt := some now }) (fun _ => rfl) fun _ => rfl } := by
  rw [AgentAuthService.setCredentialRevoked] at h
  split at h
  · exact (Except.ok.inj h).symm
  · cases h

theorem recorded_setCredentialRevoked (hs : s.Recorded sha256)
    (h : apply sha256 (.setCredentialRevoked credentialId now) s = .ok s') :
    s'.Recorded sha256 := by
  obtain ⟨tables, htables, rfl⟩ := ServiceCall.map_eq_ok h
  obtain rfl := setCredentialRevoked_eq_ok htables
  refine
    { hs with
      belongs := ?_
      credentials := hs.credentials.revoke (q := fun v => decide (v.1 = credentialId))
        (fun _ => rfl) (fun _ => rfl) (fun _ => rfl) fun _ _ => rfl
      agents := fun credential hheld => ?_
      credentialsIssued := hs.credentialsIssued.append fun _ hsame => by cases hsame }
  · refine hs.belongs.of_subset (fun _ hold => hold) (fun _ hrow => hrow)
      (fun row hrow => .inr ⟨row, hrow, rfl⟩) (fun _ hrow => .inr hrow) fun row hrow => ?_
    obtain ⟨old, hold, rfl⟩ := List.mem_map.mp hrow
    refine .inr ⟨old, hold, ?_⟩
    split <;> rfl
  · rw [Grants.held_append] at hheld
    exact hs.agents credential (List.mem_of_mem_filter hheld)

/-- What an organization has goes with it, and nothing else. -/
theorem recorded_deleteOrganization (hs : s.Recorded sha256)
    (h : apply sha256 (.deleteOrganization orgId) s = .ok s') : s'.Recorded sha256 := by
  cases h
  have howner : ∀ credential ∈ Grants.held IssuedCredential.orgId s.credentialLog,
      s.tables.agentOf orgId credential.row.agentId = decide (credential.orgId = orgId) := by
    intro credential hheld
    have hof := hs.agents credential hheld
    by_cases hsame : credential.orgId = orgId
    · rw [← hsame, hof, decide_eq_true rfl]
    · rw [decide_eq_false hsame, Bool.eq_false_iff]
      exact fun hother => hsame (SecretTables.agentOf_unique hof hother)
  exact
    { belongs := SecretTables.belongs_dropOrganization hs.belongs
      keys := hs.keys.drop (q := fun v => decide (v.2.1 = orgId)) (fun _ => rfl) fun _ _ => rfl
      credentials := hs.credentials.drop (q := fun v => s.tables.agentOf orgId v.2.1)
        (fun _ => rfl) howner
      agents := by
        intro credential hheld
        rw [Grants.held_append] at hheld
        obtain ⟨hold, hother⟩ := List.mem_filter.mp hheld
        obtain ⟨row, hrow, hid, horg⟩ := SecretTables.agentOf_iff.mp (hs.agents credential hold)
        refine SecretTables.agentOf_iff.mpr ⟨row, List.mem_filter.mpr ⟨hrow, ?_⟩, hid, horg⟩
        show (!decide (row.orgId = orgId)) = true
        rw [horg]
        exact hother
      keysIssued := hs.keysIssued.append fun _ hsame => by cases hsame
      credentialsIssued := hs.credentialsIssued.append fun _ hsame => by cases hsame }

/-- **Every write keeps the record.** -/
theorem recorded_apply {statement : SecretStatement} (hs : s.Recorded sha256)
    (h : statement.apply sha256 s = .ok s') : s'.Recorded sha256 := by
  cases statement with
  | membership statement => exact recorded_membership hs h
  | deleteOrganization orgId => exact recorded_deleteOrganization hs h
  | insertApiKey key => exact recorded_insertApiKey hs h
  | setRevoked keyId now =>
    cases h
    exact recorded_setRevoked hs
  | setLastUsed keyId now =>
    cases h
    exact recorded_setLastUsed hs
  | insertAgent row => exact recorded_insertAgent hs h
  | insertCredential agentId request credentialId now => exact recorded_insertCredential hs h
  | setCredentialRevoked credentialId now => exact recorded_setCredentialRevoked hs h

end SecretStatement

/-! ### Runs -/

namespace SecretStore

open Interleaving SecretStatement

variable {sha256 : String → String}

/-- Requests that run at the same time. -/
abbrev step (sha256 : String → String) :
    Interleaving SecretStore SecretStatement SecretError →
      InterleavingLabel TenantCall SecretError →
        Option (Interleaving SecretStore SecretStatement SecretError) :=
  Interleaving.step (TenantCall.program sha256) (SecretStatement.apply sha256)

variable {org : OrgTables} {t : Interleaving SecretStore SecretStatement SecretError}
  {labels : List (InterleavingLabel TenantCall SecretError)}

/-- **So does every run.** -/
theorem recorded_exec (h : exec (step sha256) ⟨initial org, []⟩ labels = some t) :
    t.state.Recorded sha256 := by
  have hguards : Along (step sha256) (fun s label => guarded (fun _ _ => true) s label = true)
      ⟨initial org, []⟩ labels :=
    (along_true _ _).mono fun _ label _ => by cases label <;> simp [guarded]
  exact state_invariant (fun _ _ _ hs _ happly => recorded_apply hs happly) (recorded_initial org)
    hguards h

/-- **A key is verified if and only if it is in force**: in every state of every interleaving, the
answer of `verify_api_key` is that of a key with this digest that was issued, has not expired, and
was not revoked and did not lose its organization since. -/
theorem verifyApiKey_iff_issued (h : exec (step sha256) ⟨initial org, []⟩ labels = some t)
    (rawKey orgId : String) (scopes : List String) (now : ℕ) :
    (verifyApiKey sha256 t.state.tables rawKey now).2 = some (orgId, scopes) ↔
      ∃ key before since, t.state.keyLog = before ++ .issued key :: since ∧
        sha256 key.rawKey = sha256 rawKey ∧ key.orgId = orgId ∧ key.scopes = scopes ∧
        (∀ expiry ∈ key.expiresAt, now ≤ expiry) ∧
        .revoked key.keyId ∉ since ∧ .dropped key.orgId ∉ since := by
  have hlive := (recorded_exec h).keys.live
  have hanswer : (verifyApiKey sha256 t.state.tables rawKey now).2 =
      (checkApiKey sha256 t.state.tables rawKey now).map fun row => (row.orgId, row.scopes) := by
    rw [verifyApiKey]
    cases checkApiKey sha256 t.state.tables rawKey now <;> rfl
  rw [hanswer, Option.map_eq_some_iff]
  constructor
  · rintro ⟨row, hrow, hpair⟩
    obtain ⟨hmem, hhash, hrevoked, hexpiry⟩ := checkApiKey_eq_some_iff.mp hrow
    have hopen : row.view ∈ (t.state.tables.apiKeys.rows.filter (·.revokedAt.isNone)).map
        APIKeyRow.view :=
      List.mem_map_of_mem (List.mem_filter.mpr ⟨hmem, by simp [hrevoked]⟩)
    rw [hlive] at hopen
    obtain ⟨key, hkey, hview⟩ := List.mem_map.mp hopen
    obtain ⟨before, since, hlog, hrest⟩ := Grants.mem_live_iff.mp hkey
    obtain ⟨-, horg, hdigest, hscopes, hexpires⟩ : key.keyId = row.keyId ∧ key.orgId = row.orgId ∧
        sha256 key.rawKey = row.keyHash ∧ key.scopes = row.scopes ∧
        key.expiresAt = row.expiresAt := by
      simpa [IssuedKey.view, APIKeyRow.view] using hview
    obtain ⟨horgId, hscopesId⟩ := Prod.mk.inj hpair
    refine ⟨key, before, since, hlog, hdigest.trans hhash, horg.trans horgId,
      hscopes.trans hscopesId, ?_, hrest⟩
    rw [hexpires]
    exact hexpiry
  · rintro ⟨key, before, since, hlog, hdigest, rfl, rfl, hexpiry, hrest⟩
    have hkey : key.view sha256 ∈ (Grants.live IssuedKey.keyId IssuedKey.orgId
        t.state.keyLog).map (IssuedKey.view sha256) :=
      List.mem_map_of_mem (Grants.mem_live_iff.mpr ⟨before, since, hlog, hrest⟩)
    rw [← hlive] at hkey
    obtain ⟨row, hrow, hview⟩ := List.mem_map.mp hkey
    obtain ⟨hmem, hopen⟩ := List.mem_filter.mp hrow
    obtain ⟨-, horg, hhash, hscopes, hexpires⟩ : row.keyId = key.keyId ∧ row.orgId = key.orgId ∧
        row.keyHash = sha256 key.rawKey ∧ row.scopes = key.scopes ∧
        row.expiresAt = key.expiresAt := by
      simpa [IssuedKey.view, APIKeyRow.view] using hview
    refine ⟨row, checkApiKey_eq_some_iff.mpr ⟨hmem, hhash.trans hdigest, ?_, ?_⟩, ?_⟩
    · simpa using hopen
    · rw [hexpires]
      exact hexpiry
    · rw [horg, hscopes]

/-- Ada owns an organization. -/
def adaTables : OrgTables :=
  ⟨Table.single ⟨"acme", "acme"⟩, Table.single ⟨"m1", "acme", "ada", "owner", none⟩, Table.empty,
    Table.empty⟩

/-- The digest of one text. -/
def digestOf (text : String) : String :=
  if text = "olg_k" then "ca449abbd9d80d42615b403a415169aa1aa8659824cf9231a478207a1bd46921" else ""

/-- A request for a key of 30 days. -/
def ciKey : APIKeyCreate where
  name := "ci"
  scopes := ["runs:read"]
  expiresInDays := some 30
  name_length := by decide
  days := by decide

/-- Ada creates a key. -/
def keyCreated : List (InterleavingLabel TenantCall SecretError) :=
  [.start (.secret (.createApiKey "acme" ciKey "ada" ⟨"k", "key1", 0, 0⟩)), .step 0, .step 0,
    .step 0]

theorem verifyApiKey_ada :
    (verifyApiKey digestOf ((exec (step digestOf) ⟨initial adaTables, []⟩ keyCreated).get
      (by decide)).state.tables "olg_k" 5).2 = some ("acme", ["runs:read"]) := by
  refine (verifyApiKey_iff_issued (Option.some_get _).symm "olg_k" "acme" ["runs:read"] 5).mpr
    ⟨issueKey "acme" ciKey "ada" ⟨"k", "key1", 0, 0⟩, [], [], rfl, rfl, rfl, rfl, ?_,
      List.not_mem_nil, List.not_mem_nil⟩
  decide

/-- **A revoked credential keeps its fingerprint**: between two credentials with one fingerprint the
organization of the first was deleted. -/
theorem fingerprint_reissued (h : exec (step sha256) ⟨initial org, []⟩ labels = some t)
    {before between since : List (Grants.Event IssuedCredential String String)}
    {first second : IssuedCredential}
    (hlog : t.state.credentialLog =
      before ++ .issued first :: (between ++ .issued second :: since))
    (hsame : first.row.fingerprint = second.row.fingerprint) :
    .dropped first.orgId ∈ between :=
  Grants.dropped_between (recorded_exec h).credentialsIssued hlog hsame

/-- A request for a credential of an agent. -/
def botCredential : AgentCredentialCreate := ⟨.jwtIssuer, none, "print", none, by decide⟩

/-- Ada registers an agent and a credential of it, deletes the organization and creates it again,
with an agent and a credential as before. -/
def credentialIssuedAgain : List (InterleavingLabel TenantCall SecretError) :=
  [.start (.secret (.registerAgent ⟨"bot", none, by decide⟩ "acme" "ada" "a1" 0)), .step 0,
    .step 0,
    .start (.secret (.createCredential "acme" "a1" botCredential "ada" "c1" 0)), .step 1, .step 1,
    .step 1, .step 1,
    .start (.secret (.deleteOrganization "acme" "ada")), .step 2, .step 2, .step 2,
    .start (.membership (.createOrganization "acme" "ada" "acme" "m1")), .step 3, .step 3, .step 3,
    .start (.secret (.registerAgent ⟨"bot", none, by decide⟩ "acme" "ada" "a1" 0)), .step 4,
    .step 4,
    .start (.secret (.createCredential "acme" "a1" botCredential "ada" "c1" 0)), .step 5, .step 5,
    .step 5, .step 5]

theorem fingerprint_reissued_ada :
    Grants.Event.dropped "acme" ∈
      ([.dropped "acme"] : List (Grants.Event IssuedCredential String String)) := by
  have hrun : (exec (step digestOf) ⟨initial adaTables, []⟩
      credentialIssuedAgain).isSome = true := by
    decide
  let issued : IssuedCredential := ⟨newCredential "a1" botCredential "c1" 0, "acme"⟩
  have hlog : ((exec (step digestOf) ⟨initial adaTables, []⟩ credentialIssuedAgain).get
      hrun).state.credentialLog =
        [] ++ .issued issued :: ([.dropped "acme"] ++ .issued issued :: []) := rfl
  exact fingerprint_reissued (Option.some_get hrun).symm hlog rfl

end SecretStore

/-! ### Who writes -/

namespace SecretStatement

variable {sha256 : String → String} {S : SecretStore → Prop}

/-- The sender had one of the roles in a state of `S`. -/
def Held (S : SecretStore → Prop) (sender : Option String) (orgId : String)
    (roles : List OrganizationRole) : Prop :=
  ∃ user ∈ sender, ∃ s, S s ∧ HasRole s.tables orgId user roles

/-- What was checked for a write, in states of `S`. -/
def Authorized (sha256 : String → String) (S : SecretStore → Prop) (sender : Option String) :
    SecretStatement → Prop
  | .membership _ => True
  | .deleteOrganization orgId => Held S sender orgId [.owner]
  | .insertApiKey key => Held S sender key.orgId [.owner, .admin] ∧ sender = some key.createdBy
  | .setRevoked keyId _ =>
    ∃ orgId, Held S sender orgId [.owner, .admin] ∧
      ∃ s, S s ∧ ∃ row ∈ s.tables.apiKeys.rows,
        row.orgId = orgId ∧ row.keyId = keyId ∧ row.revokedAt = none
  | .setLastUsed keyId now =>
    ∃ s, S s ∧ ∃ rawKey row, checkApiKey sha256 s.tables rawKey now = some row ∧ row.keyId = keyId
  | .insertAgent agent => Held S sender agent.orgId [.owner, .admin]
  | .insertCredential agentId request _ _ =>
    ∃ orgId, Held S sender orgId [.owner, .admin] ∧
      (∃ s, S s ∧ s.tables.agentOf orgId agentId = true) ∧
      ∃ s, S s ∧ ∀ row ∈ s.tables.credentials.rows, row.fingerprint ≠ request.fingerprint
  | .setCredentialRevoked credentialId _ =>
    ∃ orgId agentId, Held S sender orgId [.owner, .admin] ∧
      (∃ s, S s ∧ s.tables.agentOf orgId agentId = true) ∧
      ∃ s, S s ∧ ∃ row ∈ s.tables.credentials.rows,
        row.id = credentialId ∧ row.agentId = agentId ∧ row.revokedAt = none

theorem held_of_requireRoleOf {user orgId : String} {roles : List OrganizationRole}
    {s : SecretStore} {role : OrganizationRole} (hs : S s)
    (h : requireRoleOf s.tables orgId user roles = .ok role) :
    Held S (some user) orgId roles :=
  ⟨user, rfl, s, hs, requireRoleOf_eq_ok h⟩

open Program

/-- What a request comes to write was checked. -/
theorem authorized_of_writes {call : SecretCall} {statement : SecretStatement}
    (h : Writes S (call.program sha256) statement) :
    Authorized sha256 S call.sender statement := by
  cases call with
  | deleteOrganization orgId user =>
    simp only [SecretCall.program, writes_read, writes_write, writes_ended, or_false] at h
    obtain ⟨s, role, hs, hrole, -, -, -, -, rfl⟩ := h
    exact held_of_requireRoleOf hs hrole
  | createApiKey orgId request user draft =>
    simp only [SecretCall.program, writes_read, writes_write, writes_ended, and_false, exists_false,
      or_false] at h
    obtain ⟨s, role, hs, hrole, rfl⟩ := h
    exact ⟨held_of_requireRoleOf hs hrole, rfl⟩
  | revokeApiKey orgId keyId user now =>
    simp only [SecretCall.program, writes_read, writes_write, writes_ended, and_false, exists_false,
      or_false] at h
    obtain ⟨s, role, hs, hrole, s', row, hs', hrow, rfl⟩ := h
    obtain ⟨hmem, horg, hid, hopen⟩ := keyToRevoke_eq_ok hrow
    exact ⟨orgId, held_of_requireRoleOf hs hrole, s', hs', row, hmem, horg, hid, hopen⟩
  | verifyApiKey rawKey now =>
    obtain ⟨s, hs, hwrites⟩ := writes_select.mp h
    cases hkey : checkApiKey sha256 s.tables rawKey now with
    | none =>
      rw [hkey] at hwrites
      exact absurd hwrites (writes_ended _)
    | some row =>
      rw [hkey] at hwrites
      rcases writes_write.mp hwrites with rfl | hended
      · exact ⟨s, hs, rawKey, row, hkey, rfl⟩
      · exact absurd hended (writes_ended _)
  | registerAgent request orgId user agentId now =>
    simp only [SecretCall.program, writes_read, writes_write, writes_ended, or_false] at h
    obtain ⟨s, role, hs, hrole, rfl⟩ := h
    exact held_of_requireRoleOf hs hrole
  | createCredential orgId agentId request user credentialId now =>
    simp only [SecretCall.program, writes_read, writes_write, writes_ended, or_false] at h
    obtain ⟨s, role, hs, hrole, s₁, agent, hs₁, hagent, s₂, u, hs₂, hfree, rfl⟩ := h
    refine ⟨orgId, held_of_requireRoleOf hs hrole, ⟨s₁, hs₁, (activeAgent_eq_ok hagent).1⟩, s₂, hs₂,
      fun row hrow hsame => ?_⟩
    have hfind := TwoKeyTable.findBy?_eq_some_iff.mpr ⟨hrow, hsame⟩
    rw [checkFingerprint, hfind] at hfree
    cases hfree
  | revokeCredential orgId agentId credentialId user now =>
    simp only [SecretCall.program, writes_read, writes_write, writes_ended, or_false] at h
    obtain ⟨s, role, hs, hrole, s₁, agent, hs₁, hagent, s₂, row, hs₂, hrow, rfl⟩ := h
    obtain ⟨hmem, hid, hof, hopen⟩ := credentialToRevoke_eq_ok hrow
    exact ⟨orgId, agentId, held_of_requireRoleOf hs hrole, ⟨s₁, hs₁, findAgent_eq_ok hagent⟩, s₂,
      hs₂, row, hmem, hid, hof, hopen⟩

end SecretStatement

namespace SecretStore

open Interleaving SecretStatement

variable {sha256 : String → String} {org : OrgTables}
  {t : Interleaving SecretStore SecretStatement SecretError}
  {labels : List (InterleavingLabel TenantCall SecretError)}

/-- **Every write was allowed** to the sender of its request, in states that the run had reached:
keys and credentials are issued and revoked by owners and admins of the organization that they
belong to, and the use of a key is noted only of keys that were in force. -/
theorem write_authorized (h : exec (step sha256) ⟨initial org, []⟩ labels = some t) {i : ℕ}
    {p : Program SecretStore SecretStatement SecretError} {statement : SecretStatement}
    (hp : t.programs[i]? = some p) (hpending : p.pending = some statement) :
    ∃ call, (started labels)[i]? = some call ∧
      Authorized sha256 (Seen (TenantCall.program sha256) (SecretStatement.apply sha256)
        ⟨initial org, []⟩ labels) call.sender statement := by
  obtain ⟨call, hcall, hwrites⟩ := writes_of_pending rfl h hp hpending
  refine ⟨call, hcall, ?_⟩
  cases call with
  | membership call =>
    obtain ⟨own, rfl⟩ := Program.exists_of_writes_lift (Program.writes_of_mapError hwrites)
    trivial
  | secret call => exact authorized_of_writes hwrites

/-- Ada is about to write a key. -/
theorem write_authorized_ada :
    ∃ call, (started (keyCreated.take 2))[0]? = some call ∧
      Authorized digestOf (Seen (TenantCall.program digestOf) (SecretStatement.apply digestOf)
        ⟨initial adaTables, []⟩ (keyCreated.take 2)) call.sender
        (.insertApiKey (issueKey "acme" ciKey "ada" ⟨"k", "key1", 0, 0⟩)) :=
  write_authorized
    (Option.some_get
      (show (exec (step digestOf) ⟨initial adaTables, []⟩ (keyCreated.take 2)).isSome = true by
        decide)).symm
    (i := 0) rfl rfl

end SecretStore

end OpenLangGraph

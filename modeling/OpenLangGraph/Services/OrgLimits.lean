import OpenLangGraph.Foundation.PlainColumn
import OpenLangGraph.Foundation.Transition
import OpenLangGraph.Foundation.TtlCache
import OpenLangGraph.Models.RateLimit

/-!
# The limits of an organization, read and written

`get_org_limits` and `update_org_limits` of `services/quota_service.py`, as clients call them at the
same time. The limits are one member of `Organization.settings`, a plain JSON column, and are read
through a cache.

## What goes wrong

* An update edits the loaded settings in place and assigns them again. Unless they were empty,
  nothing is written, and the new limits are returned all the same.
* Two updates that have read empty settings write one over the other.
* A reader that has read the old settings puts them in the cache after an update has deleted them.

## What is left out

Failures of the database and of the cache, and other writers of the settings. The `refresh` after
the commit has no effect on what is returned.

## Main definitions

* `Call`, `Stage`, `State`, `Label`, `step`
* `Faithful` — what is asked of a step
* `keeps` — the condition on a step

## Main results

* `faithful_step` — one step
* `limits_kept` — runs
-/

namespace OpenLangGraph

namespace OrgLimits

open Transition

/-! ### Clients -/

/-- A call, and whether it is given a session. The database manager cannot open one. -/
inductive Call
  | getOrgLimits (orgId : String) (session : Bool)
  | updateOrgLimits (orgId : String) (limits : OrgRateLimitsUpdate) (session : Bool)

inductive QuotaError
  /-- there is no such organization -/
  | valueError
  /-- the stored limits are no mapping -/
  | typeError
  /-- the database manager has no method `session` -/
  | attributeError
  | validationError

/-- How far a client has come. -/
inductive Stage
  | idle
  | starting (call : Call)
  /-- nothing usable was in the cache -/
  | fetching (orgId : String)
  /-- the row has been read, if there is one -/
  | storing (orgId : String) (row : Option JsonObject)
  /-- the row has been read, with these limits in it -/
  | committing (orgId : String) (limits : OrgRateLimitsUpdate) (loaded current : JsonObject)
  | invalidating (orgId : String) (newLimits : JsonObject)
  | returned (orgId : String) (limits : OrgRateLimits)
  | raised (e : QuotaError)

/-- The client may make a call. -/
def Stage.isFree : Stage → Bool
  | .idle | .returned .. | .raised _ => true
  | .starting _ | .fetching _ | .storing .. | .committing .. | .invalidating .. => false

/-- The settings of the organizations, the cache and the clients. -/
structure State where
  orgs : List (String × JsonObject)
  cache : TtlCache String Json
  clients : ℕ → Stage
  now : ℕ

def State.goTo (s : State) (client : ℕ) (stage : Stage) : State :=
  { s with clients := Function.update s.clients client stage }

inductive Label
  | call (client : ℕ) (call : Call)
  | advance (client : ℕ)
  | tick (elapsed : ℕ)

/-! ### The service -/

/-- `TTL_ORG_QUOTA` -/
def ttlOrgQuota : ℕ := 300

def limitsCacheKey (orgId : String) : String := "rate_limits:org:" ++ orgId

/-- `settings.get("rate_limits", DEFAULT_ORG_RATE_LIMITS.model_dump())`, if it is a mapping. -/
def currentLimits (settings : JsonObject) : Option JsonObject :=
  match settings.lookup "rate_limits" with
  | none => some (OrgRateLimits.dump {})
  | some (.obj members) => some members
  | some _ => none

/-- `{**current_limits, **update_data}` -/
def mergedLimits (limits : OrgRateLimitsUpdate) (current : JsonObject) : JsonObject :=
  PyDict.update current limits.updateData

section

variable (conversions : Conversions)

/-- `_fetch_org_limits_from_db`. Whatever is wrong with the settings, the default is returned. -/
def fetchOrgLimits (row : Option JsonObject) : OrgRateLimits :=
  match row.bind (·.lookup "rate_limits") with
  | none | some .null => {}
  | some data => (OrgRateLimits.validate conversions data).getD {}

/-- The limits in the cache, if they can be used. -/
def cachedLimits (s : State) (orgId : String) : Option OrgRateLimits :=
  (s.cache.get s.now (limitsCacheKey orgId)).bind (OrgRateLimits.validate conversions)

/-- The first statement of a call: the cache, or the row. -/
def begin (s : State) : Call → Stage
  | .getOrgLimits orgId session =>
    match cachedLimits conversions s orgId with
    | some limits => .returned orgId limits
    | none => if session then .fetching orgId else .raised .attributeError
  | .updateOrgLimits orgId limits session =>
    if session then
      match s.orgs.lookup orgId with
      | none => .raised .valueError
      | some settings =>
        match currentLimits settings with
        | none => .raised .typeError
        | some current => .committing orgId limits settings current
    else .raised .attributeError

/-- The settings after the commit. -/
def committed (orgs : List (String × JsonObject)) (orgId : String) (loaded newLimits : JsonObject) :
    List (String × JsonObject) :=
  match PlainColumn.writeBack loaded (PyDict.set · "rate_limits" (.obj newLimits)) with
  | none => orgs
  | some settings => PyDict.set orgs orgId settings

/-- The next statement of a call. -/
def advance (s : State) (client : ℕ) : Option State :=
  match s.clients client with
  | .idle | .returned .. | .raised _ => none
  | .starting call => some (s.goTo client (begin conversions s call))
  | .fetching orgId => some (s.goTo client (.storing orgId (s.orgs.lookup orgId)))
  | .storing orgId row =>
    let limits := fetchOrgLimits conversions row
    some { s.goTo client (.returned orgId limits) with
      cache := s.cache.set (limitsCacheKey orgId) (.obj limits.dump) (s.now + ttlOrgQuota) }
  | .committing orgId limits loaded current =>
    let newLimits := mergedLimits limits current
    some { s.goTo client (.invalidating orgId newLimits) with
      orgs := committed s.orgs orgId loaded newLimits }
  | .invalidating orgId newLimits =>
    let stage := match OrgRateLimits.validate conversions (.obj newLimits) with
      | some limits => .returned orgId limits
      | none => .raised .validationError
    some { s.goTo client stage with cache := s.cache.delete (limitsCacheKey orgId) }

def step (s : State) : Label → Option State
  | .call client call =>
    if (s.clients client).isFree then some (s.goTo client (.starting call)) else none
  | .advance client => advance conversions s client
  | .tick elapsed => some { s with now := s.now + elapsed }

end

/-! ### What is asked -/

/-- The settings afterwards are the settings before with the update merged into the limits: each
field that is set has its value, and everything else is as it was. -/
structure IsUpdate (limits : OrgRateLimitsUpdate) (before after : JsonObject) : Prop where
  others : ∀ key, key ≠ "rate_limits" → after.lookup key = before.lookup key
  merged : ∃ old new, currentLimits before = some old ∧
    after.lookup "rate_limits" = some (.obj new) ∧
    (∀ e ∈ limits.updateData, new.lookup e.1 = some e.2) ∧
    ∀ key, limits.updateData.lookup key = none → new.lookup key = old.lookup key

/-- What a commit must do to the settings: it merges its update into what is stored when it
commits, so that no other update is lost. -/
def MergesInto (s s' : State) (orgId : String) (limits : OrgRateLimitsUpdate) : Prop :=
  (∃ before after, s.orgs.lookup orgId = some before ∧ s'.orgs.lookup orgId = some after ∧
    IsUpdate limits before after) ∧
  ∀ other, other ≠ orgId → s'.orgs.lookup other = s.orgs.lookup other

/-- **What is asked of a step**: a commit merges its update into the settings, and nothing else
changes them; a client that is returned limits is returned those that are stored. -/
structure Faithful (conversions : Conversions) (s : State) (label : Label) : Prop where
  merges : ∀ s' client orgId limits loaded current, step conversions s label = some s' →
    label = .advance client → s.clients client = .committing orgId limits loaded current →
    MergesInto s s' orgId limits
  keeps : ∀ s', step conversions s label = some s' →
    (∀ client orgId limits loaded current, label = .advance client →
      s.clients client ≠ .committing orgId limits loaded current) → s'.orgs = s.orgs
  returns : ∀ s' client orgId limits, step conversions s label = some s' →
    label = .advance client → s'.clients client = .returned orgId limits →
    limits = fetchOrgLimits conversions (s'.orgs.lookup orgId)

/-! ### The condition -/

/-- The stored limits have every value that the update sets. -/
def AlreadyHas (limits : OrgRateLimitsUpdate) (settings : JsonObject) : Prop :=
  ∃ members, settings.lookup "rate_limits" = some (.obj members) ∧
    ∀ e ∈ limits.updateData, members.lookup e.1 = some e.2

/-- **The condition on a step.** A commit is of settings that were read empty and are still, or it
sets nothing that is not stored; what a reader puts in the cache is still stored; and limits are
taken from the cache only while no update of them is between its commit and its deletion. -/
def keeps (s : State) : Label → Prop
  | .advance client =>
    match s.clients client with
    | .starting (.getOrgLimits orgId _) =>
      (s.cache.get s.now (limitsCacheKey orgId)).isSome →
        ∀ other newLimits, s.clients other ≠ .invalidating orgId newLimits
    | .storing orgId row => s.orgs.lookup orgId = row
    | .committing orgId limits loaded _ =>
      if loaded = [] then s.orgs.lookup orgId = some []
      else ∃ settings, s.orgs.lookup orgId = some settings ∧ AlreadyHas limits settings
    | .idle | .starting (.updateOrgLimits ..) | .fetching _ | .invalidating .. | .returned ..
    | .raised _ => True
  | .call .. | .tick _ => True

/-! ### Merging -/

variable {conversions : Conversions} {s s' : State} {orgId : String} {limits : OrgRateLimitsUpdate}

theorem limitsCacheKey_injective {other : String}
    (h : limitsCacheKey orgId = limitsCacheKey other) : orgId = other := by
  have htoList : ("rate_limits:org:" ++ orgId).toList = ("rate_limits:org:" ++ other).toList :=
    congrArg String.toList h
  rw [String.toList_append, String.toList_append] at htoList
  exact String.toList_inj.mp (List.append_cancel_left htoList)

/-- Each field that is set has its value. -/
theorem lookup_mergedLimits (limits : OrgRateLimitsUpdate) (current : JsonObject) :
    ∀ e ∈ limits.updateData, (mergedLimits limits current).lookup e.1 = some e.2 := by
  intro e he
  have hlookup := (PyDict.lookup_eq_some_iff_mem limits.nodup_updateData).mpr he
  rw [mergedLimits, PyDict.lookup_update, PyDict.lookup_update_nil limits.nodup_updateData, hlookup]
  rfl

/-- The other members stay. -/
theorem lookup_mergedLimits_of_absent (current : JsonObject) {key : String}
    (h : limits.updateData.lookup key = none) :
    (mergedLimits limits current).lookup key = current.lookup key :=
  PyDict.lookup_update_of_absent current h

/-- Settings whose limits are the merged ones. -/
theorem isUpdate_of_merged {before after current : JsonObject}
    (hcurrent : currentLimits before = some current)
    (hothers : ∀ key, key ≠ "rate_limits" → after.lookup key = before.lookup key)
    (hafter : after.lookup "rate_limits" = some (.obj (mergedLimits limits current))) :
    IsUpdate limits before after :=
  ⟨hothers, current, _, hcurrent, hafter, lookup_mergedLimits limits current,
    fun _ h => lookup_mergedLimits_of_absent current h⟩

/-- What a commit does that meets the condition. -/
structure Commits (orgs orgs' : List (String × JsonObject)) (orgId : String)
    (limits : OrgRateLimitsUpdate) (newLimits : JsonObject) : Prop where
  merges : ∃ before after, orgs.lookup orgId = some before ∧ orgs'.lookup orgId = some after ∧
    IsUpdate limits before after ∧ after.lookup "rate_limits" = some (.obj newLimits)
  other : ∀ other, other ≠ orgId → orgs'.lookup other = orgs.lookup other
  nonempty : ∀ other settings, settings ≠ [] → orgs.lookup other = some settings →
    orgs'.lookup other = some settings

/-- A commit of settings that were read empty and are still, or that sets nothing new. -/
theorem commits_of_keeps {orgs : List (String × JsonObject)} {loaded current : JsonObject}
    (hcurrent : currentLimits loaded = some current)
    (hloaded : loaded ≠ [] → orgs.lookup orgId = some loaded)
    (hkeeps : if loaded = [] then orgs.lookup orgId = some []
      else ∃ settings, orgs.lookup orgId = some settings ∧ AlreadyHas limits settings) :
    Commits orgs (committed orgs orgId loaded (mergedLimits limits current)) orgId limits
      (mergedLimits limits current) := by
  by_cases hempty : loaded = []
  · subst hempty
    rw [if_pos rfl] at hkeeps
    have horgs : committed orgs orgId [] (mergedLimits limits current) =
        PyDict.set orgs orgId [("rate_limits", .obj (mergedLimits limits current))] := rfl
    rw [horgs]
    refine ⟨⟨[], [("rate_limits", .obj (mergedLimits limits current))], hkeeps, ?_,
      isUpdate_of_merged hcurrent ?_ rfl, rfl⟩, ?_, ?_⟩
    · rw [PyDict.lookup_set, if_pos rfl]
    · intro key hkey
      rw [PyDict.lookup_cons, if_neg hkey]
    · intro other hother
      rw [PyDict.lookup_set, if_neg hother]
    · intro other settings hsettings hlookup
      rw [PyDict.lookup_set, if_neg, hlookup]
      rintro rfl
      exact hsettings (Option.some.inj (hlookup.symm.trans hkeeps))
  · rw [if_neg hempty] at hkeeps
    obtain ⟨settings, hlookup, members, hmembers, hhas⟩ := hkeeps
    obtain rfl := Option.some.inj (hlookup.symm.trans (hloaded hempty))
    have hsame : mergedLimits limits current = members := by
      rw [currentLimits, hmembers] at hcurrent
      obtain rfl := Option.some.inj hcurrent
      exact PyDict.update_of_forall hhas
    have horgs : committed orgs orgId settings (mergedLimits limits current) = orgs := by
      rw [committed, PlainColumn.writeBack_of_ne_nil hempty]
    rw [horgs]
    have hafter : settings.lookup "rate_limits" = some (.obj (mergedLimits limits current)) := by
      rw [hsame, hmembers]
    exact ⟨⟨settings, settings, hlookup, hlookup,
      isUpdate_of_merged hcurrent (fun _ _ => rfl) hafter, hafter⟩, fun _ _ => rfl,
      fun _ _ _ h => h⟩

/-! ### The invariant -/

/-- What the cache keeps is stored, unless an update is about to delete it; what a client is about
to write back is stored; and what it is about to return. -/
structure Sound (conversions : Conversions) (s : State) : Prop where
  cached : ∀ orgId limits, cachedLimits conversions s orgId = some limits →
    limits = fetchOrgLimits conversions (s.orgs.lookup orgId) ∨
      ∃ client newLimits, s.clients client = .invalidating orgId newLimits
  loaded : ∀ client orgId limits loaded current,
    s.clients client = .committing orgId limits loaded current →
      currentLimits loaded = some current ∧ (loaded ≠ [] → s.orgs.lookup orgId = some loaded)
  stored : ∀ client orgId newLimits, s.clients client = .invalidating orgId newLimits →
    ∃ settings, s.orgs.lookup orgId = some settings ∧
      settings.lookup "rate_limits" = some (.obj newLimits)

/-- No client is at work, and the cache is empty. -/
theorem sound_start (conversions : Conversions) (orgs : List (String × JsonObject)) (now : ℕ) :
    Sound conversions ⟨orgs, .empty, fun _ => .idle, now⟩ where
  cached orgId limits h := by
    cases h
  loaded _ _ _ _ _ h := by
    cases h
  stored _ _ _ h := by
    cases h

theorem clients_goTo_self (client : ℕ) (stage : Stage) :
    (s.goTo client stage).clients client = stage := by
  show Function.update s.clients client stage client = _
  rw [Function.update_self]

/-- The other clients stay where they are. -/
theorem clients_goTo_of_ne {client other : ℕ} (h : other ≠ client) (stage : Stage) :
    (s.goTo client stage).clients other = s.clients other := by
  show Function.update s.clients client stage other = _
  rw [Function.update_of_ne h]

/-- A client at a stage is the one that moved, or was there. -/
theorem clients_goTo {client other : ℕ} {stage stage' : Stage}
    (h : (s.goTo client stage).clients other = stage') :
    (other = client ∧ stage = stage') ∨ (other ≠ client ∧ s.clients other = stage') := by
  by_cases hother : other = client
  · subst hother
    exact .inl ⟨rfl, (clients_goTo_self other stage).symm.trans h⟩
  · exact .inr ⟨hother, clients_goTo_of_ne hother stage ▸ h⟩

/-- A move of a client that is not about to delete from the cache, to such a stage, keeps the
invariant. -/
theorem Sound.goTo (hs : Sound conversions s) {client : ℕ} {stage : Stage}
    (hold : ∀ orgId newLimits, s.clients client ≠ .invalidating orgId newLimits)
    (hnew : ∀ orgId newLimits, stage ≠ .invalidating orgId newLimits)
    (hloaded : ∀ orgId limits loaded current, stage = .committing orgId limits loaded current →
      currentLimits loaded = some current ∧ s.orgs.lookup orgId = some loaded) :
    Sound conversions (s.goTo client stage) where
  cached orgId limits h := by
    refine (hs.cached orgId limits h).imp_right ?_
    rintro ⟨other, newLimits, hother⟩
    refine ⟨other, newLimits, ?_⟩
    rw [clients_goTo_of_ne, hother]
    rintro rfl
    exact hold _ _ hother
  loaded other orgId limits loaded current h := by
    rcases clients_goTo h with ⟨-, hstage⟩ | ⟨-, hother⟩
    · obtain ⟨hcurrent, hlookup⟩ := hloaded _ _ _ _ hstage
      exact ⟨hcurrent, fun _ => hlookup⟩
    · exact hs.loaded other orgId limits loaded current hother
  stored other orgId newLimits h := by
    rcases clients_goTo h with ⟨-, hstage⟩ | ⟨-, hother⟩
    · exact absurd hstage (hnew _ _)
    · exact hs.stored other orgId newLimits hother

/-- What a call does first. -/
theorem begin_cases (s : State) (call : Call) :
    (∀ orgId newLimits, begin conversions s call ≠ .invalidating orgId newLimits) ∧
    (∀ orgId limits loaded current,
      begin conversions s call = .committing orgId limits loaded current →
        currentLimits loaded = some current ∧ s.orgs.lookup orgId = some loaded) ∧
    ∀ orgId limits, begin conversions s call = .returned orgId limits →
      (∃ session, call = .getOrgLimits orgId session) ∧
        cachedLimits conversions s orgId = some limits := by
  cases call with
  | getOrgLimits orgId session =>
    rw [begin]
    cases hcached : cachedLimits conversions s orgId with
    | none => cases session <;> simp
    | some limits =>
      refine ⟨fun _ _ h => Stage.noConfusion h, fun _ _ _ _ h => Stage.noConfusion h,
        fun _ _ h => ?_⟩
      cases h
      exact ⟨⟨session, rfl⟩, hcached⟩
  | updateOrgLimits orgId limits session =>
    rw [begin]
    cases session with
    | false => simp
    | true =>
      cases hrow : s.orgs.lookup orgId with
      | none => simp
      | some settings =>
        cases hcurrent : currentLimits settings with
        | none => simp [hcurrent]
        | some current =>
          simp only [hcurrent, if_true]
          refine ⟨fun _ _ h => Stage.noConfusion h, fun _ _ _ _ h => ?_,
            fun _ _ h => Stage.noConfusion h⟩
          cases h
          exact ⟨hcurrent, hrow⟩

/-- Limits that are stored may be put in the cache. -/
theorem Sound.store (hs : Sound conversions s) {newLimits : OrgRateLimits}
    (h : newLimits = fetchOrgLimits conversions (s.orgs.lookup orgId)) :
    Sound conversions
      { s with cache := s.cache.set (limitsCacheKey orgId) (.obj newLimits.dump)
                (s.now + ttlOrgQuota) } where
  cached other limits hother := by
    rw [cachedLimits, TtlCache.get_set _ _ (show s.now < s.now + ttlOrgQuota by
      rw [ttlOrgQuota]; omega)] at hother
    by_cases hkey : limitsCacheKey other = limitsCacheKey orgId
    · rw [if_pos hkey, Option.bind_some, OrgRateLimits.validate_dump] at hother
      rw [limitsCacheKey_injective hkey, ← Option.some.inj hother]
      exact .inl h
    · rw [if_neg hkey] at hother
      exact hs.cached other limits hother
  loaded := hs.loaded
  stored := hs.stored

/-- After the deletion nothing is kept for the organization. -/
theorem Sound.invalidate (hs : Sound conversions s) {client : ℕ} {newLimits : JsonObject}
    (hclient : s.clients client = .invalidating orgId newLimits) {stage : Stage}
    (hfree : stage.isFree = true) :
    Sound conversions
      { s.goTo client stage with cache := s.cache.delete (limitsCacheKey orgId) } where
  cached other limits hother := by
    rw [cachedLimits, TtlCache.get_delete] at hother
    by_cases hkey : limitsCacheKey other = limitsCacheKey orgId
    · rw [if_pos hkey] at hother
      cases hother
    · rw [if_neg hkey] at hother
      refine (hs.cached other limits hother).imp_right ?_
      rintro ⟨busy, pending, hbusy⟩
      refine ⟨busy, pending, (clients_goTo_of_ne ?_ stage).trans hbusy⟩
      rintro rfl
      rw [hclient] at hbusy
      cases hbusy
      exact hkey rfl
  loaded other orgId limits loaded current h := by
    rcases clients_goTo h with ⟨-, rfl⟩ | ⟨-, hother⟩
    · cases hfree
    · exact hs.loaded other orgId limits loaded current hother
  stored other orgId newLimits h := by
    rcases clients_goTo h with ⟨-, rfl⟩ | ⟨-, hother⟩
    · cases hfree
    · exact hs.stored other orgId newLimits hother

/-- A commit that meets the condition leaves the cache to its own deletion. -/
theorem Sound.commit (hs : Sound conversions s) {client : ℕ} {loaded current : JsonObject}
    (hclient : s.clients client = .committing orgId limits loaded current)
    {orgs : List (String × JsonObject)} {newLimits : JsonObject}
    (hcommits : Commits s.orgs orgs orgId limits newLimits) :
    Sound conversions { s.goTo client (.invalidating orgId newLimits) with orgs } where
  cached other limits hother := by
    by_cases horg : other = orgId
    · subst horg
      exact .inr ⟨client, newLimits, clients_goTo_self client _⟩
    · show limits = fetchOrgLimits conversions (orgs.lookup other) ∨ _
      rw [hcommits.other other horg]
      refine (hs.cached other limits hother).imp_right ?_
      rintro ⟨busy, pending, hbusy⟩
      refine ⟨busy, pending, (clients_goTo_of_ne ?_ _).trans hbusy⟩
      rintro rfl
      rw [hclient] at hbusy
      cases hbusy
  loaded other _ _ loaded' _ h := by
    rcases clients_goTo h with ⟨-, h⟩ | ⟨-, hother⟩
    · cases h
    · obtain ⟨hcurrent, hlookup⟩ := hs.loaded other _ _ _ _ hother
      exact ⟨hcurrent, fun hne => hcommits.nonempty _ _ hne (hlookup hne)⟩
  stored other _ _ h := by
    rcases clients_goTo h with ⟨-, h⟩ | ⟨-, hother⟩
    · cases h
      obtain ⟨-, after, -, hafter, -, hnew⟩ := hcommits.merges
      exact ⟨after, hafter, hnew⟩
    · obtain ⟨settings, hlookup, hnew⟩ := hs.stored other _ _ hother
      refine ⟨settings, hcommits.nonempty _ _ ?_ hlookup, hnew⟩
      rintro rfl
      cases hnew

theorem Sound.later (hs : Sound conversions s) (elapsed : ℕ) :
    Sound conversions { s with now := s.now + elapsed } where
  cached orgId limits h := by
    obtain ⟨v, hv, hvalid⟩ := Option.bind_eq_some_iff.mp h
    refine hs.cached orgId limits (Option.bind_eq_some_iff.mpr ⟨v, ?_, hvalid⟩)
    exact TtlCache.get_of_later (Nat.le_add_right s.now elapsed) hv
  loaded := hs.loaded
  stored := hs.stored

/-! ### Steps -/

/-- A step that commits nothing and leaves the settings alone. -/
theorem faithful_of_unchanged {label : Label} (hstep : step conversions s label = some s')
    (horgs : s'.orgs = s.orgs)
    (hcommit : ∀ client orgId limits loaded current, label = .advance client →
      s.clients client ≠ .committing orgId limits loaded current)
    (hreturns : ∀ client orgId limits, label = .advance client →
      s'.clients client = .returned orgId limits →
      limits = fetchOrgLimits conversions (s.orgs.lookup orgId)) :
    Faithful conversions s label where
  merges t client orgId limits loaded current _ hlabel hclient :=
    absurd hclient (hcommit client orgId limits loaded current hlabel)
  keeps t ht _ := by
    obtain rfl := Option.some.inj (hstep.symm.trans ht)
    exact horgs
  returns t client orgId limits ht hlabel hreturned := by
    obtain rfl := Option.some.inj (hstep.symm.trans ht)
    rw [horgs]
    exact hreturns client orgId limits hlabel hreturned

/-- Nothing is asked of a step that is not possible. -/
theorem faithful_of_disabled {label : Label} (hstep : step conversions s label = none) :
    Faithful conversions s label where
  merges _ _ _ _ _ _ ht := by
    rw [hstep] at ht
    cases ht
  keeps _ ht := by
    rw [hstep] at ht
    cases ht
  returns _ _ _ _ ht := by
    rw [hstep] at ht
    cases ht

section

variable {client : ℕ}

/-- A step of a client that is no commit is judged by what the client is returned. -/
theorem faithful_of_advance {stage : Stage} (hclient : s.clients client = stage)
    (hstage : ∀ orgId limits loaded current, stage ≠ .committing orgId limits loaded current)
    (hstep : step conversions s (.advance client) = some s') (horgs : s'.orgs = s.orgs)
    (hreturns : ∀ orgId limits, s'.clients client = .returned orgId limits →
      limits = fetchOrgLimits conversions (s.orgs.lookup orgId)) :
    Faithful conversions s (.advance client) := by
  refine faithful_of_unchanged hstep horgs ?_ ?_
  · rintro _ orgId limits loaded current ⟨⟩ h
    exact hstage orgId limits loaded current (hclient.symm.trans h)
  · rintro _ orgId limits ⟨⟩
    exact hreturns orgId limits

/-- A client that is not invalidating goes to a stage in which it neither invalidates nor
commits. -/
theorem Sound.goTo_of_ne (hs : Sound conversions s) {stage stage' : Stage}
    (hclient : s.clients client = stage)
    (hold : ∀ orgId newLimits, stage ≠ .invalidating orgId newLimits)
    (hnew : ∀ orgId newLimits, stage' ≠ .invalidating orgId newLimits)
    (hnew' : ∀ orgId limits loaded current, stage' ≠ .committing orgId limits loaded current) :
    Sound conversions (s.goTo client stage') := by
  refine hs.goTo (fun orgId newLimits h => ?_) hnew fun orgId limits loaded current h => ?_
  · exact hold orgId newLimits (hclient.symm.trans h)
  · exact absurd h (hnew' orgId limits loaded current)

/-- What is in the cache is returned only if it is not about to be invalidated. -/
theorem faithful_starting (hs : Sound conversions s) {call : Call}
    (hclient : s.clients client = .starting call) (hkeeps : keeps s (.advance client))
    (hstep : step conversions s (.advance client) = some s') :
    Sound conversions s' ∧ Faithful conversions s (.advance client) := by
  have hmove := hstep
  rw [step, advance.eq_def, hclient] at hmove
  rw [keeps.eq_def] at hkeeps
  dsimp only at hkeeps
  rw [hclient] at hkeeps
  obtain rfl := Option.some.inj hmove
  have hbegin := @begin_cases conversions s call
  obtain ⟨hnew, hloaded, hhit⟩ := hbegin
  refine ⟨hs.goTo (fun _ _ h => ?_) hnew hloaded,
    faithful_of_advance hclient (fun _ _ _ _ h => Stage.noConfusion h) hstep rfl ?_⟩
  · rw [hclient] at h
    cases h
  · intro orgId limits h
    rw [clients_goTo_self] at h
    obtain ⟨⟨session, rfl⟩, hcached⟩ := hhit orgId limits h
    rcases hs.cached orgId limits hcached with hsame | ⟨other, newLimits, hother⟩
    · exact hsame
    · refine absurd hother (hkeeps ?_ other newLimits)
      obtain ⟨v, hv, -⟩ := Option.bind_eq_some_iff.mp hcached
      rw [hv]
      rfl

/-- What has been read is still what the database has. -/
theorem faithful_storing (hs : Sound conversions s) {row : Option JsonObject}
    (hclient : s.clients client = .storing orgId row) (hkeeps : keeps s (.advance client))
    (hstep : step conversions s (.advance client) = some s') :
    Sound conversions s' ∧ Faithful conversions s (.advance client) := by
  have hmove := hstep
  rw [step, advance.eq_def, hclient] at hmove
  rw [keeps.eq_def] at hkeeps
  dsimp only at hkeeps
  rw [hclient] at hkeeps
  obtain rfl := Option.some.inj hmove
  dsimp only at hkeeps
  have hmoved : Sound conversions
      (s.goTo client (.returned orgId (fetchOrgLimits conversions row))) :=
    hs.goTo_of_ne hclient (fun _ _ h => Stage.noConfusion h) (fun _ _ h => Stage.noConfusion h)
      fun _ _ _ _ h => Stage.noConfusion h
  refine ⟨hmoved.store (congrArg _ hkeeps.symm),
    faithful_of_advance hclient (fun _ _ _ _ h => Stage.noConfusion h) hstep rfl ?_⟩
  intro orgId' limits h
  have hself := (clients_goTo_self client _).symm.trans h
  cases hself
  rw [hkeeps]

/-- A commit merges its update into what the database has. -/
theorem faithful_committing (hs : Sound conversions s) {loaded current : JsonObject}
    (hclient : s.clients client = .committing orgId limits loaded current)
    (hkeeps : keeps s (.advance client))
    (hstep : step conversions s (.advance client) = some s') :
    Sound conversions s' ∧ Faithful conversions s (.advance client) := by
  have hmove := hstep
  rw [step, advance.eq_def, hclient] at hmove
  rw [keeps.eq_def] at hkeeps
  dsimp only at hkeeps
  rw [hclient] at hkeeps
  obtain rfl := Option.some.inj hmove
  obtain ⟨hcurrent, hloaded⟩ := hs.loaded client orgId limits loaded current hclient
  have hcommits := commits_of_keeps hcurrent hloaded hkeeps
  refine ⟨hs.commit hclient hcommits, ?_, ?_, ?_⟩
  · rintro t _ _ _ _ _ ht ⟨⟩ hcommitting
    obtain rfl := Option.some.inj (hstep.symm.trans ht)
    cases hclient.symm.trans hcommitting
    obtain ⟨before, after, hbefore, hafter, hupdate, -⟩ := hcommits.merges
    exact ⟨⟨before, after, hbefore, hafter, hupdate⟩, hcommits.other⟩
  · intro t ht hother
    exact absurd hclient (hother client orgId limits loaded current rfl)
  · rintro t _ orgId' limits' ht ⟨⟩ h
    obtain rfl := Option.some.inj (hstep.symm.trans ht)
    have hself := (clients_goTo_self client _).symm.trans h
    cases hself

/-- The limits that are returned after the invalidation are those that were stored. -/
theorem faithful_invalidating (hs : Sound conversions s) {newLimits : JsonObject}
    (hclient : s.clients client = .invalidating orgId newLimits)
    (hstep : step conversions s (.advance client) = some s') :
    Sound conversions s' ∧ Faithful conversions s (.advance client) := by
  have hmove := hstep
  rw [step, advance.eq_def, hclient] at hmove
  obtain rfl := Option.some.inj hmove
  refine ⟨hs.invalidate hclient ?_,
    faithful_of_advance hclient (fun _ _ _ _ h => Stage.noConfusion h) hstep rfl ?_⟩
  · split <;> rfl
  · intro orgId' limits h
    have hself := (clients_goTo_self client _).symm.trans h
    split at hself
    · next limits hvalid =>
      cases hself
      obtain ⟨settings, hlookup, hnew⟩ := hs.stored client orgId newLimits hclient
      rw [fetchOrgLimits, hlookup, Option.bind_some, hnew]
      dsimp only
      rw [hvalid, Option.getD_some]
    · cases hself

end

/-- **One step** that meets the condition is as it should be, and keeps the invariant. -/
theorem faithful_step (hs : Sound conversions s) {label : Label} (hkeeps : keeps s label)
    (hstep : step conversions s label = some s') :
    Sound conversions s' ∧ Faithful conversions s label := by
  cases label with
  | tick elapsed =>
    obtain rfl := Option.some.inj hstep
    exact ⟨hs.later elapsed, faithful_of_unchanged hstep rfl
      (fun _ _ _ _ _ h => Label.noConfusion h) fun _ _ _ h => Label.noConfusion h⟩
  | call client call =>
    have hstart := hstep
    rw [step] at hstart
    split at hstart
    · next hfree =>
      obtain rfl := Option.some.inj hstart
      refine ⟨hs.goTo (fun _ _ h => ?_) (fun _ _ h => Stage.noConfusion h)
          (fun _ _ _ _ h => Stage.noConfusion h),
        faithful_of_unchanged hstep rfl (fun _ _ _ _ _ h => Label.noConfusion h)
          fun _ _ _ h => Label.noConfusion h⟩
      rw [h] at hfree
      cases hfree
    · cases hstart
  | advance client =>
    have hmove := hstep
    rw [step, advance.eq_def] at hmove
    cases hclient : s.clients client with
    | idle | returned | raised =>
      rw [hclient] at hmove
      cases hmove
    | starting call => exact faithful_starting hs hclient hkeeps hstep
    | fetching orgId =>
      rw [hclient] at hmove
      obtain rfl := Option.some.inj hmove
      refine ⟨hs.goTo_of_ne hclient (fun _ _ h => Stage.noConfusion h)
          (fun _ _ h => Stage.noConfusion h) (fun _ _ _ _ h => Stage.noConfusion h),
        faithful_of_advance hclient (fun _ _ _ _ h => Stage.noConfusion h) hstep rfl
          fun _ _ h => ?_⟩
      rw [clients_goTo_self] at h
      cases h
    | storing orgId row => exact faithful_storing hs hclient hkeeps hstep
    | committing orgId limits loaded current => exact faithful_committing hs hclient hkeeps hstep
    | invalidating orgId newLimits => exact faithful_invalidating hs hclient hstep

/-- **The limits are kept** in every run whose steps meet the condition. -/
theorem limits_kept (conversions : Conversions) (orgs : List (String × JsonObject)) (now : ℕ)
    (labels : List Label)
    (h : Along (step conversions) keeps ⟨orgs, .empty, fun _ => .idle, now⟩ labels) :
    Along (step conversions) (Faithful conversions) ⟨orgs, .empty, fun _ => .idle, now⟩ labels := by
  refine along_of_invariant (fun _ _ _ hs hkeeps hstep => (faithful_step hs hkeeps hstep).1) ?_
    (sound_start conversions orgs now) h
  intro s label hs hkeeps
  cases hstep : step conversions s label with
  | some s' => exact (faithful_step hs hkeeps hstep).2
  | none => exact faithful_of_disabled hstep

/-- An update of settings that were empty, and are, meets the condition. -/
theorem keeps_commit_of_empty {client : ℕ} {current : JsonObject}
    (hclient : s.clients client = .committing orgId limits [] current)
    (hrow : s.orgs.lookup orgId = some []) : keeps s (.advance client) := by
  rw [keeps.eq_def]
  dsimp only
  rw [hclient]
  dsimp only
  rwa [if_pos rfl]

/-- Only integers are integers, and only booleans are booleans. -/
def strictConversions : Conversions where
  int := Json.asInt
  bool := Json.asBool
  int_ofInt := Json.asInt_ofInt
  bool_bool _ := rfl

def fivePerHour : OrgRateLimitsUpdate := ⟨some 5, none, none, none⟩

/-- An update, and a reader after it. -/
def updateAndRead : List Label :=
  [.call 0 (.updateOrgLimits "o" fivePerHour true), .advance 0, .advance 0, .advance 0,
    .call 1 (.getOrgLimits "o" true), .advance 1, .advance 1, .advance 1]

/-- The settings were empty. -/
theorem limits_kept_first_update :
    (exec (step strictConversions) ⟨[("o", [])], .empty, fun _ => .idle, 0⟩
      updateAndRead).isSome = true ∧
    Along (step strictConversions) (Faithful strictConversions)
      ⟨[("o", [])], .empty, fun _ => .idle, 0⟩ updateAndRead := by
  refine ⟨rfl, limits_kept strictConversions [("o", [])] 0 updateAndRead ?_⟩
  refine ⟨trivial, fun _ hs => ?_⟩
  obtain rfl := Option.some.inj hs
  refine ⟨trivial, fun _ hs => ?_⟩
  obtain rfl := Option.some.inj hs
  refine ⟨keeps_commit_of_empty rfl rfl, fun _ hs => ?_⟩
  obtain rfl := Option.some.inj hs
  refine ⟨trivial, fun _ hs => ?_⟩
  obtain rfl := Option.some.inj hs
  refine ⟨trivial, fun _ hs => ?_⟩
  obtain rfl := Option.some.inj hs
  refine ⟨fun h => Bool.noConfusion h, fun _ hs => ?_⟩
  obtain rfl := Option.some.inj hs
  refine ⟨trivial, fun _ hs => ?_⟩
  obtain rfl := Option.some.inj hs
  exact ⟨rfl, fun _ _ => trivial⟩

/-- **An update that is lost**: the settings have another member. -/
theorem limits_not_kept :
    ¬ ∀ (orgs : List (String × JsonObject)) (labels : List Label),
      Along (step strictConversions) (Faithful strictConversions)
        ⟨orgs, .empty, fun _ => .idle, 0⟩ labels := by
  intro hall
  have h := hall [("o", [("quotas", .obj [])])]
    [.call 0 (.updateOrgLimits "o" fivePerHour true), .advance 0, .advance 0]
  obtain ⟨-, h⟩ := h
  obtain ⟨-, h⟩ := h _ rfl
  obtain ⟨hfaithful, -⟩ := h _ rfl
  obtain ⟨⟨before, after, -, hafter, hupdate⟩, -⟩ := hfaithful.merges _ 0 "o" _ _ _ rfl rfl rfl
  obtain rfl := Option.some.inj hafter
  obtain ⟨-, new, -, hnew, -⟩ := hupdate.merged
  cases hnew

end OrgLimits

end OpenLangGraph

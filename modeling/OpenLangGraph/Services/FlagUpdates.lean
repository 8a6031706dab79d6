import Mathlib.Data.Finset.Card
import OpenLangGraph.Foundation.PartialUpdate
import OpenLangGraph.Services.FlagOverrides

/-!
# Updates of one flag

`update_flag` of `services/feature_flag_service.py`, as clients call it at the same time for one
flag. An update reads the row, writes the columns that are not as they were read, with the version
that was read plus one, and commits. Then it reads the row again for its response and makes an
entry in the log. Between two statements of a client the others go on.

## What goes wrong

* The metadata are assigned to the object, which has an attribute of that name, and not to the
  column.
* An update that commits after another has, and had read before, writes the same version again. A
  column that it sets to the value that was read is not written at all.
* What fails after the commit does not take the version back. The entry in the log always fails
  when it is serialized by `json.dumps`.

## What is left out

The flag is not deleted meanwhile. Every update has a time of its own.

## Main definitions

* `Stage`, `State`, `Label`, `step` — the clients and the flag
* `FieldsAsSet` — what an update makes of a flag
* `UpdatesLand` — what is asked of a run
* `keepsCount` — the condition on a step

## Main results

* `fieldsAsSet_updatedFlag_iff` — an update that nobody interferes with
* `updatesLand_of_keepsCount`
-/

namespace OpenLangGraph

namespace FlagUpdates

open FeatureFlagService FlagOverrides PartialUpdate Transition

variable {ν : Type} [DecidableEq ν]

/-! ### Clients -/

/-- How far a client has come. -/
inductive Stage (ν : Type)
  | idle
  /-- the row has been read, and what it is to be in the log -/
  | loaded (row previous : FeatureFlag ν) (request : FeatureFlagUpdate ν)
  /-- the change has been committed -/
  | committed (previous : FeatureFlag ν)
  /-- the row has been read again -/
  | logging (previous current : FeatureFlag ν)

/-- The update has been committed, and has not returned. -/
def Stage.isOpen : Stage ν → Bool
  | .idle | .loaded .. => false
  | .committed _ | .logging .. => true

structure State (ν : Type) where
  flag : FeatureFlag ν
  clients : ℕ → Stage ν
  /-- the updates that have returned -/
  returned : ℕ

omit [DecidableEq ν] in
def State.goTo (s : State ν) (client : ℕ) (stage : Stage ν) : State ν :=
  { s with clients := Function.update s.clients client stage }

/-- Columns that are written although they say the same as before, as another dictionary or list. -/
structure Rewritten where
  rollout : Bool
  tags : Bool

/-- The row after an `UPDATE`, which another client may have written since it was read. The metadata
of a flag are in none of the columns that are written. -/
def writeFlag (rewritten : Rewritten) (read written row : FeatureFlag ν) : FeatureFlag ν :=
  { row with
    name := writeChanged read.name written.name row.name
    description := writeChanged read.description written.description row.description
    defaultValue := writeChanged read.defaultValue written.defaultValue row.defaultValue
    enabledValue := writeChanged read.enabledValue written.enabledValue row.enabledValue
    enabled := writeChanged read.enabled written.enabled row.enabled
    isKillswitch := writeChanged read.isKillswitch written.isKillswitch row.isKillswitch
    status := writeChanged read.status written.status row.status
    rollout := if rewritten.rollout then written.rollout
      else writeChanged read.rollout written.rollout row.rollout
    targeting := writeChanged read.targeting written.targeting row.targeting
    tags := if rewritten.tags then written.tags else writeChanged read.tags written.tags row.tags
    expiresAt := writeChanged read.expiresAt written.expiresAt row.expiresAt
    version := writeChanged read.version written.version row.version
    updatedAt := writeChanged read.updatedAt written.updatedAt row.updatedAt }

/-- What happens: a client calls `update_flag`, or makes the next statement of it; or a statement
of it fails, or the client goes away. -/
inductive Label (ν : Type)
  | call (client : ℕ) (request : FeatureFlagUpdate ν)
  | commit (client : ℕ) (now : ℕ) (rewritten : Rewritten)
  | refresh (client : ℕ)
  | log (client : ℕ)
  | fail (client : ℕ)

section

variable (setting : FeatureFlagService.Setting ν)

def step (s : State ν) : Label ν → Option (State ν)
  | .call client request =>
    match s.clients client with
    | .idle => some <|
      match toPydantic setting s.flag with
      | .ok previous => s.goTo client (.loaded s.flag previous request)
      | .error _ => s
    | _ => none
  | .commit client now rewritten =>
    match s.clients client with
    | .loaded read previous request => some <|
      match updatedFlag request now read with
      | none => s.goTo client .idle
      | some written =>
        { s.goTo client (.committed previous) with
          flag := writeFlag rewritten read written s.flag }
    | _ => none
  | .refresh client =>
    match s.clients client with
    | .committed previous => some <|
      match toPydantic setting s.flag with
      | .ok current => s.goTo client (.logging previous current)
      | .error _ => s.goTo client .idle
    | _ => none
  | .log client =>
    match s.clients client with
    | .logging previous current => some <|
      if setting.serializes (.flag previous) && setting.serializes (.flag current) then
        { s.goTo client .idle with returned := s.returned + 1 }
      else s.goTo client .idle
    | _ => none
  | .fail client => some (s.goTo client .idle)

end

/-! ### What is asked -/

omit [DecidableEq ν] in
/-- Every field is as sent. A rollout of `None` is the default, and tags of `None` are none. -/
structure FieldsAsSet (request : FeatureFlagUpdate ν) (before after : FeatureFlag ν) : Prop where
  name : AsSent request.name (some before.name) (some after.name)
  description : AsSent request.description before.description after.description
  defaultValue : AsSent request.defaultValue before.defaultValue after.defaultValue
  enabledValue : AsSent request.enabledValue before.enabledValue after.enabledValue
  enabled : AsSent request.enabled (some before.enabled) (some after.enabled)
  isKillswitch : AsSent request.isKillswitch (some before.isKillswitch) (some after.isKillswitch)
  rollout : AsSent (request.rollout.map (·.getD default)) before.rollout after.rollout
  targeting : AsSent request.targeting before.targeting after.targeting
  tags : AsSent (request.tags.map (·.getD [])) before.tags after.tags
  metadata : AsSent request.metadata (some before.metadata) (some after.metadata)
  expiresAt : AsSent request.expiresAt before.expiresAt after.expiresAt
  status : AsSent request.status (some before.status) (some after.status)
  others : after.flagId = before.flagId ∧ after.orgId = before.orgId ∧ after.key = before.key ∧
    after.valueType = before.valueType ∧ after.createdAt = before.createdAt ∧
      after.createdBy = before.createdBy

/-- A commit does what its request says, and nothing else writes the flag. -/
def Lands (setting : FeatureFlagService.Setting ν) (s : State ν) (label : Label ν) : Prop :=
  ∀ s', step setting s label = some s' →
    match label with
    | .commit client now _ => ∀ read previous request,
      s.clients client = .loaded read previous request →
        if (updatedFlag request now read).isSome then FieldsAsSet request s.flag s'.flag
        else s'.flag = s.flag
    | _ => s'.flag = s.flag

omit [DecidableEq ν] in
/-- No update is between its commit and its end. -/
def Settled (s : State ν) : Prop := ∀ client, (s.clients client).isOpen = false

omit [DecidableEq ν] in
/-- No client has called yet. -/
def State.start (flag : FeatureFlag ν) : State ν := ⟨flag, fun _ => .idle, 0⟩

/-- **What is asked of the updates of a flag**: each does what its request says, and when none is
under way, the version has grown by the number of those that have returned. -/
structure UpdatesLand (setting : FeatureFlagService.Setting ν) (flag : FeatureFlag ν)
    (labels : List (Label ν)) : Prop where
  lands : Along (step setting) (Lands setting) (.start flag) labels
  counted : ∀ before t, before <+: labels → exec (step setting) (.start flag) before = some t →
    Settled t → t.flag.version = flag.version + t.returned

/-! ### The condition -/

/-- **The condition on a step.** A commit finds the row as it was read, and its request has no other
metadata; and an update that was committed goes on to return. -/
def keepsCount (setting : FeatureFlagService.Setting ν) (s : State ν) : Label ν → Bool
  | .call .. => true
  | .commit client now _ =>
    match s.clients client with
    | .loaded read _ request => (updatedFlag request now read).isNone ||
        read = s.flag && request.metadata.all (· = some s.flag.metadata)
    | _ => true
  | .refresh client =>
    match s.clients client with
    | .committed _ => (toPydantic setting s.flag).isOk
    | _ => true
  | .log client =>
    match s.clients client with
    | .logging previous current =>
      setting.serializes (.flag previous) && setting.serializes (.flag current)
    | _ => true
  | .fail client => !(s.clients client).isOpen

/-! ### An update -/

section

variable {request : FeatureFlagUpdate ν} {now : ℕ} {row written : FeatureFlag ν}

omit [DecidableEq ν] in
/-- **An update that nobody interferes with** sets everything but the metadata. -/
theorem fieldsAsSet_updatedFlag_iff (h : updatedFlag request now row = some written) :
    FieldsAsSet request row written ↔
      ∀ metadata, request.metadata = some metadata → metadata = some row.metadata := by
  simp only [updatedFlag, bind, Option.bind_eq_some_iff] at h
  obtain ⟨name, hname, enabled, henabled, isKillswitch, hkill, status, hstatus, h⟩ := h
  rw [← Option.some.inj h, ← asSent_self_iff]
  exact ⟨FieldsAsSet.metadata, fun hmetadata =>
    { name := hname.symm
      description := rfl
      defaultValue := rfl
      enabledValue := rfl
      enabled := henabled.symm
      isKillswitch := hkill.symm
      rollout := rfl
      targeting := rfl
      tags := rfl
      metadata := hmetadata
      expiresAt := rfl
      status := hstatus.symm
      others := ⟨rfl, rfl, rfl, rfl, rfl, rfl⟩ }⟩

@[simp] theorem writeChanged_self {α : Type} [DecidableEq α] (read written : α) :
    writeChanged read written read = written := by
  rw [writeChanged]
  split
  · next h => exact h.symm
  · rfl

/-- Nothing is lost of an update that finds the row as it was read. -/
theorem writeFlag_self (rewritten : Rewritten) (h : updatedFlag request now row = some written) :
    writeFlag rewritten row written row = written := by
  simp only [updatedFlag, bind, Option.bind_eq_some_iff] at h
  obtain ⟨name, hname, enabled, henabled, isKillswitch, hkill, status, hstatus, h⟩ := h
  rw [← Option.some.inj h]
  simp [writeFlag]

end

/-! ### Runs -/

section

variable {setting : FeatureFlagService.Setting ν} {flag : FeatureFlag ν} {s s' : State ν}

omit [DecidableEq ν] in
/-- The updates between their commit and their end are the clients `opened`, and the version counts
them and those that have returned. -/
structure Counts (flag : FeatureFlag ν) (s : State ν) (opened : Finset ℕ) : Prop where
  mem_iff : ∀ client, client ∈ opened ↔ (s.clients client).isOpen = true
  version : s.flag.version = flag.version + s.returned + opened.card

omit [DecidableEq ν] in
theorem clients_goTo (s : State ν) (client other : ℕ) (stage : Stage ν) :
    (s.goTo client stage).clients other = if other = client then stage else s.clients other := by
  rw [State.goTo]
  exact Function.update_apply s.clients client stage other

omit [DecidableEq ν] in
/-- A client that stays on its side of the commit. -/
theorem Counts.goTo {opened : Finset ℕ} (h : Counts flag s opened) {client : ℕ} {stage : Stage ν}
    (hstage : stage.isOpen = (s.clients client).isOpen) :
    Counts flag (s.goTo client stage) opened where
  mem_iff other := by
    rw [h.mem_iff, clients_goTo]
    by_cases hother : other = client
    · rw [if_pos hother, hstage, hother]
    · rw [if_neg hother]
  version := h.version

omit [DecidableEq ν] in
/-- A commit. -/
theorem Counts.commit {opened : Finset ℕ} (h : Counts flag s opened) {client : ℕ}
    (hclosed : (s.clients client).isOpen = false) (previous : FeatureFlag ν)
    {written : FeatureFlag ν} (hversion : written.version = s.flag.version + 1) :
    Counts flag { s.goTo client (.committed previous) with flag := written }
      (insert client opened) where
  mem_iff other := by
    show _ ↔ ((s.goTo client (.committed previous)).clients other).isOpen = true
    rw [Finset.mem_insert, h.mem_iff, clients_goTo]
    by_cases hother : other = client
    · rw [if_pos hother]
      exact iff_of_true (.inl hother) rfl
    · rw [if_neg hother, or_iff_right hother]
  version := by
    have hnew : client ∉ opened := by simp [h.mem_iff, hclosed]
    have hcount := h.version
    show written.version = flag.version + s.returned + ((insert client opened).card : ℕ)
    rw [Finset.card_insert_of_notMem hnew]
    omega

omit [DecidableEq ν] in
/-- An update returns. -/
theorem Counts.return {opened : Finset ℕ} (h : Counts flag s opened) {client : ℕ}
    (hopen : (s.clients client).isOpen = true) :
    Counts flag { s.goTo client .idle with returned := s.returned + 1 } (opened.erase client) where
  mem_iff other := by
    show _ ↔ ((s.goTo client .idle).clients other).isOpen = true
    rw [Finset.mem_erase, h.mem_iff, clients_goTo]
    by_cases hother : other = client
    · rw [if_pos hother]
      exact iff_of_false (fun hne => hne.1 hother) Bool.false_ne_true
    · rw [if_neg hother, and_iff_right hother]
  version := by
    have hcard := Finset.card_erase_add_one ((h.mem_iff client).mpr hopen)
    have hcount := h.version
    show s.flag.version =
      flag.version + ((s.returned + 1 : ℕ) : ℤ) + ((opened.erase client).card : ℕ)
    omega

/-! ### What a step does -/

variable {client now : ℕ} {rewritten : Rewritten} {request : FeatureFlagUpdate ν}

theorem step_call (h : step setting s (.call client request) = some s') :
    s.clients client = .idle ∧
      (s' = s ∨ ∃ previous, s' = s.goTo client (.loaded s.flag previous request)) := by
  rw [step] at h
  split at h
  · next hclient =>
    refine ⟨hclient, ?_⟩
    rw [← Option.some.inj h]
    split
    · exact .inr ⟨_, rfl⟩
    · exact .inl rfl
  · cases h

theorem step_commit (h : step setting s (.commit client now rewritten) = some s') :
    ∃ read previous request, s.clients client = .loaded read previous request ∧
      (updatedFlag request now read = none ∧ s' = s.goTo client .idle ∨
        ∃ written, updatedFlag request now read = some written ∧
          s' = { s.goTo client (.committed previous) with
            flag := writeFlag rewritten read written s.flag }) := by
  rw [step] at h
  split at h
  · next read previous request hclient =>
    refine ⟨read, previous, request, hclient, ?_⟩
    rw [← Option.some.inj h]
    cases hwritten : updatedFlag request now read with
    | none => exact .inl ⟨rfl, rfl⟩
    | some written => exact .inr ⟨written, rfl, rfl⟩
  · cases h

theorem step_refresh (h : step setting s (.refresh client) = some s') :
    ∃ previous, s.clients client = .committed previous ∧
      ((∃ current, s' = s.goTo client (.logging previous current)) ∨
        (toPydantic setting s.flag).isOk = false ∧ s' = s.goTo client .idle) := by
  rw [step] at h
  split at h
  · next previous hclient =>
    refine ⟨previous, hclient, ?_⟩
    rw [← Option.some.inj h]
    cases toPydantic setting s.flag with
    | ok current => exact .inl ⟨current, rfl⟩
    | error e => exact .inr ⟨rfl, rfl⟩
  · cases h

theorem step_log (h : step setting s (.log client) = some s') :
    ∃ previous current, s.clients client = .logging previous current ∧
      if setting.serializes (.flag previous) && setting.serializes (.flag current) then
        s' = { s.goTo client .idle with returned := s.returned + 1 }
      else s' = s.goTo client .idle := by
  rw [step] at h
  split at h
  · next previous current hclient =>
    refine ⟨previous, current, hclient, ?_⟩
    rw [← Option.some.inj h]
    split
    · rfl
    · rfl
  · cases h

/-! ### The invariant -/

/-- **A step** that meets the condition. -/
theorem exists_counts_step {label : Label ν} (hs : ∃ opened, Counts flag s opened)
    (hk : keepsCount setting s label = true) (hstep : step setting s label = some s') :
    ∃ opened, Counts flag s' opened := by
  obtain ⟨opened, h⟩ := hs
  cases label with
  | call client request =>
    obtain ⟨hclient, rfl | ⟨previous, rfl⟩⟩ := step_call hstep
    · exact ⟨opened, h⟩
    · exact ⟨opened, h.goTo (by rw [hclient]; rfl)⟩
  | commit client now rewritten =>
    obtain ⟨read, previous, request, hclient, ⟨-, rfl⟩ | ⟨written, hwritten, rfl⟩⟩ :=
      step_commit hstep
    · exact ⟨opened, h.goTo (by rw [hclient]; rfl)⟩
    · rw [keepsCount, hclient] at hk
      dsimp only at hk
      rw [hwritten, Option.isNone_some, Bool.false_or, Bool.and_eq_true, decide_eq_true_eq] at hk
      obtain ⟨rfl, -⟩ := hk
      refine ⟨insert client opened, h.commit (by rw [hclient]; rfl) previous ?_⟩
      rw [writeFlag_self rewritten hwritten]
      exact (updatedFlag_eq_some hwritten).2.2.2
  | refresh client =>
    obtain ⟨previous, hclient, ⟨current, rfl⟩ | ⟨hinvalid, -⟩⟩ := step_refresh hstep
    · exact ⟨opened, h.goTo (by rw [hclient]; rfl)⟩
    · rw [keepsCount, hclient] at hk
      cases hk.symm.trans hinvalid
  | log client =>
    obtain ⟨previous, current, hclient, hs'⟩ := step_log hstep
    rw [keepsCount, hclient] at hk
    rw [if_pos hk] at hs'
    rw [hs']
    exact ⟨opened.erase client, h.return (by rw [hclient]; rfl)⟩
  | fail client =>
    obtain rfl := Option.some.inj hstep
    rw [keepsCount, Bool.not_eq_true'] at hk
    exact ⟨opened, h.goTo hk.symm⟩

/-- The condition on a step makes its commit land. -/
theorem lands_of_keepsCount {label : Label ν} (hk : keepsCount setting s label = true) :
    Lands setting s label := by
  intro s' hstep
  cases label with
  | call client request =>
    obtain ⟨-, rfl | ⟨previous, rfl⟩⟩ := step_call hstep
    · rfl
    · rfl
  | commit client now rewritten =>
    intro read previous request hclient
    rw [keepsCount, hclient] at hk
    obtain ⟨read', previous', request', hclient', hcases⟩ := step_commit hstep
    obtain ⟨rfl, rfl, rfl⟩ := Stage.loaded.inj (hclient.symm.trans hclient')
    rcases hcases with ⟨hrefused, rfl⟩ | ⟨written, hwritten, rfl⟩
    · rw [hrefused]
      exact rfl
    · dsimp only at hk
      rw [hwritten, Option.isNone_some, Bool.false_or, Bool.and_eq_true, decide_eq_true_eq,
        Option.all_eq_true] at hk
      obtain ⟨rfl, hmetadata⟩ := hk
      rw [hwritten, if_pos Option.isSome_some]
      show FieldsAsSet request s.flag (writeFlag rewritten s.flag written s.flag)
      rw [writeFlag_self rewritten hwritten, fieldsAsSet_updatedFlag_iff hwritten]
      exact fun metadata hsent => of_decide_eq_true (hmetadata metadata hsent)
  | refresh client =>
    obtain ⟨previous, -, ⟨current, rfl⟩ | ⟨-, rfl⟩⟩ := step_refresh hstep
    · rfl
    · rfl
  | log client =>
    obtain ⟨previous, current, -, hs'⟩ := step_log hstep
    dsimp only
    split at hs'
    · rw [hs']
      rfl
    · rw [hs']
      rfl
  | fail client =>
    obtain rfl := Option.some.inj hstep
    rfl

omit [DecidableEq ν] in
theorem counts_start (flag : FeatureFlag ν) : Counts flag (.start flag) ∅ where
  mem_iff client := iff_of_false (Finset.notMem_empty client) Bool.false_ne_true
  version := by simp [State.start]

end

/-- **The updates of a flag** land and are counted in every run whose steps all meet the
condition. -/
theorem updatesLand_of_keepsCount (setting : FeatureFlagService.Setting ν) (flag : FeatureFlag ν)
    (labels : List (Label ν))
    (h : Along (step setting) (fun s label => keepsCount setting s label = true) (.start flag)
      labels) : UpdatesLand setting flag labels where
  lands := h.mono fun s label => lands_of_keepsCount
  counted := by
    have hall := (forall_prefix_iff (I := fun s => ∃ opened, Counts flag s opened)).mpr
      ⟨⟨∅, counts_start flag⟩, along_of_invariant
        (fun s label s' hs hk hstep => exists_counts_step hs hk hstep)
        (fun s label hs hk s' hstep => exists_counts_step hs hk hstep) ⟨∅, counts_start flag⟩ h⟩
    intro before t hbefore ht hsettled
    obtain ⟨opened, hcounts⟩ := hall before t hbefore ht
    have hempty : opened = ∅ := by
      refine Finset.eq_empty_of_forall_notMem fun client hclient => ?_
      rw [hcounts.mem_iff, hsettled client] at hclient
      cases hclient
    have hversion := hcounts.version
    rw [hempty, Finset.card_empty] at hversion
    omega

/-! ### Two updates -/

/-- A server whose log takes every dump. -/
def anyDump : FeatureFlagService.Setting (Bool ⊕ PyString.Str) := ⟨plainTypes, fun _ => true⟩

def enable : FeatureFlagUpdate (Bool ⊕ PyString.Str) := { enabled := some (some true) }

/-- The statements of an update after the first. -/
def rest (client now : ℕ) : List (Label (Bool ⊕ PyString.Str)) :=
  [.commit client now ⟨false, false⟩, .refresh client, .log client]

/-- One after the other, they land. -/
theorem updatesLand_one_by_one :
    ((exec (step anyDump) (.start darkMode)
        (.call 0 enable :: rest 0 1 ++ .call 1 { isKillswitch := some (some true) } ::
          rest 1 2)).map State.returned = some 2) ∧
      UpdatesLand anyDump darkMode
        (.call 0 enable :: rest 0 1 ++ .call 1 { isKillswitch := some (some true) } ::
          rest 1 2) :=
  ⟨by decide, updatesLand_of_keepsCount _ _ _ (by decide)⟩

/-- Not if both read before either commits, nor if one sets the metadata, nor, for the count, on the
server as it is. -/
theorem not_updatesLand :
    ¬ UpdatesLand anyDump darkMode
        (.call 0 enable :: .call 1 { isKillswitch := some (some true) } :: rest 0 1 ++ rest 1 2) ∧
      ¬ UpdatesLand anyDump darkMode
        (.call 0 { metadata := some (some (.inr "team".toList)) } :: rest 0 1) ∧
      ¬ UpdatesLand (.jsonDumps plainTypes) darkMode (.call 0 enable :: rest 0 1) := by
  refine ⟨fun h => ?_, fun h => ?_, fun h => ?_⟩
  · have hversion := h.counted _ _ List.prefix_rfl rfl fun client => by
      rcases client with _ | _ | client <;> rfl
    exact absurd hversion (by decide)
  · have hlands := (h.lands.2 _ rfl).1 _ rfl _ _ _ rfl
    have hmetadata : some (.inr []) = some (Sum.inr "team".toList : Bool ⊕ PyString.Str) :=
      hlands.metadata
    exact absurd hmetadata (by decide)
  · have hversion := h.counted _ _ List.prefix_rfl rfl fun client => by
      rcases client with _ | _ | client <;> rfl
    exact absurd hversion (by decide)

end FlagUpdates

end OpenLangGraph

import OpenLangGraph.Foundation.Table
import OpenLangGraph.Models.FeatureFlags

/-!
# The tables of the feature flags

The rows of `core/orm.py` for flags, for overrides of a flag and for the log of changes, with their
constraints, and the statements that write them. A row has the enums of the models for the text
that the columns keep of them.

## Constraints

* An organization has one flag of a key.
* An override is unique among the overrides with its flag, organization, scope and target, unless
  the target is `NULL`, which differs from every target and from itself.
* Overrides and entries of the log belong to a flag. They are deleted with it.

The foreign keys to the organizations are left out.

## Main definitions

* `FlagTables` — the three tables
* `insertFlag`, `updateFlag`, `deleteFlag`, `insertOverride`, `updateOverride`, `deleteOverride`,
  `insertChange` — the statements

## Main results

* `FlagTables.insertChange_deleteFlag` — no entry can be made for a flag that is gone
-/

namespace OpenLangGraph

open PyString

/-- What is left of a flag or of an override by `model_dump()`. -/
inductive FlagDump (ν : Type)
  | flag (flag : FeatureFlag ν)
  | override (override : FeatureFlagOverride ν)
deriving DecidableEq

/-- An entry of the log. No caller gives it metadata. -/
structure FeatureFlagChangeLog (ν : Type) where
  eventId : Str
  flagId : Str
  flagKey : Str
  orgId : Str
  eventType : Str
  changedBy : Option Str
  previousValue : Option (FlagDump ν)
  newValue : Option (FlagDump ν)
  timestamp : ℕ
deriving DecidableEq

variable {ν : Type}

/-- The columns of `uq_feature_flag_override`. -/
def FeatureFlagOverride.place (o : FeatureFlagOverride ν) :
    Str × Str × OverrideScope × Option Str :=
  (o.flagId, o.orgId, o.scope, o.targetId)

@[ext]
structure FlagTables (ν : Type) where
  flags : Table (FeatureFlag.flagId (ν := ν))
  overrides : Table (FeatureFlagOverride.overrideId (ν := ν))
  changeLog : Table (FeatureFlagChangeLog.eventId (ν := ν))
  keys : ∀ f ∈ flags.rows, ∀ g ∈ flags.rows, f.orgId = g.orgId → f.key = g.key →
    f.flagId = g.flagId
  targets : ∀ o ∈ overrides.rows, ∀ p ∈ overrides.rows, o.targetId.isSome = true →
    o.place = p.place → o.overrideId = p.overrideId
  overrideFlags : ∀ o ∈ overrides.rows, o.flagId ∈ flags.rows.map (FeatureFlag.flagId (ν := ν))
  logFlags : ∀ e ∈ changeLog.rows, e.flagId ∈ flags.rows.map (FeatureFlag.flagId (ν := ν))

namespace FlagTables

/-! ### Flags -/

def empty : FlagTables ν where
  flags := Table.empty
  overrides := Table.empty
  changeLog := Table.empty
  keys := by simp [Table.empty]
  targets := by simp [Table.empty]
  overrideFlags := by simp [Table.empty]
  logFlags := by simp [Table.empty]

/-- The flag of an organization with a key. -/
def flagByKey? (t : FlagTables ν) (orgId key : Str) : Option (FeatureFlag ν) :=
  t.flags.rows.find? fun f => f.orgId = orgId && f.key = key

/-- The flag of an organization with an id. -/
def flag? (t : FlagTables ν) (orgId flagId : Str) : Option (FeatureFlag ν) :=
  t.flags.rows.find? fun f => f.orgId = orgId && f.flagId = flagId

/-- `INSERT INTO feature_flags` -/
def insertFlag (t : FlagTables ν) (f : FeatureFlag ν) : Option (FlagTables ν) :=
  if hfree : t.flagByKey? f.orgId f.key = none then
    match h : t.flags.insert f with
    | none => none
    | some flags => some
        { t with
          flags
          keys := by
            have hne : ∀ g ∈ t.flags.rows, g.orgId = f.orgId → g.key = f.key → False := by
              intro g hg horg hkey
              have hno := List.find?_eq_none.mp hfree g hg
              simp [horg, hkey] at hno
            obtain ⟨-, hrows⟩ := Table.insert_eq_some h
            rw [hrows]
            intro g hg g' hg' horg hkey
            rw [List.mem_append, List.mem_singleton] at hg hg'
            rcases hg with hg | rfl <;> rcases hg' with hg' | rfl
            · exact t.keys g hg g' hg' horg hkey
            · exact (hne g hg horg hkey).elim
            · exact (hne g' hg' horg.symm hkey.symm).elim
            · rfl
          overrideFlags := by
            obtain ⟨-, hrows⟩ := Table.insert_eq_some h
            rw [hrows, List.map_append]
            exact fun o ho => List.mem_append_left _ (t.overrideFlags o ho)
          logFlags := by
            obtain ⟨-, hrows⟩ := Table.insert_eq_some h
            rw [hrows, List.map_append]
            exact fun e he => List.mem_append_left _ (t.logFlags e he) }
  else none

/-- `UPDATE feature_flags SET … WHERE flag_id = …`. No update changes the key of a flag. -/
def updateFlag (t : FlagTables ν) (flagId : Str) (f : FeatureFlag ν → FeatureFlag ν)
    (hf : ∀ row, (f row).flagId = row.flagId ∧ (f row).orgId = row.orgId ∧
      (f row).key = row.key) : FlagTables ν :=
  have hids : (t.flags.updateIf (fun row => row.flagId = flagId) f fun row => (hf row).1).rows.map
      FeatureFlag.flagId = t.flags.rows.map FeatureFlag.flagId := by
    show List.map _ (List.map _ _) = _
    rw [List.map_map]
    refine List.map_congr_left fun row _ => ?_
    rw [Function.comp_apply]
    split
    · exact (hf row).1
    · rfl
  { t with
    flags := t.flags.updateIf (fun row => row.flagId = flagId) f fun row => (hf row).1
    keys := by
      have hsame : ∀ row, (if decide (row.flagId = flagId) then f row else row).orgId = row.orgId ∧
          (if decide (row.flagId = flagId) then f row else row).key = row.key ∧
          (if decide (row.flagId = flagId) then f row else row).flagId = row.flagId := by
        intro row
        split
        · exact ⟨(hf row).2.1, (hf row).2.2, (hf row).1⟩
        · exact ⟨rfl, rfl, rfl⟩
      intro g hg g' hg' horg hkey
      obtain ⟨row, hrow, rfl⟩ := List.mem_map.mp hg
      obtain ⟨row', hrow', rfl⟩ := List.mem_map.mp hg'
      rw [(hsame row).1, (hsame row').1] at horg
      rw [(hsame row).2.1, (hsame row').2.1] at hkey
      rw [(hsame row).2.2, (hsame row').2.2]
      exact t.keys row hrow row' hrow' horg hkey
    overrideFlags := hids ▸ t.overrideFlags
    logFlags := hids ▸ t.logFlags }

/-- `DELETE FROM feature_flags`, with the overrides of the flag and its entries in the log. -/
def deleteFlag (t : FlagTables ν) (flagId : Str) : FlagTables ν where
  flags := t.flags.deleteIf fun f => f.flagId = flagId
  overrides := t.overrides.deleteIf fun o => o.flagId = flagId
  changeLog := t.changeLog.deleteIf fun e => e.flagId = flagId
  keys f hf g hg := t.keys f (Table.mem_deleteIf hf) g (Table.mem_deleteIf hg)
  targets o ho p hp := t.targets o (Table.mem_deleteIf ho) p (Table.mem_deleteIf hp)
  overrideFlags := by
    intro o ho
    obtain ⟨ho, hne⟩ := List.mem_filter.mp ho
    obtain ⟨f, hf, hid⟩ := List.mem_map.mp (t.overrideFlags o ho)
    refine List.mem_map.mpr ⟨f, List.mem_filter.mpr ⟨hf, ?_⟩, hid⟩
    simpa [hid] using hne
  logFlags := by
    intro e he
    obtain ⟨he, hne⟩ := List.mem_filter.mp he
    obtain ⟨f, hf, hid⟩ := List.mem_map.mp (t.logFlags e he)
    refine List.mem_map.mpr ⟨f, List.mem_filter.mpr ⟨hf, ?_⟩, hid⟩
    simpa [hid] using hne

/-! ### Overrides -/

/-- The override of an organization with an id. -/
def override? (t : FlagTables ν) (orgId overrideId : Str) : Option (FeatureFlagOverride ν) :=
  t.overrides.rows.find? fun o => o.orgId = orgId && o.overrideId = overrideId

/-- The constraint refuses an override: it has a target, and another one has its place. -/
def isTaken (t : FlagTables ν) (o : FeatureFlagOverride ν) : Bool :=
  o.targetId.isSome && t.overrides.rows.any fun p => p.place = o.place

/-- `INSERT INTO feature_flag_overrides` -/
def insertOverride (t : FlagTables ν) (o : FeatureFlagOverride ν) : Option (FlagTables ν) :=
  if hfree : t.isTaken o = false ∧ o.flagId ∈ t.flags.rows.map FeatureFlag.flagId then
    match h : t.overrides.insert o with
    | none => none
    | some overrides => some
        { t with
          overrides
          targets := by
            have hne : ∀ p ∈ t.overrides.rows, o.targetId.isSome = true → p.place = o.place →
                False := by
              intro p hp htarget hplace
              have hany := hfree.1
              rw [isTaken, htarget, Bool.true_and, List.any_eq_false] at hany
              exact hany p hp (decide_eq_true hplace)
            have htargets : ∀ p : FeatureFlagOverride ν, p.place = o.place →
                p.targetId = o.targetId := fun p hplace => congrArg (·.2.2.2) hplace
            obtain ⟨-, hrows⟩ := Table.insert_eq_some h
            rw [hrows]
            intro p hp p' hp' htarget hplace
            rw [List.mem_append, List.mem_singleton] at hp hp'
            rcases hp with hp | rfl <;> rcases hp' with hp' | rfl
            · exact t.targets p hp p' hp' htarget hplace
            · exact (hne p hp (htargets p hplace ▸ htarget) hplace).elim
            · exact (hne p' hp' htarget hplace.symm).elim
            · rfl
          overrideFlags := by
            obtain ⟨-, hrows⟩ := Table.insert_eq_some h
            rw [hrows]
            intro p hp
            rw [List.mem_append, List.mem_singleton] at hp
            rcases hp with hp | rfl
            · exact t.overrideFlags p hp
            · exact hfree.2 }
  else none

/-- `UPDATE feature_flag_overrides SET … WHERE override_id = …`. No update changes the place of an
override. -/
def updateOverride (t : FlagTables ν) (overrideId : Str)
    (f : FeatureFlagOverride ν → FeatureFlagOverride ν)
    (hf : ∀ row, (f row).overrideId = row.overrideId ∧ (f row).place = row.place) : FlagTables ν :=
  have hsame : ∀ row, (if decide (row.overrideId = overrideId) then f row else row).place =
      row.place ∧ (if decide (row.overrideId = overrideId) then f row else row).overrideId =
        row.overrideId := by
    intro row
    split
    · exact (hf row).symm
    · exact ⟨rfl, rfl⟩
  { t with
    overrides := t.overrides.updateIf (fun row => row.overrideId = overrideId) f
      fun row => (hf row).1
    targets := by
      intro o ho p hp htarget hplace
      obtain ⟨row, hrow, rfl⟩ := List.mem_map.mp ho
      obtain ⟨row', hrow', rfl⟩ := List.mem_map.mp hp
      have htargetId : (if decide (row.overrideId = overrideId) then f row else row).targetId =
          row.targetId := congrArg (·.2.2.2) (hsame row).1
      rw [(hsame row).1, (hsame row').1] at hplace
      rw [htargetId] at htarget
      rw [(hsame row).2, (hsame row').2]
      exact t.targets row hrow row' hrow' htarget hplace
    overrideFlags := by
      intro o ho
      obtain ⟨row, hrow, rfl⟩ := List.mem_map.mp ho
      have hflagId : (if decide (row.overrideId = overrideId) then f row else row).flagId =
          row.flagId := congrArg (·.1) (hsame row).1
      rw [hflagId]
      exact t.overrideFlags row hrow }

/-- `DELETE FROM feature_flag_overrides` -/
def deleteOverride (t : FlagTables ν) (overrideId : Str) : FlagTables ν :=
  { t with
    overrides := t.overrides.deleteIf fun o => o.overrideId = overrideId
    targets := fun o ho p hp => t.targets o (Table.mem_deleteIf ho) p (Table.mem_deleteIf hp)
    overrideFlags := fun o ho => t.overrideFlags o (Table.mem_deleteIf ho) }

/-! ### The log -/

/-- `INSERT INTO feature_flag_change_logs` -/
def insertChange (t : FlagTables ν) (e : FeatureFlagChangeLog ν) : Option (FlagTables ν) :=
  if hflag : e.flagId ∈ t.flags.rows.map FeatureFlag.flagId then
    match h : t.changeLog.insert e with
    | none => none
    | some changeLog => some
        { t with
          changeLog
          logFlags := by
            obtain ⟨-, hrows⟩ := Table.insert_eq_some h
            rw [hrows]
            intro e' he'
            rw [List.mem_append, List.mem_singleton] at he'
            rcases he' with he' | rfl
            · exact t.logFlags e' he'
            · exact hflag }
  else none

/-! ### What the statements do -/

variable {t t' : FlagTables ν}

theorem insertFlag_eq_some {f : FeatureFlag ν} (h : t.insertFlag f = some t') :
    t.flagByKey? f.orgId f.key = none ∧ t.flags.insert f = some t'.flags ∧
      t'.overrides = t.overrides ∧ t'.changeLog = t.changeLog := by
  rw [insertFlag] at h
  split at h
  · next hfree =>
    split at h
    · cases h
    · next flags hinsert =>
      cases h
      exact ⟨hfree, hinsert, rfl, rfl⟩
  · cases h

theorem insertOverride_eq_some {o : FeatureFlagOverride ν} (h : t.insertOverride o = some t') :
    t.isTaken o = false ∧ t.overrides.insert o = some t'.overrides ∧ t'.flags = t.flags ∧
      t'.changeLog = t.changeLog := by
  rw [insertOverride] at h
  split at h
  · next hfree =>
    split at h
    · cases h
    · next overrides hinsert =>
      cases h
      exact ⟨hfree.1, hinsert, rfl, rfl⟩
  · cases h

theorem insertChange_eq_some {e : FeatureFlagChangeLog ν} (h : t.insertChange e = some t') :
    t.changeLog.insert e = some t'.changeLog ∧ t'.flags = t.flags ∧
      t'.overrides = t.overrides := by
  rw [insertChange] at h
  split at h
  · split at h
    · cases h
    · next changeLog hinsert =>
      cases h
      exact ⟨hinsert, rfl, rfl⟩
  · cases h

/-- The foreign key refuses an entry for a flag that is gone. -/
theorem insertChange_deleteFlag (t : FlagTables ν) (e : FeatureFlagChangeLog ν) :
    (t.deleteFlag e.flagId).insertChange e = none := by
  refine dif_neg fun hmem => ?_
  obtain ⟨f, hf, hid⟩ := List.mem_map.mp hmem
  simpa [hid] using (List.mem_filter.mp hf).2

end FlagTables

end OpenLangGraph

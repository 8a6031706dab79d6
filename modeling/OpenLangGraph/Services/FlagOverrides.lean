import OpenLangGraph.Foundation.Transition
import OpenLangGraph.Services.FeatureFlagService

/-!
# One active override for each place

The edits of overrides, as clients make them at the same time. A creation reads the flag, looks for
an override with the flag, organization, scope and target, and inserts one if there is none. An
update and a deletion read the override before they write. Between two statements of a client the
others go on.

## Where two overrides come from

Two creations may both have looked before either of them inserts. The second insertion meets the
unique constraint, but the constraint is about overrides with a target. Overrides of an organization
have none.

## What is left out

Every statement is committed at once, as no edit writes twice before it commits. The entry in the
log and the cache are left out: they do not touch the overrides. An evaluation takes no time.

## Main definitions

* `Call`, `Stage` — an edit, and how far it has come
* `State`, `Label`, `step` — the clients and the tables
* `OverridesUnique` — what is asked of a state
* `keepsUnique` — the condition on a step

## Main results

* `overrides_unique_iff` — runs in which the overrides stay unique
* `keepsUnique_of_existing_none` — an insertion right after the check meets the condition
* `race_for_org` — two creations that do not
-/

namespace OpenLangGraph

namespace FlagOverrides

open FeatureFlagService PyString Transition

variable {ν : Type} [DecidableEq ν]

/-! ### Clients -/

/-- An edit of an override. -/
inductive Call (ν : Type)
  | createOverride (orgId : Str) (request : FeatureFlagOverrideCreate ν) (createdBy : Str)
  | updateOverride (orgId overrideId : Str) (request : FeatureFlagOverrideUpdate ν)
  | deleteOverride (orgId overrideId : Str)

/-- How far a client has come. -/
inductive Stage (ν : Type)
  | idle
  /-- the flag has been read -/
  | checking (orgId : Str) (flag : FeatureFlag ν) (request : FeatureFlagOverrideCreate ν)
      (createdBy : Str)
  /-- and no override was found -/
  | inserting (orgId : Str) (flag : FeatureFlag ν) (request : FeatureFlagOverrideCreate ν)
      (createdBy : Str)
  /-- the override has been read -/
  | updating (row : FeatureFlagOverride ν) (request : FeatureFlagOverrideUpdate ν)
  | deleting (row : FeatureFlagOverride ν)

structure State (ν : Type) where
  tables : FlagTables ν
  clients : ℕ → Stage ν
  now : ℕ

namespace State

omit [DecidableEq ν] in
def goTo (s : State ν) (client : ℕ) (stage : Stage ν) : State ν :=
  { s with clients := Function.update s.clients client stage }

end State

/-- An update writes the columns whose value is not the one that was read. -/
def writeChanged {α : Type} [DecidableEq α] (read written current : α) : α :=
  if written = read then current else written

/-- The row after an `UPDATE`, which another client may have written since it was read. -/
def writeChanges (read written row : FeatureFlagOverride ν) : FeatureFlagOverride ν :=
  { row with
    value := writeChanged read.value written.value row.value
    enabled := writeChanged read.enabled written.enabled row.enabled
    reason := writeChanged read.reason written.reason row.reason
    expiresAt := writeChanged read.expiresAt written.expiresAt row.expiresAt
    updatedAt := writeChanged read.updatedAt written.updatedAt row.updatedAt }

/-- What happens: a client calls an edit, or makes the next statement of it, with the id that the
database generates; a flag comes or goes; time passes. -/
inductive Label (ν : Type)
  | call (client : ℕ) (call : Call ν)
  | advance (client : ℕ) (overrideId : Str)
  | insertFlag (flag : FeatureFlag ν)
  | deleteFlag (flagId : Str)
  | tick (elapsed : ℕ)

section

variable (setting : FeatureFlagService.Setting ν)

omit [DecidableEq ν] in
/-- The first statement of an edit. It raises if it does not find its row. -/
def begin (t : FlagTables ν) : Call ν → Stage ν
  | .createOverride orgId request createdBy =>
    match getFlagByKey setting t orgId request.flagKey with
    | .ok (some flag) => .checking orgId flag request createdBy
    | _ => .idle
  | .updateOverride orgId overrideId request =>
    match t.override? orgId overrideId with
    | some row => .updating row request
    | none => .idle
  | .deleteOverride orgId overrideId =>
    match t.override? orgId overrideId with
    | some row => .deleting row
    | none => .idle

/-- The next statement of an edit. -/
def advance (s : State ν) (client : ℕ) (overrideId : Str) : Option (State ν) :=
  match s.clients client with
  | .idle => none
  | .checking orgId flag request createdBy => some <| s.goTo client <|
    match existingOverride s.tables orgId flag request with
    | .ok none => .inserting orgId flag request createdBy
    | _ => .idle
  | .inserting orgId flag request createdBy =>
    some { s.goTo client .idle with
      tables := (s.tables.insertOverride
        (newOverride orgId flag request createdBy overrideId s.now)).getD s.tables }
  | .updating row request =>
    some { s.goTo client .idle with
      tables := match updatedOverride request s.now row with
        | none => s.tables
        | some written => s.tables.updateOverride row.overrideId (writeChanges row written)
            fun _ => ⟨rfl, rfl⟩ }
  | .deleting row =>
    some { s.goTo client .idle with tables := s.tables.deleteOverride row.overrideId }

def step (s : State ν) : Label ν → Option (State ν)
  | .call client call =>
    match s.clients client with
    | .idle => some (s.goTo client (begin setting s.tables call))
    | _ => none
  | .advance client overrideId => advance s client overrideId
  | .insertFlag flag => some { s with tables := (s.tables.insertFlag flag).getD s.tables }
  | .deleteFlag flagId => some { s with tables := s.tables.deleteFlag flagId }
  | .tick elapsed => some { s with now := s.now + elapsed }

end

/-! ### What is asked -/

omit [DecidableEq ν] in
/-- A place has one active override at most. -/
def Unique (t : FlagTables ν) (now : ℕ) : Prop :=
  ∀ o ∈ t.overrides.rows, ∀ p ∈ t.overrides.rows, isActive now o = true → isActive now p = true →
    o.place = p.place → o = p

omit [DecidableEq ν] in
/-- **Overrides are unique**, and the lookup of an evaluation does not raise. -/
structure OverridesUnique (s : State ν) : Prop where
  unique : Unique s.tables s.now
  lookup : ∀ flagId orgId scope targetId,
    ∃ o, getActiveOverride s.tables flagId orgId scope targetId s.now = .ok o

/-! ### The condition -/

omit [DecidableEq ν] in
/-- The override is active and has no target, and neither has another active one of the same flag,
organization and scope. -/
def hasRival (t : FlagTables ν) (now : ℕ) (o : FeatureFlagOverride ν) : Bool :=
  o.targetId.isNone && isActive now o && t.overrides.rows.any fun p =>
    p.overrideId ≠ o.overrideId && isActive now p && p.place = o.place

/-- **The condition on a step.** What it inserts or updates has no rival. -/
def keepsUnique (s : State ν) : Label ν → Bool
  | .advance client overrideId =>
    match s.clients client with
    | .inserting orgId flag request createdBy =>
      let row := newOverride orgId flag request createdBy overrideId s.now
      (s.tables.insertOverride row).isNone || !hasRival s.tables s.now row
    | .updating row request =>
      (updatedOverride request s.now row).all fun written =>
        (s.tables.overrides.find? row.overrideId).all fun current =>
          !hasRival s.tables s.now (writeChanges row written current)
    | .idle | .checking .. | .deleting _ => true
  | .call .. | .insertFlag _ | .deleteFlag _ | .tick _ => true

/-! ### Active overrides -/

section

variable {t t' : FlagTables ν} {o : FeatureFlagOverride ν} {now now' : ℕ}

omit [DecidableEq ν] in
theorem isActive_of_later (hnow : now ≤ now') (h : isActive now' o = true) :
    isActive now o = true := by
  rw [isActive, Bool.and_eq_true, Option.all_eq_true] at h ⊢
  refine ⟨h.1, fun expiresAt hexpires => ?_⟩
  have hlater := of_decide_eq_true (h.2 expiresAt hexpires)
  exact decide_eq_true (by omega)

omit [DecidableEq ν] in
/-- Where overrides are unique, the lookup finds one at most. -/
theorem lookup_of_unique (h : Unique t now) (flagId orgId : Str) (scope : OverrideScope)
    (targetId : Option Str) : ∃ o, getActiveOverride t flagId orgId scope targetId now = .ok o := by
  refine scalarOneOrNone_of_unique ((List.Nodup.of_map _ t.overrides.unique).filter _) ?_
  intro o ho p hp
  obtain ⟨ho, hoactive⟩ := List.mem_filter.mp ho
  obtain ⟨hp, hpactive⟩ := List.mem_filter.mp hp
  rw [Bool.and_eq_true, decide_eq_true_eq] at hoactive hpactive
  exact h o ho p hp hoactive.1 hpactive.1 (hoactive.2.trans hpactive.2.symm)

omit [DecidableEq ν] in
theorem overridesUnique_iff {s : State ν} : OverridesUnique s ↔ Unique s.tables s.now :=
  ⟨fun h => h.unique, fun h => ⟨h, lookup_of_unique h⟩⟩

omit [DecidableEq ν] in
/-- The constraint takes care of the overrides with a target. -/
theorem unique_of_untargeted
    (h : ∀ o ∈ t.overrides.rows, ∀ p ∈ t.overrides.rows, o.targetId = none →
      isActive now o = true → isActive now p = true → o.place = p.place →
      o.overrideId = p.overrideId) : Unique t now := by
  intro o ho p hp hoactive hpactive hplace
  refine List.inj_on_of_nodup_map t.overrides.unique ho hp ?_
  cases htarget : o.targetId with
  | none => exact h o ho p hp htarget hoactive hpactive hplace
  | some targetId => exact t.targets o ho p hp (by rw [htarget]; rfl) hplace

omit [DecidableEq ν] in
/-- Fewer overrides stay unique, and later. -/
theorem Unique.of_subset (h : Unique t now) (hrows : t'.overrides.rows ⊆ t.overrides.rows)
    (hnow : now ≤ now') : Unique t' now' := by
  intro o ho p hp hoactive hpactive hplace
  exact h o (hrows ho) p (hrows hp) (isActive_of_later hnow hoactive)
    (isActive_of_later hnow hpactive) hplace

omit [DecidableEq ν] in
theorem hasRival_eq_true : hasRival t now o = true ↔ o.targetId = none ∧ isActive now o = true ∧
    ∃ p ∈ t.overrides.rows, p.overrideId ≠ o.overrideId ∧ isActive now p = true ∧
      p.place = o.place := by
  simp [hasRival, and_assoc]

omit [DecidableEq ν] in
/-- **An insertion.** -/
theorem unique_insert_iff (h : Unique t now) (hinsert : t.insertOverride o = some t') :
    Unique t' now ↔ hasRival t now o = false := by
  obtain ⟨-, hrow, -, -⟩ := FlagTables.insertOverride_eq_some hinsert
  obtain ⟨hnew, hrows⟩ := Table.insert_eq_some hrow
  have hne : ∀ p ∈ t.overrides.rows, p.overrideId ≠ o.overrideId :=
    fun p hp hid => hnew (hid ▸ List.mem_map_of_mem hp)
  rw [← Bool.not_eq_true, hasRival_eq_true]
  constructor
  · rintro hunique ⟨-, hactive, p, hp, hid, hpactive, hplace⟩
    refine hid (congrArg _ (hunique p ?_ o ?_ hpactive hactive hplace))
    · rw [hrows]
      exact List.mem_append_left _ hp
    · rw [hrows]
      exact List.mem_append_right _ (List.mem_singleton_self _)
  · intro hno
    refine unique_of_untargeted fun p hp q hq htarget hpactive hqactive hplace => ?_
    rw [hrows, List.mem_append, List.mem_singleton] at hp hq
    have htargets : q.targetId = none := (congrArg (·.2.2.2) hplace).symm.trans htarget
    rcases hp with hp | rfl <;> rcases hq with hq | rfl
    · exact congrArg _ (h p hp q hq hpactive hqactive hplace)
    · exact absurd ⟨htargets, hqactive, p, hp, hne p hp, hpactive, hplace⟩ hno
    · exact absurd ⟨htarget, hpactive, q, hq, hne q hq, hqactive, hplace.symm⟩ hno
    · rfl

omit [DecidableEq ν] in
/-- **An update**, of a row that is still there. -/
theorem unique_update_iff (h : Unique t now) (overrideId : Str)
    (f : FeatureFlagOverride ν → FeatureFlagOverride ν)
    (hf : ∀ row, (f row).overrideId = row.overrideId ∧ (f row).place = row.place) :
    Unique (t.updateOverride overrideId f hf) now ↔
      (t.overrides.find? overrideId).all (fun row => !hasRival t now (f row)) = true := by
  have hrows : (t.updateOverride overrideId f hf).overrides.rows =
      t.overrides.rows.map fun row => if decide (row.overrideId = overrideId) then f row else row :=
    rfl
  cases hfind : t.overrides.find? overrideId with
  | none =>
    have hsame : (t.updateOverride overrideId f hf).overrides.rows = t.overrides.rows := by
      rw [hrows]
      refine (List.map_congr_left fun row hrow => if_neg ?_).trans (List.map_id _)
      simpa using List.find?_eq_none.mp hfind row hrow
    exact iff_of_true (h.of_subset (fun o ho => hsame ▸ ho) le_rfl) rfl
  | some row =>
    obtain ⟨hrow, hid⟩ := Table.find?_eq_some_iff.mp hfind
    have hmem : ∀ q, q ∈ (t.updateOverride overrideId f hf).overrides.rows ↔
        q = f row ∨ q ∈ t.overrides.rows ∧ q.overrideId ≠ overrideId := by
      intro q
      rw [hrows, List.mem_map]
      constructor
      · rintro ⟨old, hold, rfl⟩
        by_cases holdId : old.overrideId = overrideId
        · rw [if_pos (decide_eq_true holdId),
            List.inj_on_of_nodup_map t.overrides.unique hold hrow (holdId.trans hid.symm)]
          exact .inl rfl
        · rw [if_neg (by simpa using holdId)]
          exact .inr ⟨hold, holdId⟩
      · rintro (rfl | ⟨hq, hqid⟩)
        · exact ⟨row, hrow, if_pos (decide_eq_true hid)⟩
        · exact ⟨q, hq, if_neg (by simpa using hqid)⟩
    have hfid : (f row).overrideId = overrideId := (hf row).1.trans hid
    rw [Option.all_some, Bool.not_eq_true', ← Bool.not_eq_true, hasRival_eq_true, hfid]
    constructor
    · rintro hunique ⟨-, hactive, p, hp, hpid, hpactive, hplace⟩
      have heq := hunique p ((hmem p).mpr (.inr ⟨hp, hpid⟩)) (f row) ((hmem _).mpr (.inl rfl))
        hpactive hactive hplace
      exact hpid (heq ▸ hfid)
    · intro hno
      refine unique_of_untargeted fun p hp q hq htarget hpactive hqactive hplace => ?_
      have htargets : q.targetId = none := (congrArg (·.2.2.2) hplace).symm.trans htarget
      rcases (hmem p).mp hp with rfl | ⟨hp, hpid⟩ <;> rcases (hmem q).mp hq with rfl | ⟨hq, hqid⟩
      · rfl
      · exact absurd ⟨htarget, hpactive, q, hq, hqid, hqactive, hplace.symm⟩ hno
      · exact absurd ⟨htargets, hqactive, p, hp, hpid, hpactive, hplace⟩ hno
      · exact congrArg _ (h p hp q hq hpactive hqactive hplace)

end

/-! ### Steps and runs -/

section

variable {setting : FeatureFlagService.Setting ν} {s s' : State ν}

/-- **One step.** -/
theorem unique_step_iff (h : Unique s.tables s.now) {label : Label ν}
    (hstep : step setting s label = some s') :
    Unique s'.tables s'.now ↔ keepsUnique s label = true := by
  cases label with
  | call client call =>
    rw [step] at hstep
    split at hstep
    · obtain rfl := Option.some.inj hstep
      exact iff_of_true h rfl
    · cases hstep
  | insertFlag flag =>
    obtain rfl := Option.some.inj hstep
    refine iff_of_true (h.of_subset ?_ le_rfl) rfl
    cases hinsert : s.tables.insertFlag flag with
    | none => exact List.Subset.refl _
    | some tables =>
      have hoverrides : tables.overrides = s.tables.overrides :=
        (FlagTables.insertFlag_eq_some hinsert).2.2.1
      exact fun o ho => hoverrides ▸ ho
  | deleteFlag flagId =>
    obtain rfl := Option.some.inj hstep
    exact iff_of_true (h.of_subset (fun o ho => Table.mem_deleteIf ho) le_rfl) rfl
  | tick elapsed =>
    obtain rfl := Option.some.inj hstep
    exact iff_of_true (h.of_subset (List.Subset.refl _) (Nat.le_add_right _ _)) rfl
  | advance client overrideId =>
    rw [step, advance.eq_def] at hstep
    rw [keepsUnique.eq_def]
    cases hclient : s.clients client with
    | idle =>
      rw [hclient] at hstep
      cases hstep
    | checking orgId flag request createdBy =>
      rw [hclient] at hstep
      obtain rfl := Option.some.inj hstep
      exact iff_of_true h (by simp only [hclient])
    | inserting orgId flag request createdBy =>
      rw [hclient] at hstep
      obtain rfl := Option.some.inj hstep
      simp only [hclient]
      cases hinsert : s.tables.insertOverride
          (newOverride orgId flag request createdBy overrideId s.now) with
      | none => exact iff_of_true h rfl
      | some tables =>
        refine (unique_insert_iff h hinsert).trans ?_
        rw [Option.isNone_some, Bool.false_or, Bool.not_eq_true']
    | updating row request =>
      rw [hclient] at hstep
      obtain rfl := Option.some.inj hstep
      simp only [hclient]
      cases hwritten : updatedOverride request s.now row with
      | none => exact iff_of_true h rfl
      | some written =>
        exact unique_update_iff h row.overrideId (writeChanges row written) _
    | deleting row =>
      rw [hclient] at hstep
      obtain rfl := Option.some.inj hstep
      refine iff_of_true (h.of_subset (fun o ho => Table.mem_deleteIf ho) le_rfl) ?_
      simp only [hclient]

/-- **Overrides stay unique** in every state that a run reaches, and the lookup raises in none,
exactly if every step meets the condition. -/
theorem overrides_unique_iff (setting : FeatureFlagService.Setting ν) {labels : List (Label ν)}
    (hs : Unique s.tables s.now) (h : exec (step setting) s labels = some s') :
    (∀ pre t, pre <+: labels → exec (step setting) s pre = some t → OverridesUnique t) ↔
      Along (step setting) (fun s label => keepsUnique s label = true) s labels := by
  simp only [overridesUnique_iff]
  exact forall_prefix_iff_along (S := fun _ => True) (fun _ _ _ _ _ => trivial)
    (fun _ _ _ _ hunique hstep => unique_step_iff hunique hstep) trivial hs h

/-- A creation that inserts before anything else happens meets the condition: its check sees the
overrides without a target. -/
theorem keepsUnique_of_existing_none {client : ℕ} {orgId : Str} {flag : FeatureFlag ν}
    {request : FeatureFlagOverrideCreate ν} {createdBy : Str}
    (hexisting : existingOverride s.tables orgId flag request = .ok none) (overrideId : Str) :
    keepsUnique (s.goTo client (.inserting orgId flag request createdBy))
      (.advance client overrideId) = true := by
  have hnone : ∀ p ∈ s.tables.overrides.rows,
      p.place ≠ (flag.flagId, orgId, request.scope, request.targetId) := by
    rw [existingOverride] at hexisting
    generalize hrows : s.tables.overrides.rows.filter _ = rows at hexisting
    rcases rows with _ | ⟨o, _ | ⟨p, rows⟩⟩
    · intro p hp hplace
      exact List.filter_eq_nil_iff.mp hrows p hp (decide_eq_true hplace)
    · cases hexisting
    · cases hexisting
  have hrival : hasRival s.tables s.now (newOverride orgId flag request createdBy overrideId s.now)
      = false := by
    rw [← Bool.not_eq_true, hasRival_eq_true]
    rintro ⟨-, -, p, hp, -, -, hplace⟩
    exact hnone p hp hplace
  rw [keepsUnique.eq_def]
  simp only [State.goTo, Function.update_self, hrival, Bool.not_false, Bool.or_true]

end

/-! ### Two creations -/

/-- No flags, and no client at work. -/
def start : State (Bool ⊕ Str) := ⟨.empty, fun _ => .idle, 0⟩

def darkMode : FeatureFlag (Bool ⊕ Str) where
  key := "dark".toList
  name := "Dark".toList
  description := none
  valueType := .boolean
  defaultValue := .inl false
  enabledValue := .inl true
  tags := []
  metadata := .inr []
  flagId := "f".toList
  orgId := "o".toList
  enabled := false
  isKillswitch := false
  status := .active
  rollout := default
  targeting := none
  expiresAt := none
  createdAt := 0
  updatedAt := 0
  createdBy := none
  version := 1

/-- An override for the organization is created. -/
def darkForOrg : Call (Bool ⊕ Str) :=
  .createOverride "o".toList ⟨"dark".toList, .org, none, .inl true, true, none, none, rfl, rfl⟩
    "u".toList

/-- The second creation comes after the first, and is refused. -/
theorem overrides_unique_one_by_one :
    ((exec (step (.jsonDumps plainTypes)) start
      [.insertFlag darkMode, .call 0 darkForOrg, .advance 0 [], .advance 0 "a".toList,
        .call 1 darkForOrg, .advance 1 []]).isSome = true) ∧
    ∀ pre t, pre <+: [.insertFlag darkMode, .call 0 darkForOrg, .advance 0 [],
        .advance 0 "a".toList, .call 1 darkForOrg, .advance 1 []] →
      exec (step (.jsonDumps plainTypes)) start pre = some t → OverridesUnique t :=
  ⟨by decide, (overrides_unique_iff (.jsonDumps plainTypes)
    (fun _ ho => absurd ho List.not_mem_nil) rfl).mpr (by decide)⟩

/-- Both have looked before either inserts, and the lookup raises. -/
theorem race_for_org :
    ¬ ∀ labels t, exec (step (.jsonDumps plainTypes)) start labels = some t →
      OverridesUnique t := by
  intro hall
  obtain ⟨-, hlookup⟩ := hall
    [.insertFlag darkMode, .call 0 darkForOrg, .call 1 darkForOrg, .advance 0 [], .advance 1 [],
      .advance 0 "a".toList, .advance 1 "b".toList] _ rfl
  obtain ⟨o, ho⟩ := hlookup "f".toList "o".toList .org none
  cases ho

end FlagOverrides

end OpenLangGraph

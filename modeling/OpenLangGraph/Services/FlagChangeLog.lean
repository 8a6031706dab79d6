import OpenLangGraph.Foundation.Transition
import OpenLangGraph.Services.FlagEvaluation

/-!
# The log of changes

An edit of a flag is in the table of flags if and only if its entry is in the log, and an edit that
raises has changed nothing: both hold of an edit exactly if it meets `keeps`.

## Where they part

* The change is committed before its entry. What fails in between, or with the entry, leaves a
  change that is not in the log, and what has been evaluated of the flag is kept.
* The entry of a deletion is for a flag that is gone, which the foreign key refuses.
* After an update the row may be one that the response does not accept.
* `json.dumps` takes no entry at all.

## Main definitions

* `Operation`, `perform`, `step` — edits of flags, and what they do
* `Agrees` — what is asked of an edit
* `keeps` — the edits that meet it

## Main results

* `agrees_iff` — one edit
* `log_agrees_iff` — runs
* `isLogged_of_not_serializes` — with `json.dumps`, no edit that is committed is logged
-/

namespace OpenLangGraph

namespace FlagChangeLog

open FeatureFlagService FlagEvaluation PyString Transition UnitOfWork

variable {ν : Type}

/-! ### Operations -/

/-- An edit of a flag, when it is made, and the statement of it that fails. A toggle is an update
that sets `enabled`. -/
structure Operation {ν : Type} (types : ValueTypes ν) where
  edit : FlagEdit types
  now : ℕ
  fault : Option (Fault Point)

section

variable (setting : FlagEvaluation.Setting ν)

def Operation.outcome (t : FlagTables ν) (operation : Operation setting.types) :
    FeatureFlagService.Outcome ν :=
  operation.edit.perform setting.toSetting t operation.now operation.fault

/-- The state after an operation. -/
def perform (s : State ν) (operation : Operation setting.types) : State ν :=
  s.after setting (operation.outcome setting s.tables)

def step (s : State ν) (operation : Operation setting.types) : Option (State ν) :=
  some (perform setting s operation)

/-! ### What is asked -/

/-- The entry is about the edit. -/
def isEntry {types : ValueTypes ν} (e : FeatureFlagChangeLog ν) : FlagEdit types → Prop
  | .createFlag orgId request createdBy flagId eventId =>
    e.eventId = eventId ∧ e.flagId = flagId ∧ e.flagKey = request.key ∧ e.orgId = orgId ∧
      e.eventType = "created".toList ∧ e.changedBy = some createdBy
  | .updateFlag orgId flagId request updatedBy eventId =>
    e.eventId = eventId ∧ e.flagId = flagId ∧ e.orgId = orgId ∧
      e.eventType = updateEvent request ∧ e.changedBy = some updatedBy
  | .deleteFlag orgId flagId deletedBy eventId =>
    e.eventId = eventId ∧ e.flagId = flagId ∧ e.orgId = orgId ∧
      e.eventType = "deleted".toList ∧ e.changedBy = some deletedBy

/-- **The flags and the log agree** about an operation, and one that raises changes nothing. -/
structure Agrees (s : State ν) (operation : Operation setting.types) : Prop where
  logged : (perform setting s operation).tables.flags ≠ s.tables.flags ↔
    ∃ e ∈ (perform setting s operation).tables.changeLog.rows,
      e ∉ s.tables.changeLog.rows ∧ isEntry e operation.edit
  unchanged : (operation.outcome setting s.tables).raises = true → perform setting s operation = s

/-! ### The condition -/

/-- What the first transaction of an edit makes of the tables, if it gets to its commit. -/
def commits (t : FlagTables ν) (now : ℕ) : FlagEdit setting.types → Option (FlagTables ν)
  | .createFlag orgId request createdBy flagId _ =>
    match getFlagByKey setting.toSetting t orgId request.key with
    | .ok none => t.insertFlag (newFlag orgId request createdBy flagId now)
    | _ => none
  | .updateFlag orgId flagId request _ _ =>
    (t.flag? orgId flagId).bind fun row =>
      match toPydantic setting.toSetting row with
      | .ok _ => writeUpdate request now row t
      | .error _ => none
  | .deleteFlag orgId flagId _ _ =>
    (t.flag? orgId flagId).bind fun row =>
      match toPydantic setting.toSetting row with
      | .ok _ => some (t.deleteFlag flagId)
      | .error _ => none

/-- The id of an entry is new. -/
def isNew (t : FlagTables ν) (eventId : Str) : Bool :=
  !t.changeLog.rows.any fun e => e.eventId = eventId

/-- The log takes the entry of the edit. -/
def isLogged (t : FlagTables ν) (now : ℕ) : FlagEdit setting.types → Bool
  | .createFlag orgId request createdBy flagId eventId =>
    setting.serializes (.flag (newFlag orgId request createdBy flagId now)) && isNew t eventId
  | .updateFlag orgId flagId request _ eventId =>
    (t.flag? orgId flagId).any fun row =>
      match toPydantic setting.toSetting row,
          toPydantic setting.toSetting ((updatedFlag request now row).getD row) with
      | .ok previous, .ok flag =>
        setting.serializes (.flag previous) && setting.serializes (.flag flag) && isNew t eventId
      | _, _ => false
  | .deleteFlag .. => false

/-- A failure of the statement leaves the tables as they were: nothing has been committed. -/
def leaves (durable : Bool) : Point → Bool
  | .reading | .writing => true
  | .committing => !durable
  | .refreshing | .logging | .committingLog => false

/-- **The edits that agree with the log**: nothing is committed, or nothing fails and the entry is
taken. -/
def keeps (t : FlagTables ν) (operation : Operation setting.types) : Bool :=
  (commits setting t operation.now operation.edit).isNone ||
    match operation.fault with
    | none => isLogged setting t operation.now operation.edit
    | some f => leaves f.durable f.point

end

/-! ### The programs -/

section

variable {setting : FeatureFlagService.Setting ν} {t t₁ t₂ : FlagTables ν}
  {entry : FeatureFlagChangeLog ν} {fault : Option (Fault Point)} {β : Type}

theorem flags_addChange (h : addChange setting entry t = some t₁) : t₁.flags = t.flags := by
  rw [addChange] at h
  split at h
  · exact (FlagTables.insertChange_eq_some h).2.1
  · cases h

/-- What is left of the rest of a program, after the first transaction. -/
def settle (t₁ : FlagTables ν) (rest : FlagProgram ν Point β) (fault : Option (Fault Point)) :
    FeatureFlagService.Outcome ν :=
  let effects := rest.run fault ⟨t₁, t₁, true⟩
  ⟨effects.session.committed, effects.started, !effects.result.isOk⟩

/-- An edit that does not come to its write. -/
theorem outcome_raise {first : FlagTables ν → FlagProgram ν Point β} {e : FlagError}
    (h : first t = .raise e) (fault : Option (Fault Point)) :
    outcome t (.query .reading first) fault = ⟨t, [], true⟩ := by
  cases hat : Fault.isAt fault .reading <;>
    simp [outcome, UnitOfWork.Program.run, hat, h, Except.isOk, Except.toBool]

/-- An edit whose write is refused. -/
theorem outcome_refused {first : FlagTables ν → FlagProgram ν Point β}
    (write : FlagTables ν → Option (FlagTables ν)) {rest : FlagProgram ν Point β}
    (h : first t = .flush .writing write (.commit .committing rest)) (hwrite : write t = none)
    (fault : Option (Fault Point)) :
    outcome t (.query .reading first) fault = ⟨t, [], true⟩ := by
  cases hreading : Fault.isAt fault .reading <;> cases hwriting : Fault.isAt fault .writing <;>
    simp [outcome, UnitOfWork.Program.run, hreading, hwriting, h, hwrite, Except.isOk,
      Except.toBool]

/-- An edit that is written. -/
theorem outcome_written {first : FlagTables ν → FlagProgram ν Point β}
    {write : FlagTables ν → Option (FlagTables ν)} {rest : FlagProgram ν Point β}
    (h : first t = .flush .writing write (.commit .committing rest)) (hwrite : write t = some t₁)
    (fault : Option (Fault Point)) :
    outcome t (.query .reading first) fault =
      match fault with
      | none => settle t₁ rest none
      | some f =>
        if leaves f.durable f.point then ⟨t, [], true⟩
        else if f.point = .committing then ⟨t₁, [], true⟩
        else settle t₁ rest (some f) := by
  cases fault with
  | none => simp [outcome, settle, UnitOfWork.Program.run, h, hwrite, Session.open]
  | some f =>
    obtain ⟨point, durable, usable⟩ := f
    cases point <;> cases durable <;>
      simp [outcome, settle, leaves, UnitOfWork.Program.run, h, hwrite, Session.open, Except.isOk,
        Except.toBool]

/-- The entry is taken. -/
theorem settle_logChange (hadd : addChange setting entry t₁ = some t₂) (b : β) :
    settle t₁ (logChange setting id entry (.done b)) none =
      ⟨t₂, [⟨entry.orgId, entry.flagKey⟩], false⟩ := by
  simp [settle, logChange, UnitOfWork.Program.run, hadd, Except.isOk, Except.toBool]

/-- The entry is not taken, or its transaction fails. -/
theorem settle_logChange_raises (b : β)
    (h : addChange setting entry t₁ = none ∨
      ∃ f, fault = some f ∧ (f.point = .logging ∨ f.point = .committingLog)) :
    (settle t₁ (logChange setting id entry (.done b)) fault).raises = true ∧
      (settle t₁ (logChange setting id entry (.done b)) fault).tables.flags = t₁.flags := by
  cases hadd : addChange setting entry t₁ with
  | none =>
    cases hat : Fault.isAt fault .logging <;>
      simp [settle, logChange, UnitOfWork.Program.run, hadd, hat, Except.isOk, Except.toBool]
  | some t₂ =>
    obtain ⟨⟨point, durable, usable⟩, rfl, hpoint⟩ := h.resolve_left (by simp [hadd])
    have hflags : t₂.flags = t₁.flags := flags_addChange hadd
    rcases hpoint with rfl | rfl <;> cases durable <;>
      simp [settle, logChange, UnitOfWork.Program.run, hadd, hflags, Except.isOk, Except.toBool]

theorem settle_refresh (next : FlagTables ν → FlagProgram ν Point β) :
    settle t₁ (.query .refreshing next) fault =
      if (Fault.isAt fault .refreshing).isSome then ⟨t₁, [], true⟩
      else settle t₁ (next t₁) fault := by
  cases hat : Fault.isAt fault .refreshing <;>
    simp [settle, UnitOfWork.Program.run, hat, Except.isOk, Except.toBool]

/-- The statements after the first transaction. -/
def isLate (point : Point) : Bool :=
  match point with
  | .refreshing | .logging | .committingLog => true
  | .reading | .writing | .committing => false

/-- After a creation or an update the row is read back, and converted. -/
theorem settle_refresh_raises {x : Except FlagError (FeatureFlag ν)}
    {entryOf : FeatureFlag ν → FeatureFlagChangeLog ν}
    (h : (∀ flag, x = .ok flag → addChange setting (entryOf flag) t₁ = none) ∨
      ∃ f, fault = some f ∧ isLate f.point = true) :
    let o := settle t₁ (.query .refreshing fun _ => orRaise x fun flag =>
      logChange setting id (entryOf flag) (.done flag)) fault
    o.raises = true ∧ o.tables.flags = t₁.flags := by
  rw [settle_refresh]
  cases hat : Fault.isAt fault .refreshing with
  | some f => exact ⟨rfl, rfl⟩
  | none =>
    cases x with
    | error e => exact ⟨rfl, rfl⟩
    | ok flag =>
      refine settle_logChange_raises flag (h.imp (fun hadd => hadd flag rfl) ?_)
      rintro ⟨⟨point, durable, usable⟩, rfl, hlate⟩
      refine ⟨_, rfl, ?_⟩
      cases point with
      | reading | writing | committing => cases hlate
      | refreshing => simp at hat
      | logging => exact .inl rfl
      | committingLog => exact .inr rfl

end

/-! ### Edits -/

section

variable {setting : FlagEvaluation.Setting ν} {s : State ν} {operation : Operation setting.types}
  {t t₁ : FlagTables ν} {β : Type}

theorem agrees_of_unchanged (h : operation.outcome setting s.tables = ⟨s.tables, [], true⟩) :
    Agrees setting s operation := by
  have hsame : perform setting s operation = s := by
    rw [perform, h]
    rfl
  refine ⟨?_, fun _ => hsame⟩
  rw [hsame]
  exact iff_of_false (fun h => h rfl) fun ⟨e, he, hne, _⟩ => hne he

theorem not_agrees (hraises : (operation.outcome setting s.tables).raises = true)
    (h : (operation.outcome setting s.tables).tables.flags ≠ s.tables.flags) :
    ¬ Agrees setting s operation := by
  intro hagrees
  have hsame := hagrees.unchanged hraises
  exact h (congrArg (·.tables.flags) hsame)

/-- An edit whose first transaction makes `t₁` of the tables, and whose rest logs it exactly if `L`
holds and nothing fails. -/
theorem agrees_written_iff {first : FlagTables ν → FlagProgram ν Point β}
    (write : FlagTables ν → Option (FlagTables ν)) {rest : FlagProgram ν Point β} {L : Bool}
    (houtcome : operation.outcome setting s.tables =
      outcome s.tables (.query .reading first) operation.fault)
    (hfirst : first s.tables = .flush .writing write (.commit .committing rest))
    (hwrite : write s.tables = some t₁) (hne : t₁.flags ≠ s.tables.flags)
    (hlogged : L = true → (settle t₁ rest none).raises = false ∧
      (settle t₁ rest none).tables.flags = t₁.flags ∧
        ∃ e ∈ (settle t₁ rest none).tables.changeLog.rows,
          e ∉ s.tables.changeLog.rows ∧ isEntry e operation.edit)
    (hraises : ∀ fault, (L = false ∨ ∃ f, fault = some f ∧ isLate f.point = true) →
      (settle t₁ rest fault).raises = true ∧ (settle t₁ rest fault).tables.flags = t₁.flags) :
    Agrees setting s operation ↔
      (match operation.fault with
        | none => L
        | some f => leaves f.durable f.point) = true := by
  have hwritten := houtcome.trans (outcome_written hfirst hwrite operation.fault)
  cases hfault : operation.fault with
  | none =>
    rw [hfault] at hwritten
    dsimp only at hwritten ⊢
    cases hL : L with
    | false =>
      obtain ⟨hraise, hflags⟩ := hraises none (.inl hL)
      rw [← hwritten] at hraise hflags
      exact iff_of_false (not_agrees hraise (hflags ▸ hne)) Bool.false_ne_true
    | true =>
      obtain ⟨hraise, hflags, hentry⟩ := hlogged hL
      rw [← hwritten] at hraise hflags hentry
      refine iff_of_true ⟨?_, fun h => by rw [hraise] at h; cases h⟩ rfl
      exact iff_of_true (fun h => hne (hflags.symm.trans h)) hentry
  | some f =>
    rw [hfault] at hwritten
    dsimp only at hwritten ⊢
    by_cases hleaves : leaves f.durable f.point = true
    · rw [if_pos hleaves] at hwritten
      exact iff_of_true (agrees_of_unchanged hwritten) hleaves
    · rw [if_neg hleaves] at hwritten
      refine iff_of_false ?_ hleaves
      by_cases hcommitting : f.point = .committing
      · rw [if_pos hcommitting] at hwritten
        exact not_agrees (by rw [hwritten]) (by rw [hwritten]; exact hne)
      · rw [if_neg hcommitting] at hwritten
        have hlate : isLate f.point = true := by
          obtain ⟨point, durable, usable⟩ := f
          cases point with
          | reading | writing => exact absurd rfl hleaves
          | committing => exact absurd rfl hcommitting
          | refreshing | logging | committingLog => rfl
        obtain ⟨hraise, hflags⟩ := hraises (some f) (.inr ⟨f, rfl, hlate⟩)
        rw [← hwritten] at hraise hflags
        exact not_agrees hraise (hflags ▸ hne)

/-! ### The statements on the tables -/

theorem flag?_eq_some {orgId flagId : Str} {row : FeatureFlag ν}
    (h : t.flag? orgId flagId = some row) : row ∈ t.flags.rows ∧ row.flagId = flagId := by
  have hp := List.find?_some h
  rw [Bool.and_eq_true, decide_eq_true_eq, decide_eq_true_eq] at hp
  exact ⟨List.mem_of_find?_eq_some h, hp.2⟩

theorem flags_inserted {f : FeatureFlag ν} (h : t.insertFlag f = some t₁) :
    t₁.flags ≠ t.flags ∧ f.flagId ∈ t₁.flags.rows.map FeatureFlag.flagId ∧
      t₁.changeLog = t.changeLog := by
  obtain ⟨-, hinsert, -, hlog⟩ := FlagTables.insertFlag_eq_some h
  obtain ⟨hnew, hrows⟩ := Table.insert_eq_some hinsert
  have hmem : f.flagId ∈ t₁.flags.rows.map FeatureFlag.flagId := by
    rw [hrows]
    exact List.mem_map_of_mem (List.mem_append_right _ (List.mem_singleton_self _))
  exact ⟨fun heq => hnew (heq ▸ hmem), hmem, hlog⟩

/-- An update raises the version of the row. -/
theorem flags_updated {row : FeatureFlag ν} {request : FeatureFlagUpdate ν} {now : ℕ}
    (hrow : row ∈ t.flags.rows) (h : writeUpdate request now row t = some t₁) :
    t₁.flags ≠ t.flags ∧ row.flagId ∈ t₁.flags.rows.map FeatureFlag.flagId ∧
      t₁.changeLog = t.changeLog := by
  obtain ⟨row', hrow', rfl⟩ := Option.map_eq_some_iff.mp h
  obtain ⟨hid, -, -, hversion⟩ := updatedFlag_eq_some hrow'
  have hfind : (t.updateFlag row.flagId (fun row => (updatedFlag request now row).getD row)
      (updatedFlag_getD request now)).flags.find? row.flagId = some row' := by
    show (t.flags.updateIf _ _ fun row => (updatedFlag_getD request now row).1).find? _ = _
    rw [Table.find?_updateIf, Table.find?_key hrow, Option.map_some,
      if_pos (decide_eq_true rfl), hrow', Option.getD_some]
  refine ⟨fun heq => ?_, ?_, rfl⟩
  · rw [heq, Table.find?_key hrow] at hfind
    rw [Option.some.inj hfind] at hversion
    omega
  · exact List.mem_map.mpr ⟨row', (Table.find?_eq_some_iff.mp hfind).1, hid⟩

theorem flags_deleted {row : FeatureFlag ν} (hrow : row ∈ t.flags.rows) :
    (t.deleteFlag row.flagId).flags ≠ t.flags := by
  intro heq
  have hmem : row ∈ (t.deleteFlag row.flagId).flags.rows := heq ▸ hrow
  simpa using (List.mem_filter.mp hmem).2

/-- An entry is taken if it is serialized, its id is new and its flag is there. -/
theorem exists_addChange {entry : FeatureFlagChangeLog ν}
    (hflag : entry.flagId ∈ t.flags.rows.map FeatureFlag.flagId)
    (hserializes : (entry.previousValue.all setting.serializes &&
      entry.newValue.all setting.serializes) = true) (hnew : isNew t entry.eventId = true) :
    ∃ t', addChange setting.toSetting entry t = some t' ∧ entry ∈ t'.changeLog.rows ∧
      entry ∉ t.changeLog.rows := by
  have hid : entry.eventId ∉ t.changeLog.rows.map FeatureFlagChangeLog.eventId := by
    intro hmem
    obtain ⟨e, he, heid⟩ := List.mem_map.mp hmem
    rw [isNew, Bool.not_eq_true', List.any_eq_false] at hnew
    exact hnew e he (decide_eq_true heid)
  rw [addChange, if_pos hserializes]
  cases hinsert : t.insertChange entry with
  | none =>
    rw [FlagTables.insertChange, dif_pos hflag] at hinsert
    split at hinsert
    · next h => exact absurd (Table.mem_of_insert_eq_none h) hid
    · cases hinsert
  | some t' =>
    obtain ⟨hlog, -, -⟩ := FlagTables.insertChange_eq_some hinsert
    refine ⟨t', rfl, ?_, fun hmem => hid (List.mem_map_of_mem hmem)⟩
    rw [(Table.insert_eq_some hlog).2]
    exact List.mem_append_right _ (List.mem_singleton_self _)

/-- It is not taken otherwise. -/
theorem addChange_eq_none {entry : FeatureFlagChangeLog ν}
    (h : (entry.previousValue.all setting.serializes && entry.newValue.all setting.serializes &&
      isNew t entry.eventId) = false) : addChange setting.toSetting entry t = none := by
  rw [addChange]
  split
  · next hserializes =>
    rw [hserializes, Bool.true_and] at h
    cases hinsert : t.insertChange entry with
    | none => rfl
    | some t' =>
      obtain ⟨hlog, -, -⟩ := FlagTables.insertChange_eq_some hinsert
      have hid := (Table.insert_eq_some hlog).1
      rw [isNew, Bool.not_eq_false', List.any_eq_true] at h
      obtain ⟨e, he, heid⟩ := h
      exact absurd (List.mem_map.mpr ⟨e, he, of_decide_eq_true heid⟩) hid
  · rfl

/-- A creation or an update is logged if its row is converted and its entry taken. -/
theorem settle_refresh_logged {x : Except FlagError (FeatureFlag ν)} {flag : FeatureFlag ν}
    (entryOf : FeatureFlag ν → FeatureFlagChangeLog ν) (hx : x = .ok flag)
    (hflag : (entryOf flag).flagId ∈ t.flags.rows.map FeatureFlag.flagId)
    (hserializes : ((entryOf flag).previousValue.all setting.serializes &&
      (entryOf flag).newValue.all setting.serializes) = true)
    (hnew : isNew t (entryOf flag).eventId = true) :
    let o := settle t (.query .refreshing fun _ => orRaise x fun flag =>
      logChange setting.toSetting id (entryOf flag) (.done flag)) none
    o.raises = false ∧ o.tables.flags = t.flags ∧ entryOf flag ∈ o.tables.changeLog.rows ∧
      entryOf flag ∉ t.changeLog.rows := by
  obtain ⟨t', hadd, hmem, hnotMem⟩ := exists_addChange hflag hserializes hnew
  intro o
  have ho : o = ⟨t', [⟨(entryOf flag).orgId, (entryOf flag).flagKey⟩], false⟩ := by
    show settle t _ none = _
    rw [settle_refresh, Fault.isAt_none, hx]
    exact settle_logChange hadd flag
  rw [ho]
  exact ⟨rfl, flags_addChange hadd, hmem, hnotMem⟩

theorem toPydantic_newFlag {orgId createdBy flagId : Str} {now : ℕ}
    (request : FeatureFlagCreate setting.types) :
    toPydantic setting.toSetting (newFlag orgId request createdBy flagId now) =
      .ok (newFlag orgId request createdBy flagId now) := by
  have hvalid : (newFlag orgId request createdBy flagId now).toFeatureFlagBase.validate
      setting.types = .ok request.toFeatureFlagBase := request.valid
  rw [toPydantic, hvalid]
  rfl

/-! ### Operations and runs -/

theorem agrees_createFlag_iff {orgId createdBy flagId eventId : Str} {now : ℕ}
    {fault : Option (Fault Point)} (request : FeatureFlagCreate setting.types) :
    Agrees setting s ⟨.createFlag orgId request createdBy flagId eventId, now, fault⟩ ↔
      keeps setting s.tables
        ⟨.createFlag orgId request createdBy flagId eventId, now, fault⟩ = true := by
  rw [keeps, commits]
  cases hexisting : getFlagByKey setting.toSetting s.tables orgId request.key with
  | error e =>
    exact iff_of_true (agrees_of_unchanged (outcome_raise (by rw [hexisting]; rfl) fault)) rfl
  | ok existing =>
    cases existing with
    | some flag =>
      exact iff_of_true (agrees_of_unchanged (outcome_raise (by rw [hexisting]; rfl) fault)) rfl
    | none =>
      dsimp only
      cases hinsert : s.tables.insertFlag (newFlag orgId request createdBy flagId now) with
      | none =>
        exact iff_of_true (agrees_of_unchanged
          (outcome_refused (·.insertFlag (newFlag orgId request createdBy flagId now))
            (by rw [hexisting]; rfl) hinsert fault)) rfl
      | some t₁ =>
        obtain ⟨hne, hflag, hlog⟩ := flags_inserted hinsert
        have hisNew : isNew t₁ eventId = isNew s.tables eventId := by rw [isNew, isNew, hlog]
        rw [Option.isNone_some, Bool.false_or]
        refine agrees_written_iff (·.insertFlag (newFlag orgId request createdBy flagId now)) rfl
          (by rw [hexisting]; rfl) hinsert hne ?_ ?_
        · intro hlogged
          rw [isLogged, Bool.and_eq_true, ← hisNew] at hlogged
          obtain ⟨hraises, hflags, hmem, hnew⟩ := settle_refresh_logged
            (fun flag => changeEntry eventId now flagId request.key orgId "created".toList createdBy
              none (some (.flag flag)))
            (toPydantic_newFlag request) hflag (by simpa [changeEntry] using hlogged.1) hlogged.2
          exact ⟨hraises, hflags, _, hmem, hlog ▸ hnew, rfl, rfl, rfl, rfl, rfl, rfl⟩
        · intro fault h
          refine settle_refresh_raises (h.imp_left fun hlogged flag hflag => ?_)
          rw [isLogged, ← hisNew] at hlogged
          obtain rfl := Except.ok.inj ((toPydantic_newFlag request).symm.trans hflag)
          exact addChange_eq_none (by simpa [changeEntry] using hlogged)

theorem agrees_updateFlag_iff {orgId flagId updatedBy eventId : Str} {now : ℕ}
    {fault : Option (Fault Point)} (request : FeatureFlagUpdate ν) :
    Agrees setting s ⟨.updateFlag orgId flagId request updatedBy eventId, now, fault⟩ ↔
      keeps setting s.tables
        ⟨.updateFlag orgId flagId request updatedBy eventId, now, fault⟩ = true := by
  rw [keeps, commits]
  cases hrow : s.tables.flag? orgId flagId with
  | none => exact iff_of_true (agrees_of_unchanged (outcome_raise (by rw [hrow]) fault)) rfl
  | some row =>
    obtain ⟨hmem, rfl⟩ := flag?_eq_some hrow
    rw [Option.bind_some]
    cases hprevious : toPydantic setting.toSetting row with
    | error e =>
      exact iff_of_true (agrees_of_unchanged
        (outcome_raise (by rw [hrow]; dsimp only; rw [hprevious]; rfl) fault)) rfl
    | ok previous =>
      dsimp only
      cases hwrite : writeUpdate request now row s.tables with
      | none =>
        exact iff_of_true (agrees_of_unchanged (outcome_refused (writeUpdate request now row)
          (by rw [hrow]; dsimp only; rw [hprevious]; rfl) hwrite fault)) rfl
      | some t₁ =>
        obtain ⟨hne, hflag, hlog⟩ := flags_updated hmem hwrite
        have hisNew : isNew t₁ eventId = isNew s.tables eventId := by rw [isNew, isNew, hlog]
        rw [Option.isNone_some, Bool.false_or]
        refine agrees_written_iff (writeUpdate request now row) rfl
          (by rw [hrow]; dsimp only; rw [hprevious]; rfl) hwrite hne ?_ ?_
        · intro hlogged
          rw [isLogged, hrow, Option.any_some, hprevious] at hlogged
          cases hx : toPydantic setting.toSetting ((updatedFlag request now row).getD row) with
          | error e =>
            rw [hx] at hlogged
            cases hlogged
          | ok flag =>
            rw [hx, Bool.and_eq_true, ← hisNew] at hlogged
            obtain ⟨hraises, hflags, hentry, hnew⟩ := settle_refresh_logged
              (fun flag => changeEntry eventId now row.flagId
                ((updatedFlag request now row).getD row).key orgId (updateEvent request) updatedBy
                (some (.flag previous)) (some (.flag flag)))
              (rfl : Except.ok flag = _) hflag (by simpa [changeEntry] using hlogged.1) hlogged.2
            exact ⟨hraises, hflags, _, hentry, hlog ▸ hnew, rfl, rfl, rfl, rfl, rfl⟩
        · intro fault h
          refine settle_refresh_raises (h.imp_left fun hlogged flag hx => ?_)
          rw [isLogged, hrow, Option.any_some, hprevious, hx, ← hisNew] at hlogged
          exact addChange_eq_none (by simpa [changeEntry] using hlogged)

/-- A deletion that gets to its commit is never logged. -/
theorem agrees_deleteFlag_iff {orgId flagId deletedBy eventId : Str} {now : ℕ}
    {fault : Option (Fault Point)} :
    Agrees setting s ⟨.deleteFlag orgId flagId deletedBy eventId, now, fault⟩ ↔
      keeps setting s.tables ⟨.deleteFlag orgId flagId deletedBy eventId, now, fault⟩ = true := by
  rw [keeps, commits]
  cases hrow : s.tables.flag? orgId flagId with
  | none => exact iff_of_true (agrees_of_unchanged (outcome_raise (by rw [hrow]) fault)) rfl
  | some row =>
    obtain ⟨hmem, rfl⟩ := flag?_eq_some hrow
    rw [Option.bind_some]
    cases hprevious : toPydantic setting.toSetting row with
    | error e =>
      exact iff_of_true (agrees_of_unchanged
        (outcome_raise (by rw [hrow]; dsimp only; rw [hprevious]; rfl) fault)) rfl
    | ok previous =>
      rw [Option.isNone_some, Bool.false_or]
      refine agrees_written_iff (fun t => some (t.deleteFlag row.flagId)) rfl
        (by rw [hrow]; dsimp only; rw [hprevious]; rfl) rfl (flags_deleted hmem) ?_ ?_
      · intro hlogged
        cases hlogged
      · intro fault _
        refine settle_logChange_raises () (.inl ?_)
        rw [addChange]
        split
        · exact FlagTables.insertChange_deleteFlag s.tables
            (changeEntry eventId now row.flagId row.key orgId "deleted".toList deletedBy
              (some (.flag previous)) none)
        · rfl

/-- `json.dumps` takes no dump, so no edit that is committed is logged. -/
theorem isLogged_of_not_serializes (h : ∀ dump, setting.serializes dump = false)
    (t : FlagTables ν) (now : ℕ) (edit : FlagEdit setting.types) :
    isLogged setting t now edit = false := by
  cases edit with
  | createFlag orgId request createdBy flagId eventId => rw [isLogged, h, Bool.false_and]
  | deleteFlag orgId flagId deletedBy eventId => rfl
  | updateFlag orgId flagId request updatedBy eventId =>
    rw [isLogged]
    cases t.flag? orgId flagId with
    | none => rfl
    | some row =>
      rw [Option.any_some]
      split
      · rw [h, Bool.false_and, Bool.false_and]
      · rfl

/-- **One edit** agrees with the log, and changes nothing if it raises, exactly if it meets the
condition. -/
theorem agrees_iff (setting : FlagEvaluation.Setting ν) (s : State ν)
    (operation : Operation setting.types) :
    Agrees setting s operation ↔ keeps setting s.tables operation = true := by
  obtain ⟨edit, now, fault⟩ := operation
  cases edit with
  | createFlag orgId request createdBy flagId eventId => exact agrees_createFlag_iff request
  | updateFlag orgId flagId request updatedBy eventId => exact agrees_updateFlag_iff request
  | deleteFlag orgId flagId deletedBy eventId => exact agrees_deleteFlag_iff

/-- **The flags and their log** agree about every edit of a run, and every edit that raises leaves
flags, overrides, log and cache alone, exactly if all edits meet the condition. -/
theorem log_agrees_iff (setting : FlagEvaluation.Setting ν) (s : State ν)
    (operations : List (Operation setting.types)) :
    Along (step setting) (Agrees setting) s operations ↔
      Along (step setting) (fun s operation => keeps setting s.tables operation = true) s
        operations :=
  along_iff_along (I := fun _ => True) (fun s operation _ => agrees_iff setting s operation)
    (fun _ _ _ _ _ _ => trivial) trivial

end

/-! ### Edits that are not logged -/

/-- A boolean flag. -/
def darkMode : FeatureFlagCreate plainTypes where
  key := "dark".toList
  name := "Dark".toList
  description := none
  valueType := .boolean
  defaultValue := .inl false
  enabledValue := .inl true
  tags := []
  metadata := .inr []
  valid := rfl

def creation : Operation plainTypes :=
  ⟨.createFlag "o".toList darkMode "u".toList "f".toList "a".toList, 0, none⟩

def deletion : Operation plainTypes :=
  ⟨.deleteFlag "o".toList "f".toList "u".toList "b".toList, 1, none⟩

/-- A deletion is not logged, whatever is serialized. Where no datetime is, a creation is not
either. -/
theorem log_disagrees :
    (¬ ∀ operations, Along (step (withoutRollout true)) (Agrees (withoutRollout true))
      ⟨.empty, .empty, 0⟩ operations) ∧
    ¬ ∀ operations, Along (step (withoutRollout false)) (Agrees (withoutRollout false))
      ⟨.empty, .empty, 0⟩ operations := by
  constructor
  · intro hall
    obtain ⟨-, hrest⟩ := hall [creation, deletion]
    have hsame := (hrest _ rfl).1.unchanged rfl
    exact absurd (congrArg (·.tables.flags.rows.length) hsame) (by decide)
  · intro hall
    have hsame := (hall [creation]).1.unchanged rfl
    exact absurd (congrArg (·.tables.flags.rows.length) hsame) (by decide)

end FlagChangeLog

end OpenLangGraph
